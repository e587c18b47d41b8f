import NodeModbus.Lib.Framing

/-!
# Frames on their way

One direction of a connection: what is sent arrives in its order, but not in the
pieces in which it was sent. The frames that have not arrived whole are kept as
they were sent, with the number of elements of the first one that have arrived.

- `Wire`, `send`, `deliver`: sending frames, and delivering a number of elements.
- `front`, `next`: what the receiver has of the first frame, and what comes next.
- `exists_deliver`: what is delivered are whole frames, and a part of the next one
  that the receiver holds back when it is not a bad cut.
-/

namespace Framing

variable {α β γ φ : Type}

/-- Frames on their way, and how much of the first one has arrived. -/
structure Wire (α : Type) where
  frames : List (List α)
  arrived : Nat
  deriving DecidableEq

namespace Wire

/-- A new connection. -/
def empty : Wire α := ⟨[], 0⟩

/-- Frames go out behind the others. -/
def send (w : Wire α) (frames : List (List α)) :
    Wire α := { w with frames := w.frames ++ frames }

/-- What has arrived of the first frame. -/
def front (w : Wire α) : List α := w.frames.flatten.take w.arrived

/-- The next elements that arrive. -/
def next (w : Wire α) (n : Nat) : List α := (w.frames.flatten.drop w.arrived).take n

/-- Take the whole frames off that `n` elements make up. -/
def skip : List (List α) → Nat → Wire α
  | [], _ => empty
  | f :: frames, n => if n < f.length then ⟨f :: frames, n⟩ else skip frames (n - f.length)

/-- The wire when the next `n` elements have arrived. -/
def deliver (w : Wire α) (n : Nat) : Wire α := skip w.frames (w.arrived + n)

/-- The first frame has not arrived whole. -/
def Fits (w : Wire α) : Prop :=
  match w.frames with
  | [] => w.arrived = 0
  | f :: _ => w.arrived < f.length

/-- The first frame is not cut where it must not be. -/
def Uncut (bad : List α → Nat → Prop) (w : Wire α) :
    Prop := ∀ f ∈ w.frames.head?, ¬ bad f w.arrived

instance (bad : List α → Nat → Prop) [∀ f k, Decidable (bad f k)] (w : Wire α) :
    Decidable (w.Uncut bad) :=
  inferInstanceAs (Decidable (∀ f ∈ w.frames.head?, ¬ bad f w.arrived))

@[simp] theorem send_nil (w : Wire α) : w.send [] = w := by
  rw [send, List.append_nil]

theorem send_append (w : Wire α) (frames frames' : List (List α)) :
    w.send (frames ++ frames') = (w.send frames).send frames' := by
  rw [send, send, send, List.append_assoc]

theorem fits_empty : (empty : Wire α).Fits := rfl

@[simp] theorem front_empty : (empty : Wire α).front = [] := rfl

/-- What has arrived is a part of the first frame. -/
theorem Fits.arrived_le {w : Wire α} (h : w.Fits) : w.arrived ≤ w.frames.flatten.length := by
  unfold Fits at h
  split at h
  · omega
  · rename_i f frames hframes
    rw [hframes, List.flatten_cons, List.length_append]
    omega

theorem Fits.send {w : Wire α} (h : w.Fits) {frames : List (List α)}
    (hne : ∀ f ∈ frames, f ≠ []) : (w.send frames).Fits := by
  unfold Fits at h
  split at h
  · rename_i hframes
    cases frames with
    | nil =>
      rw [Fits, Wire.send, hframes]
      exact h
    | cons f frames =>
      have hf : 0 < f.length := List.length_pos_of_ne_nil (hne f (List.mem_cons_self ..))
      rw [Fits, Wire.send, hframes]
      show w.arrived < f.length
      omega
  · rename_i f rest hframes
    rw [Fits, Wire.send, hframes]
    exact h

/-- What is sent comes behind what has arrived. -/
theorem front_send {w : Wire α} (h : w.Fits) (frames : List (List α)) :
    (w.send frames).front = w.front := by
  rw [front, send, List.flatten_append, List.take_append_of_le_length h.arrived_le, front]

theorem front_append_next (w : Wire α) (n : Nat) :
    w.front ++ w.next n = w.frames.flatten.take (w.arrived + n) := by
  rw [front, next, ← List.take_add]

/-- A number of elements makes up whole frames and a part of the next one. -/
theorem exists_skip (frames : List (List α)) (n : Nat) :
    ∃ done, frames = done ++ (skip frames n).frames ∧
      frames.flatten.take n = done.flatten ++ (skip frames n).front ∧ (skip frames n).Fits := by
  induction frames generalizing n with
  | nil => exact ⟨[], rfl, by simp [skip], fits_empty⟩
  | cons f frames ih =>
    by_cases hlt : n < f.length
    · rw [skip, if_pos hlt]
      exact ⟨[], rfl, rfl, hlt⟩
    · obtain ⟨done, hframes, hflat, hfits⟩ := ih (n - f.length)
      rw [skip, if_neg hlt]
      refine ⟨f :: done, by rw [List.cons_append, ← hframes], ?_, hfits⟩
      rw [List.flatten_cons, List.flatten_cons, List.take_append,
        List.take_of_length_le (by omega), hflat, List.append_assoc]

/-- When as many elements arrive as there are, nothing is left. -/
theorem frames_skip {frames : List (List α)} {n : Nat} (h : frames.flatten.length ≤ n) :
    (skip frames n).frames = [] := by
  induction frames generalizing n with
  | nil => rfl
  | cons f frames ih =>
    rw [List.flatten_cons, List.length_append] at h
    rw [skip, if_neg (by omega)]
    exact ih (by omega)

/-- Everything arrives. -/
theorem frames_deliver_all (w : Wire α) : (w.deliver w.frames.flatten.length).frames = [] :=
  frames_skip (Nat.le_add_left ..)

/-- Then no frame is cut. -/
theorem uncut_of_frames_nil (bad : List α → Nat → Prop) {w : Wire α} (h : w.frames = []) :
    w.Uncut bad := by
  rintro f hf
  rw [h] at hf
  cases hf

theorem arrived_front {F : Format α γ φ} {w : Wire α} {frames : List φ}
    (h : w.frames = frames.map F.bytes) (hfits : w.Fits) :
    Arrived F w.front frames ∧ (frames ≠ [] → w.front.length = w.arrived) := by
  cases frames with
  | nil =>
    rw [front, h]
    exact ⟨List.take_nil, fun hne => absurd rfl hne⟩
  | cons f frames =>
    rw [Fits, h, List.map_cons] at hfits
    have hfits' : w.arrived < (F.bytes f).length := hfits
    have hfront : w.front = (F.bytes f).take w.arrived := by
      rw [front, h, List.map_cons, List.flatten_cons,
        List.take_append_of_le_length (Nat.le_of_lt hfits')]
    refine ⟨⟨w.arrived, hfits', hfront⟩, fun _ => ?_⟩
    rw [hfront, List.length_take, Nat.min_eq_left (Nat.le_of_lt hfits')]

/-- What is delivered to a receiver that recognises the frames: whole frames, and a part of
the next one that it holds back, when that is not a bad cut. -/
theorem exists_deliver {F : Format α γ φ} {waits : List α → Prop}
    {accepts : List α → β → Nat → Prop} {content : β → γ} {bad : List α → Nat → Prop}
    {w : Wire α} {frames : List φ} (hf : ∀ f ∈ frames, Recognised F waits accepts content f)
    (hnil : waits []) (hbad : ∀ f ∈ frames, ∀ k, F.bad f k → bad (F.bytes f) k)
    (hw : w.frames = frames.map F.bytes) (n : Nat) (hcut : (w.deliver n).Uncut bad) :
    ∃ done rest, frames = done ++ rest ∧ (w.deliver n).frames = rest.map F.bytes ∧
    (w.deliver n).Fits ∧
      w.front ++ w.next n = F.flat done ++ (w.deliver n).front ∧ waits (w.deliver n).front := by
  obtain ⟨done, hframes, hflat, hfits⟩ := exists_skip w.frames (w.arrived + n)
  rw [← front_append_next] at hflat
  obtain ⟨done', rest, rfl, rfl, hrest⟩ := List.map_eq_append_iff.mp (hw.symm.trans hframes)
  have hfrest : ∀ f ∈ rest, Recognised F waits accepts content f :=
    fun f hmem => hf f (List.mem_append_right _ hmem)
  have hrest' : (w.deliver n).frames = rest.map F.bytes := hrest.symm
  obtain ⟨harrived, hlen⟩ := arrived_front hrest' hfits
  refine ⟨done', rest, rfl, hrest', hfits, ?_, waits_of_arrived hnil hfrest harrived ?_⟩
  · rw [hflat, Format.flat, List.flatMap_def]
    rfl
  · -- a bad cut of the frame would be one of its bytes
    intro f hhead hbad'
    obtain ⟨post, rfl⟩ := List.head?_eq_some_iff.mp hhead
    rw [hlen (List.cons_ne_nil _ _)] at hbad'
    refine hcut (F.bytes f) ?_
      (hbad f (List.mem_append_right _ (List.mem_cons_self ..)) _ hbad')
    rw [hrest', List.map_cons]
    rfl

end Wire

end Framing
