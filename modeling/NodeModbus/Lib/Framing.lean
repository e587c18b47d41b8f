import Mathlib.Algebra.GroupWithZero.Nat
import Mathlib.Data.List.Basic
import Mathlib.Tactic.Common

/-!
# Frames out of a stream

A receiver keeps the part of the stream it has not consumed. Each time a chunk
arrives it appends it and takes frames off the front until it has to wait for
more. This file says when the frames come out right however the stream is cut.

- `Drain`: a function that takes values off the front of a buffer as long as it
  accepts something there.
- `feed`: such a function over a list of chunks. `foldl_eq_feed`: a handler that
  collects what it takes off.
- `feed_frames`: as long as no cut falls where a frame cut short is not held
  back, what has been accepted is what has arrived, and the rest is kept.
- `exists_first_bad_cut`: otherwise there is a first such cut, and up to it the
  receiver was right.
- `reassembled_of_cuts`: a stream without a bad cut is reassembled.
- `values_ne_of_accept`, `values_ne_of_loss`: with a bad cut it is not, when the
  receiver accepts the wrong thing there, or loses something there.

A receiver that skips what it does not recognise reads its values from windows of the
stream, one behind the other, each with the bytes that protect it behind it.

- `Windows.ReadFrom`: the windows lie in the stream in the order of the values, with gaps
  between them.
- `Windows.ReadFrom.gap`, `Windows.ReadFrom.window`: what is skipped and what is read at
  the end of the stream.
-/

namespace Framing

variable {α β γ φ : Type}

/-! ## Draining a buffer -/

/-- `drain` takes values off the front of a buffer: nothing while it `waits`, and otherwise the
value it `accepts`, with the number of elements it consumes. -/
structure Drain (waits : List α → Prop) (accepts : List α → β → Nat → Prop)
    (drain : List α → List β × List α) : Prop where
  wait : ∀ {b}, waits b → drain b = ([], b)
  accept : ∀ {b v n}, accepts b v n →
    drain b = (v :: (drain (b.drop n)).1, (drain (b.drop n)).2)

/-- Feed a list of chunks, starting from what is kept of the ones before. -/
def feed (drain : List α → List β × List α) : List (List α) → List α → List β × List α
  | [], kept => ([], kept)
  | chunk :: chunks, kept =>
    let r := drain (kept ++ chunk)
    let t := feed drain chunks r.2
    (r.1 ++ t.1, t.2)

@[simp] theorem feed_nil (drain : List α → List β × List α) (kept : List α) :
    feed drain [] kept = ([], kept) := rfl

theorem feed_cons (drain : List α → List β × List α) (chunk : List α) (chunks : List (List α))
    (kept : List α) :
    feed drain (chunk :: chunks) kept =
      ((drain (kept ++ chunk)).1 ++ (feed drain chunks (drain (kept ++ chunk)).2).1,
        (feed drain chunks (drain (kept ++ chunk)).2).2) := rfl

theorem feed_append (drain : List α → List β × List α) (before after : List (List α))
    (kept : List α) :
    feed drain (before ++ after) kept =
      ((feed drain before kept).1 ++ (feed drain after (feed drain before kept).2).1,
        (feed drain after (feed drain before kept).2).2) := by
  induction before generalizing kept with
  | nil => rfl
  | cons chunk before ih =>
    rw [List.cons_append, feed_cons, ih, feed_cons, List.append_assoc]

/-- A handler that puts what it takes off behind the values it has folds to `feed`. -/
theorem foldl_eq_feed {σ : Type} {drain : List α → List β × List α} {handle : σ → List α → σ}
    (state : List β → List α → σ)
    (h : ∀ values kept chunk, handle (state values kept) chunk =
      state (values ++ (drain (kept ++ chunk)).1) (drain (kept ++ chunk)).2)
    (chunks : List (List α)) (values : List β) (kept : List α) :
    chunks.foldl handle (state values kept) =
      state (values ++ (feed drain chunks kept).1) (feed drain chunks kept).2 := by
  induction chunks generalizing values kept with
  | nil => rw [List.foldl_nil, feed_nil, List.append_nil]
  | cons chunk chunks ih => rw [List.foldl_cons, h, ih, feed_cons, List.append_assoc]

/-! ## Frames -/

/-- How frames of type `φ` are sent: the bytes of a frame, what it stands for, and the
lengths at which it must not be cut. -/
structure Format (α γ φ : Type) where
  bytes : φ → List α
  value : φ → γ
  bad : φ → Nat → Prop

namespace Format

variable (F : Format α γ φ)

/-- The frames one after another. -/
def flat (frames : List φ) : List α := frames.flatMap F.bytes

@[simp] theorem flat_nil : F.flat [] = [] := rfl

@[simp] theorem flat_cons (f : φ) (frames : List φ) :
    F.flat (f :: frames) = F.bytes f ++ F.flat frames := rfl

theorem flat_append (frames frames' : List φ) :
    F.flat (frames ++ frames') = F.flat frames ++ F.flat frames' := List.flatMap_append ..

end Format

variable {F : Format α γ φ}

/-- A receiver takes the frame off the front of a stream, and holds it back while it is not
complete, but for the bad cuts. -/
structure Recognised (F : Format α γ φ) (waits : List α → Prop)
    (accepts : List α → β → Nat → Prop) (content : β → γ) (f : φ) : Prop where
  whole : ∀ tail, ∃ v, accepts (F.bytes f ++ tail) v (F.bytes f).length ∧ content v = F.value f
  held : ∀ k < (F.bytes f).length, ¬ F.bad f k → waits ((F.bytes f).take k)
  start : ¬ F.bad f 0

/-- `p` is what has arrived of the first of the frames to come. -/
def Arrived (F : Format α γ φ) (p : List α) : List φ → Prop
  | [] => p = []
  | f :: _ => ∃ k < (F.bytes f).length, p = (F.bytes f).take k

/-- A front of the stream is some whole frames and what has arrived of the next one. -/
theorem exists_arrived {frames : List φ} {b tail : List α} (h : b ++ tail = F.flat frames) :
    ∃ done rest p, frames = done ++ rest ∧ b = F.flat done ++ p ∧ Arrived F p rest := by
  -- whole frames are taken off until what is left is shorter than the next one
  induction frames generalizing b with
  | nil =>
    have hb : b = [] := (List.append_eq_nil_iff.mp h).1
    exact ⟨[], [], [], rfl, hb, rfl⟩
  | cons f frames ih =>
    rcases Nat.lt_or_ge b.length (F.bytes f).length with hlt | hge
    · refine ⟨[], f :: frames, b, rfl, rfl, b.length, hlt, ?_⟩
      have htake := congrArg (List.take b.length) h
      rw [List.take_left, F.flat_cons, List.take_append_of_le_length (Nat.le_of_lt hlt)]
        at htake
      exact htake
    · have hsplit : b = F.bytes f ++ b.drop (F.bytes f).length := by
        have htake := congrArg (List.take (F.bytes f).length) h
        rw [List.take_append_of_le_length hge, F.flat_cons, List.take_left] at htake
        rw [← htake, List.length_take, Nat.min_eq_left hge, List.take_append_drop]
      obtain ⟨done, rest, p, hframes, hb, hp⟩ := ih (b := b.drop (F.bytes f).length) (by
        rw [hsplit, List.append_assoc] at h
        exact List.append_cancel_left h)
      exact ⟨f :: done, rest,
        p, by rw [hframes]; rfl, by rw [hsplit, hb, F.flat_cons, List.append_assoc],
        hp⟩

variable {waits : List α → Prop} {accepts : List α → β → Nat → Prop}
  {drain : List α → List β × List α} {content : β → γ}

/-- Whole frames in front of a buffer are taken off. -/
theorem Drain.drain_flat (hd : Drain waits accepts drain) {done : List φ}
    (hf : ∀ f ∈ done, Recognised F waits accepts content f) (p : List α) :
    ∃ vs, drain (F.flat done ++ p) = (vs ++ (drain p).1, (drain p).2) ∧
      vs.map content = done.map F.value := by
  induction done with
  | nil => exact ⟨[], rfl, rfl⟩
  | cons f done ih =>
    obtain ⟨vs, hdrain, hvs⟩ := ih fun g hg => hf g (List.mem_cons_of_mem _ hg)
    obtain ⟨v, hv, hcontent⟩ := (hf f (List.mem_cons_self ..)).whole (F.flat done ++ p)
    refine ⟨v :: vs, ?_, by rw [List.map_cons, List.map_cons, hcontent, hvs]⟩
    rw [F.flat_cons, List.append_assoc, hd.accept hv, List.drop_left, hdrain]
    rfl

/-! ## Cuts -/

/-- Some chunk ends `k` elements into the frame `f`, when `kept` is there before the first
one. -/
def CutAt (F : Format α γ φ) (kept : List α) (chunks : List (List α)) (frames : List φ) (f : φ)
    (k : Nat) : Prop :=
  ∃ before after pre post, chunks = before ++ after ∧ frames = pre ++ f :: post ∧
    k < (F.bytes f).length ∧ (kept ++ before.flatten).length = (F.flat pre).length + k

/-- What is kept is a cut of its own. -/
theorem cutAt_kept {kept : List α} {f : φ} {post : List φ}
    (h : Arrived F kept (f :: post)) (chunks : List (List α)) :
    CutAt F kept chunks (f :: post) f kept.length := by
  obtain ⟨k, hk, rfl⟩ := h
  exact ⟨[], chunks, [], post, rfl, rfl, by simp; omega, by simp⟩

/-- The cuts of the chunks to come are cuts of all the chunks. -/
theorem cutAt_cons {kept p chunk : List α} {chunks : List (List α)}
    {done rest : List φ} (hb : kept ++ chunk = F.flat done ++ p) {f : φ} {k : Nat}
    (h : CutAt F p chunks rest f k) : CutAt F kept (chunk :: chunks) (done ++ rest) f k := by
  obtain ⟨before, after, pre, post, rfl, rfl, hk, hlen⟩ := h
  refine ⟨chunk :: before, after, done ++ pre, post, rfl, by rw [List.append_assoc], hk, ?_⟩
  rw [List.flatten_cons, ← List.append_assoc, hb, List.append_assoc, List.length_append, hlen,
    F.flat_append, List.length_append, Nat.add_assoc]

/-- What has arrived of the next frame is held back, unless that is a bad cut. -/
theorem waits_of_arrived (hnil : waits []) {p : List α} {rest : List φ}
    (hf : ∀ f ∈ rest, Recognised F waits accepts content f) (hp : Arrived F p rest)
    (hgood : ∀ f ∈ rest.head?, ¬ F.bad f p.length) : waits p := by
  cases rest with
  | nil => exact hp ▸ hnil
  | cons f post =>
    have hcut := hgood f rfl
    obtain ⟨k, hk, rfl⟩ := hp
    rw [List.length_take, Nat.min_eq_left (Nat.le_of_lt hk)] at hcut
    exact (hf f (List.mem_cons_self ..)).held k hk hcut

/-- With no bad cut the whole frames that have arrived have been accepted, and what has
arrived of the next one is kept. -/
theorem feed_frames (hd : Drain waits accepts drain) (hnil : waits []) {frames : List φ}
    (hf : ∀ f ∈ frames, Recognised F waits accepts content f) {chunks : List (List α)}
    {kept tail : List α} (hkept : Arrived F kept frames)
    (hstream : kept ++ chunks.flatten ++ tail = F.flat frames)
    (hcuts : ∀ f k, CutAt F kept chunks frames f k → ¬ F.bad f k) :
    ∃ done rest vs p, frames = done ++ rest ∧ kept ++ chunks.flatten = F.flat done ++ p ∧
      Arrived F p rest ∧ feed drain chunks kept = (vs, p) ∧
      vs.map content = done.map F.value := by
  induction chunks generalizing kept frames with
  | nil => exact ⟨[], frames, [], kept, rfl, by simp, hkept, rfl, rfl⟩
  | cons chunk chunks ih =>
    have hfront : kept ++ chunk ++ (chunks.flatten ++ tail) = F.flat frames := by
      rw [← hstream, List.flatten_cons]
      simp only [List.append_assoc]
    obtain ⟨done, rest, p, rfl, hb, hp⟩ := exists_arrived hfront
    have hfdone : ∀ f ∈ done, Recognised F waits accepts content f :=
      fun f hmem => hf f (List.mem_append_left _ hmem)
    have hfrest : ∀ f ∈ rest, Recognised F waits accepts content f :=
      fun f hmem => hf f (List.mem_append_right _ hmem)
    -- the end of this chunk is a cut, and not a bad one
    have hgood : ∀ f ∈ rest.head?, ¬ F.bad f p.length := by
      intro f hhead
      obtain ⟨post, rfl⟩ := List.head?_eq_some_iff.mp hhead
      exact hcuts f p.length (cutAt_cons hb (cutAt_kept hp chunks))
    have hwait := waits_of_arrived hnil hfrest hp hgood
    obtain ⟨vs, hdrain, hvs⟩ := hd.drain_flat hfdone p
    rw [hd.wait hwait, List.append_nil] at hdrain
    rw [hb, F.flat_append, List.append_assoc] at hfront
    obtain ⟨done', rest', vs', p', rfl, hb', hp', hfeed, hvs'⟩ :=
      ih hfrest hp
        (by rw [List.append_assoc]; exact List.append_cancel_left hfront)
        fun f k hcut => hcuts f k (cutAt_cons hb hcut)
    refine ⟨done ++ done', rest', vs ++ vs', p', by rw [List.append_assoc], ?_, hp', ?_, ?_⟩
    · rw [List.flatten_cons, ← List.append_assoc, hb, List.append_assoc, hb', F.flat_append,
        List.append_assoc]
    · rw [feed_cons, hb, hdrain, hfeed]
    · rw [List.map_append, List.map_append, hvs, hvs']

/-- A cut behind the frames `done` lies in one of the others. -/
theorem cut_behind {done rest pre post : List φ} {f : φ} {k : Nat}
    (hframes : done ++ rest = pre ++ f :: post) (hk : k < (F.bytes f).length)
    (hlen : (F.flat done).length ≤ (F.flat pre).length + k) :
    ∃ pre', pre = done ++ pre' ∧ rest = pre' ++ f :: post := by
  rcases List.append_eq_append_iff.mp hframes with ⟨pre', hpre, hrest⟩ | ⟨more, hdone, hpost⟩
  · exact ⟨pre', hpre, hrest⟩
  · cases more with
    | nil => exact ⟨[], by rw [hdone]; simp, hpost.symm⟩
    | cons g more =>
      obtain ⟨rfl, -⟩ := List.cons_eq_cons.mp hpost
      rw [hdone, F.flat_append, F.flat_cons, List.length_append, List.length_append] at hlen
      omega

/-- The cut at what is kept lies in the first frame. -/
theorem cut_of_arrived {kept : List α} {frames pre post : List φ} {f : φ} {k : Nat}
    (hkept : Arrived F kept frames) (hframes : frames = pre ++ f :: post)
    (hlen : kept.length = (F.flat pre).length + k) : f ∈ frames.head? ∧ k = kept.length := by
  subst hframes
  cases pre with
  | nil => exact ⟨rfl, by simpa using hlen.symm⟩
  | cons g pre =>
    obtain ⟨j, hj, rfl⟩ := hkept
    rw [List.length_take, F.flat_cons, List.length_append] at hlen
    omega

/-- Where there is a bad cut there is a first one. Up to its chunk the receiver was right,
and in that chunk it takes the whole frames off. -/
theorem exists_first_bad_cut (hd : Drain waits accepts drain) (hnil : waits [])
    {frames : List φ} (hf : ∀ f ∈ frames, Recognised F waits accepts content f)
    {chunks : List (List α)} {kept tail : List α} (hkept : Arrived F kept frames)
    (hgood : ∀ f ∈ frames.head?, ¬ F.bad f kept.length)
    (hstream : kept ++ chunks.flatten ++ tail = F.flat frames)
    (hcut : ∃ f k, CutAt F kept chunks frames f k ∧ F.bad f k) :
    ∃ before after done f post k vs, chunks = before ++ after ∧ frames = done ++ f :: post ∧
      k < (F.bytes f).length ∧ F.bad f k ∧ kept ++ before.flatten =
        F.flat done ++ (F.bytes f).take k ∧
      feed drain before kept =
        (vs ++ (drain ((F.bytes f).take k)).1, (drain ((F.bytes f).take k)).2) ∧
      vs.map content = done.map F.value := by
  obtain ⟨f, k, ⟨before, after, pre, post, hchunks, hframes, hk, hlen⟩, hbad⟩ := hcut
  induction chunks generalizing kept frames before pre with
  | nil =>
    -- the only cut is the one at what is kept
    obtain ⟨rfl, -⟩ := List.append_eq_nil_iff.mp hchunks.symm
    rw [List.flatten_nil, List.append_nil] at hlen
    obtain ⟨hhead, rfl⟩ := cut_of_arrived hkept hframes hlen
    exact absurd hbad (hgood f hhead)
  | cons chunk chunks ih =>
    have hfront : kept ++ chunk ++ (chunks.flatten ++ tail) = F.flat frames := by
      rw [← hstream, List.flatten_cons]
      simp only [List.append_assoc]
    obtain ⟨done, rest, p, rfl, hb, hp⟩ := exists_arrived hfront
    have hfdone : ∀ f ∈ done, Recognised F waits accepts content f :=
      fun f hmem => hf f (List.mem_append_left _ hmem)
    have hfrest : ∀ f ∈ rest, Recognised F waits accepts content f :=
      fun f hmem => hf f (List.mem_append_right _ hmem)
    obtain ⟨vs, hdrain, hvs⟩ := hd.drain_flat hfdone p
    by_cases hfirst : ∃ g ∈ rest.head?, F.bad g p.length
    · -- the bad cut is at the end of this chunk
      obtain ⟨g, hhead, hgbad⟩ := hfirst
      obtain ⟨post', rfl⟩ := List.head?_eq_some_iff.mp hhead
      obtain ⟨j, hj, rfl⟩ := hp
      rw [List.length_take, Nat.min_eq_left (Nat.le_of_lt hj)] at hgbad
      refine ⟨[chunk], chunks, done, g, post', j, vs, rfl, rfl, hj, hgbad, ?_, ?_, hvs⟩
      · simpa using hb
      · rw [feed_cons, hb, hdrain]
        simp
    · -- it comes later
      have hlater : ∃ before', before = chunk :: before' ∧ chunks = before' ++ after := by
        cases before with
        | nil =>
          rw [List.flatten_nil, List.append_nil] at hlen
          obtain ⟨hhead, rfl⟩ := cut_of_arrived hkept hframes hlen
          exact absurd hbad (hgood f hhead)
        | cons c before' =>
          obtain ⟨rfl, hrest⟩ := List.cons_eq_cons.mp hchunks
          exact ⟨before', rfl, hrest⟩
      obtain ⟨before', rfl, hchunks'⟩ := hlater
      rw [List.flatten_cons, ← List.append_assoc, hb, List.append_assoc, List.length_append]
        at hlen
      obtain ⟨pre', rfl, hrest⟩ := cut_behind hframes hk (by omega)
      have hcut' : (p ++ before'.flatten).length = (F.flat pre').length + k := by
        simp only [F.flat_append, List.length_append] at hlen ⊢
        omega
      have hgood' : ∀ g ∈ rest.head?, ¬ F.bad g p.length :=
        fun g hg hgbad => hfirst ⟨g, hg, hgbad⟩
      have hwait := waits_of_arrived hnil hfrest hp hgood'
      rw [hd.wait hwait, List.append_nil] at hdrain
      rw [hb, F.flat_append, List.append_assoc] at hfront
      obtain ⟨bs, as, done', g, post', j, vs', hchunks'', rfl, hj, hgbad, hb', hfeed, hvs'⟩ :=
        ih hfrest hp hgood' (by rw [List.append_assoc]; exact List.append_cancel_left hfront)
          before' pre' hchunks' hrest hcut'
      refine ⟨chunk :: bs, as, done ++ done', g, post', j, vs ++ vs', by rw [hchunks'']; rfl,
        by rw [List.append_assoc], hj, hgbad, ?_, ?_, ?_⟩
      · rw [List.flatten_cons, ← List.append_assoc, hb, List.append_assoc, hb', F.flat_append,
          List.append_assoc]
      · rw [feed_cons, hb, hdrain, hfeed, List.append_assoc]
      · rw [List.map_append, List.map_append, hvs, hvs']

/-! ## Reassembly -/

/-- What a receiver should make of a stream of frames: their values in order, nothing left over,
and no value before its frame has arrived whole. -/
structure Reassembled (F : Format α γ φ) (drain : List α → List β × List α) (content : β → γ)
    (frames : List φ) (chunks : List (List α)) : Prop where
  values : (feed drain chunks []).1.map content = frames.map F.value
  empty : (feed drain chunks []).2 = []
  notEarly : ∀ before after, chunks = before ++ after →
    ∀ pre f post, frames = pre ++ f :: post →
    before.flatten.length < (F.flat (pre ++ [f])).length →
    (feed drain before []).1.length ≤ pre.length

/-- A recognised frame is not empty. -/
theorem Recognised.bytes_ne_nil (hd : Drain waits accepts drain) (hnil : waits [])
    {f : φ} (hf : Recognised F waits accepts content f) : F.bytes f ≠ [] := by
  intro hempty
  obtain ⟨v, hv, -⟩ := hf.whole []
  rw [hempty, List.append_nil] at hv
  have hnone := congrArg Prod.fst (hd.wait hnil)
  rw [hd.accept hv] at hnone
  cases hnone

theorem arrived_nil (hd : Drain waits accepts drain) (hnil : waits []) {frames : List φ}
    (hf : ∀ f ∈ frames, Recognised F waits accepts content f) :
    Arrived F ([] : List α) frames := by
  cases frames with
  | nil => rfl
  | cons f post =>
    have hne := (hf f (List.mem_cons_self ..)).bytes_ne_nil hd hnil
    exact ⟨0, List.length_pos_of_ne_nil hne, rfl⟩

/-- When all of a stream has arrived, no frame is still to come. -/
theorem eq_nil_of_arrived {p : List α} {rest : List φ} (hp : Arrived F p rest)
    (h : p = F.flat rest) : rest = [] ∧ p = [] := by
  cases rest with
  | nil => exact ⟨rfl, h⟩
  | cons f post =>
    obtain ⟨k, hk, rfl⟩ := hp
    have hlen := congrArg List.length h
    rw [List.length_take, F.flat_cons, List.length_append] at hlen
    omega

/-- Without a bad cut the stream is reassembled. -/
theorem reassembled_of_cuts (hd : Drain waits accepts drain) (hnil : waits [])
    {frames : List φ} (hf : ∀ f ∈ frames, Recognised F waits accepts content f)
    {chunks : List (List α)} (hstream : chunks.flatten = F.flat frames)
    (hcuts : ∀ f k, CutAt F [] chunks frames f k → ¬ F.bad f k) :
    Reassembled F drain content frames chunks := by
  have hstart := arrived_nil hd hnil hf
  have hstream' : [] ++ chunks.flatten ++ [] = F.flat frames := by simpa using hstream
  obtain ⟨done, rest, vs, p, rfl, hb, hp, hfeed, hvs⟩ :=
    feed_frames hd hnil hf hstart hstream' hcuts
  rw [List.nil_append, hstream, F.flat_append] at hb
  obtain ⟨rfl, rfl⟩ := eq_nil_of_arrived hp (List.append_cancel_left hb).symm
  rw [List.append_nil] at hstream hf hcuts hstart ⊢
  refine ⟨by rw [hfeed, hvs], by rw [hfeed], ?_⟩
  intro before after hchunks pre f post hframes hlen
  subst hchunks
  -- up to there no cut is bad either, so what is accepted are frames that have arrived whole
  have hbefore : [] ++ before.flatten ++ after.flatten = F.flat done := by
    rw [List.nil_append, ← List.flatten_append]
    exact hstream
  obtain ⟨done', rest', vs', p', hframes', hb', -, hfeed', hvs'⟩ :=
    feed_frames hd hnil hf hstart hbefore
      fun g k ⟨bs, as, pre, post, h₁, h₂⟩ => hcuts g k
        ⟨bs, as ++ after, pre, post, by rw [h₁, List.append_assoc], h₂⟩
  have hcount : vs'.length = done'.length := by
    rw [← List.length_map (f := content), hvs', List.length_map]
  rw [hfeed', hcount]
  by_contra hlt
  -- the frame `f` is among those that are done, so its bytes have arrived
  obtain ⟨more, hdone⟩ : ∃ more, done' = pre ++ f :: more := by
    rcases List.append_eq_append_iff.mp (hframes'.symm.trans hframes) with
      ⟨l, rfl, -⟩ | ⟨l, rfl, hl⟩
    · simp at hlt
    · cases l with
      | nil => simp at hlt
      | cons g l =>
        obtain ⟨rfl, -⟩ := List.cons_eq_cons.mp hl
        exact ⟨l, rfl⟩
  have harrived := congrArg List.length hb'
  rw [hdone] at harrived
  simp only [List.nil_append, F.flat_append, F.flat_cons, F.flat_nil, List.length_append,
    List.append_nil] at harrived hlen
  omega

/-- At a bad cut where the receiver accepts something else, the values come out wrong. -/
theorem values_ne_of_accept (hd : Drain waits accepts drain) (hnil : waits [])
    {frames : List φ} (hf : ∀ f ∈ frames, Recognised F waits accepts content f)
    {chunks : List (List α)} (hstream : chunks.flatten = F.flat frames)
    (hearly : ∀ f ∈ frames, ∀ k < (F.bytes f).length, F.bad f k →
      ∃ v n, accepts ((F.bytes f).take k) v n ∧ content v ≠ F.value f)
    (hcut : ∃ f k, CutAt F [] chunks frames f k ∧ F.bad f k) :
    (feed drain chunks []).1.map content ≠ frames.map F.value := by
  have hstream' : [] ++ chunks.flatten ++ [] = F.flat frames := by simpa using hstream
  obtain ⟨before, after, done, f, post, k, vs, rfl, rfl, hk, hbad, -, hfeed, hvs⟩ :=
    exists_first_bad_cut hd hnil hf (arrived_nil hd hnil hf)
      (fun f hmem => (hf f (List.mem_of_mem_head? hmem)).start) hstream' hcut
  obtain ⟨v, n, hv, hne⟩ := hearly f (by simp) k hk hbad
  rw [hd.accept hv] at hfeed
  intro heq
  -- behind the values of the frames that are done, the wrong value stands first
  rw [feed_append, hfeed] at heq
  simp only [List.map_append, List.map_cons, hvs, List.append_assoc, List.cons_append] at heq
  exact hne (List.cons_eq_cons.mp (List.append_cancel_left heq)).1

/-- For a receiver that accepts something else at every bad cut: a stream is reassembled if and
only if there is no bad cut. -/
theorem reassembled_iff (hd : Drain waits accepts drain) (hnil : waits []) {frames : List φ}
    (hf : ∀ f ∈ frames, Recognised F waits accepts content f) {chunks : List (List α)}
    (hstream : chunks.flatten = F.flat frames)
    (hearly : ∀ f ∈ frames, ∀ k < (F.bytes f).length, F.bad f k →
      ∃ v n, accepts ((F.bytes f).take k) v n ∧ content v ≠ F.value f) :
    Reassembled F drain content frames chunks ↔
      ¬ ∃ f k, CutAt F [] chunks frames f k ∧ F.bad f k := by
  constructor
  · intro h hcut
    exact values_ne_of_accept hd hnil hf hstream hearly hcut h.values
  · intro h
    exact reassembled_of_cuts hd hnil hf hstream fun f k hcut hbad => h ⟨f, k, hcut, hbad⟩

/-! ## Loss -/

/-- What a receiver has accepted and kept together weighs at most what has arrived, when that is
so of a single buffer. -/
theorem feed_weight_le {weight : β → Nat}
    (h : ∀ b, ((drain b).1.map weight).sum + (drain b).2.length ≤ b.length)
    (chunks : List (List α)) (kept : List α) :
    ((feed drain chunks kept).1.map weight).sum + (feed drain chunks kept).2.length ≤
      kept.length + chunks.flatten.length := by
  induction chunks generalizing kept with
  | nil => simp
  | cons chunk chunks ih =>
    have hchunk := h (kept ++ chunk)
    have hrest := ih (drain (kept ++ chunk)).2
    rw [feed_cons, List.flatten_cons, List.length_append]
    simp only [List.map_append, List.sum_append, List.length_append] at hchunk ⊢
    omega

theorem length_flat {weight : γ → Nat} {frames : List φ}
    (h : ∀ f ∈ frames, weight (F.value f) = (F.bytes f).length) :
    ((frames.map F.value).map weight).sum = (F.flat frames).length := by
  induction frames with
  | nil => rfl
  | cons f frames ih =>
    rw [List.map_cons, List.map_cons, List.sum_cons, F.flat_cons, List.length_append,
      h f (List.mem_cons_self ..), ih fun g hg => h g (List.mem_cons_of_mem _ hg)]

/-- At a bad cut where the receiver loses something that it never makes up for, the values come
out wrong. -/
theorem values_ne_of_loss (hd : Drain waits accepts drain) (hnil : waits []) {frames : List φ}
    (hf : ∀ f ∈ frames, Recognised F waits accepts content f) {chunks : List (List α)}
    (hstream : chunks.flatten = F.flat frames) {weight : γ → Nat}
    (hweight : ∀ b, ((drain b).1.map fun v => weight (content v)).sum + (drain b).2.length ≤
      b.length)
    (hframes : ∀ f ∈ frames, weight (F.value f) = (F.bytes f).length)
    (hloss : ∀ f ∈ frames, ∀ k < (F.bytes f).length, F.bad f k →
      (drain ((F.bytes f).take k)).1 = [] ∧ (drain ((F.bytes f).take k)).2.length < k)
    (hcut : ∃ f k, CutAt F [] chunks frames f k ∧ F.bad f k) :
    (feed drain chunks []).1.map content ≠ frames.map F.value := by
  have hstream' : [] ++ chunks.flatten ++ [] = F.flat frames := by simpa using hstream
  obtain ⟨before, after, done, f, post, k, vs, rfl, rfl, hk, hbad, hb, hfeed, hvs⟩ :=
    exists_first_bad_cut hd hnil hf (arrived_nil hd hnil hf)
      (fun f hmem => (hf f (List.mem_of_mem_head? hmem)).start) hstream' hcut
  obtain ⟨hnone, hless⟩ := hloss f (by simp) k hk hbad
  rw [hnone, List.append_nil] at hfeed
  intro hvalues
  -- what came before weighs what it should, and the rest is missing something
  have hsent := length_flat hframes
  have hdone := length_flat fun g hg => hframes g (List.mem_append_left _ hg)
  have hrest := feed_weight_le hweight after (drain ((F.bytes f).take k)).2
  have hlen := congrArg List.length hb
  have htotal := congrArg List.length hstream
  simp only [feed_append, hfeed] at hvalues
  rw [← hvalues, List.map_append, List.map_append, List.sum_append, hvs, hdone, List.map_map]
    at hsent
  simp only [List.nil_append, List.length_append, List.length_take, List.flatten_append]
    at hlen htotal
  have hsum : ((feed drain after (drain ((F.bytes f).take k)).2).1.map (weight ∘ content)).sum =
      ((feed drain after (drain ((F.bytes f).take k)).2).1.map fun v =>
        weight (content v)).sum := rfl
  omega

end Framing

/-! ## Windows of a stream -/

namespace Windows

variable {α β : Type}

/-- The stream is made of windows, each with a gap before it and its protection behind it,
and of a tail. The values are what is read of the windows. -/
def ReadFrom (protection : List α → List α) (read : List α → Option β) (stream : List α)
    (values : List β) : Prop :=
  ∃ (windows : List (List α × List α)) (tail : List α),
    stream = (windows.flatMap fun w => w.1 ++ (w.2 ++ protection w.2)) ++ tail ∧
      values.map some = windows.map fun w => read w.2

variable {protection : List α → List α} {read : List α → Option β} {stream : List α}
  {values : List β}

theorem readFrom_nil : ReadFrom protection read [] [] := ⟨[], [], rfl, rfl⟩

/-- Nothing is read of what is skipped. -/
theorem ReadFrom.gap (h : ReadFrom protection read stream values) (skipped : List α) :
    ReadFrom protection read (stream ++ skipped) values := by
  obtain ⟨windows, tail, rfl, hvalues⟩ := h
  exact ⟨windows, tail ++ skipped, by rw [List.append_assoc], hvalues⟩

/-- A window at the end of the stream is read. -/
theorem ReadFrom.window (h : ReadFrom protection read stream values) {window : List α}
    {value : β} (hread : read window = some value) :
    ReadFrom protection read (stream ++ (window ++ protection window)) (values ++ [value]) := by
  obtain ⟨windows, tail, rfl, hvalues⟩ := h
  refine ⟨windows ++ [(tail, window)], [], ?_, ?_⟩
  · simp
  · rw [List.map_append, List.map_append, hvalues, List.map_singleton,
      List.map_singleton, hread]

end Windows
