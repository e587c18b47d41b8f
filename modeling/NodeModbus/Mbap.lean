import NodeModbus.Buffer
import NodeModbus.Lib.Framing

/-!
# The MBAP header

Modbus/TCP puts seven bytes in front of a body: transaction id, protocol, the
length of what follows the length field, and the unit id. Requests and
responses read it the same way.

- `readMbap`, `readMbap_eq`: the header fields and the bytes of the body, as far
  as they are there.
- `mbapHeader_eq`, `mbapFrame`: the bytes of a frame.
- `splitMbap_append`, `splitMbap_take`: what is read of a frame that is followed
  by something, and of a frame that is cut short.
- `Complete`: the buffer starts with all the bytes its length field announces.
- `Clears`, `not_complete_drain_iff`: a receiver that waits where it cannot decode
  is left with a complete frame in front, unless every complete frame it comes to
  can be decoded.
-/

namespace NodeModbus

open Buffer Words

/-! ## Reading -/

/-- What stands in a frame in front of the body, and the body bytes. -/
structure Mbap where
  id : Nat
  protocol : Nat
  length : Nat
  unitId : Nat
  bytes : Buffer
  deriving DecidableEq

/-- The header fields and the body bytes the two `fromBuffer` methods read. -/
def readMbap (buffer : Buffer) : Except Thrown Mbap := do
  let id ← buffer.readUInt16BE 0
  let protocol ← buffer.readUInt16BE 2
  let length ← buffer.readUInt16BE 4
  let unitId ← buffer.readUInt8 6
  -- the length counts from the unit id on, and `subarray` stops at the end of the buffer
  return { id, protocol, length, unitId, bytes := buffer.subarray 7 (6 + length) }

/-- The header in front of a buffer, when seven bytes are there. -/
def splitMbap : Buffer → Option Mbap
  | i :: i' :: q :: q' :: l :: l' :: u :: rest =>
    some { id := u16 i i', protocol := u16 q q', length := u16 l l', unitId := u.toNat,
           bytes := rest.take (u16 l l' - 1) }
  | _ => none

theorem subarray_seven (i i' q q' l l' u : UInt8) (rest : Buffer) (length : Nat) :
    subarray (i :: i' :: q :: q' :: l :: l' :: u :: rest) 7 (6 + length) =
      rest.take (length - 1) := by
  have hnat := subarray_natCast (i :: i' :: q :: q' :: l :: l' :: u :: rest) 7 (6 + length)
  rw [Int.natCast_add] at hnat
  refine Eq.trans hnat ?_
  cases length with
  | zero => rfl
  | succ m =>
    rw [show 6 + (m + 1) = m + 7 from by omega]
    rfl

theorem readMbap_eq (buffer : Buffer) : (readMbap buffer).toOption = splitMbap buffer := by
  rcases buffer with _ | ⟨i, _ | ⟨i', _ | ⟨q, _ | ⟨q', _ | ⟨l, _ | ⟨l', _ | ⟨u, rest⟩⟩⟩⟩⟩⟩⟩
  case cons.cons.cons.cons.cons.cons.cons =>
    rw [splitMbap, ← subarray_seven i i' q q' l l' u rest]
    rfl
  all_goals rfl

theorem splitMbap_eq_none {buffer : Buffer} (h : buffer.length < 7) :
    splitMbap buffer = none := by
  rcases buffer with _ | ⟨i, _ | ⟨i', _ | ⟨q, _ | ⟨q', _ | ⟨l, _ | ⟨l', _ | ⟨u, rest⟩⟩⟩⟩⟩⟩⟩
  case cons.cons.cons.cons.cons.cons.cons =>
    simp at h
    omega
  all_goals rfl

/-! ## Writing -/

/-- The header, as the two `createPayload` methods write it. -/
def mbapHeader (id protocol length unitId : Int) (payload : Buffer) : Except Thrown Buffer := do
  let payload ← payload.writeUInt16BE id 0
  let payload ← payload.writeUInt16BE protocol 2
  let payload ← payload.writeUInt16BE length 4
  payload.writeUInt8 unitId 6

/-- The header fits into its seven bytes, or writing it throws. -/
theorem mbapHeader_eq (id protocol length unitId : Int) (rest : Buffer) :
    mbapHeader id protocol length unitId (0 :: 0 :: 0 :: 0 :: 0 :: 0 :: 0 :: rest) =
      if IsUInt16 id ∧ IsUInt16 protocol ∧ IsUInt16 length ∧ IsUInt8 unitId then
        .ok (be16 id.toNat ++ (be16 protocol.toNat ++ (be16 length.toNat ++
          UInt8.ofNat unitId.toNat :: rest)))
      else .error .rangeError := by
  by_cases h₁ : IsUInt16 id <;> by_cases h₂ : IsUInt16 protocol <;>
    by_cases h₃ : IsUInt16 length <;>
    by_cases h₄ : IsUInt8 unitId <;>
    simp (disch := omega) [mbapHeader, bind, Except.bind, writeUInt8, writeUInt16BE,
      setByte, h₁, h₂, h₃, h₄, be16, if_pos]

/-- The bytes of a frame around the body `p`. -/
def mbapFrame (id protocol unitId : Nat) (p : Buffer) : Buffer :=
  be16 id ++ (be16 protocol ++ (be16 (p.length + 1) ++ UInt8.ofNat unitId :: p))

@[simp] theorem length_mbapFrame (id protocol unitId : Nat) (p : Buffer) :
    (mbapFrame id protocol unitId p).length = p.length + 7 := rfl

theorem mbapFrame_injective {id id' protocol unitId unitId' : Nat} {p p' : Buffer}
    (hi : id < 65536) (hi' : id' < 65536) (hu : unitId < 256) (hu' : unitId' < 256)
    (h : mbapFrame id protocol unitId p = mbapFrame id' protocol unitId' p') :
    id = id' ∧ unitId = unitId' ∧ p = p' := by
  obtain ⟨hid, h⟩ := List.append_inj h rfl
  obtain ⟨-, h⟩ := List.append_inj h rfl
  obtain ⟨-, h⟩ := List.append_inj h rfl
  obtain ⟨hunit, hp⟩ := List.cons.inj h
  have hunit' := congrArg UInt8.toNat hunit
  rw [toNat_ofNat_of_lt hu, toNat_ofNat_of_lt hu'] at hunit'
  exact ⟨be16_injective hi hi' hid, hunit', hp⟩

/-- What is read back of a frame, whatever follows it. -/
theorem splitMbap_append {id protocol unitId : Nat} {p : Buffer} (hi : id < 65536)
    (hq : protocol < 65536) (hu : unitId < 256) (hp : p.length + 1 < 65536) (rest : Buffer) :
    splitMbap (mbapFrame id protocol unitId p ++ rest) =
      some { id, protocol, length := p.length + 1, unitId, bytes := p } := by
  show splitMbap (_ :: _ :: _ :: _ :: _ :: _ :: _ :: (p ++ rest)) = _
  rw [splitMbap, u16_be16 hi, u16_be16 hq, u16_be16 hp, toNat_ofNat_of_lt hu,
    Nat.add_sub_cancel, List.take_left]

/-- What is read of a frame that is cut short behind its header. -/
theorem splitMbap_take {id protocol unitId : Nat} {p : Buffer} (hi : id < 65536)
    (hq : protocol < 65536) (hu : unitId < 256) (hp : p.length + 1 < 65536) {k : Nat}
    (hk : k ≤ p.length) :
    splitMbap ((mbapFrame id protocol unitId p).take (k + 7)) =
      some { id, protocol, length := p.length + 1, unitId, bytes := p.take k } := by
  show splitMbap (_ :: _ :: _ :: _ :: _ :: _ :: _ :: p.take k) = _
  rw [splitMbap, u16_be16 hi, u16_be16 hq, u16_be16 hp, toNat_ofNat_of_lt hu,
    Nat.add_sub_cancel, List.take_take, Nat.min_eq_right hk]

/-! ## Complete frames -/

/-- The length field, which is at offset 4. -/
def mbapLength : Buffer → Nat
  | _ :: _ :: _ :: _ :: l :: l' :: _ => u16 l l'
  | _ => 0

/-- The buffer starts with a complete frame: seven bytes, and as many as the length field
announces. -/
def Complete (buffer : Buffer) :
    Prop := 7 ≤ buffer.length ∧ 6 + mbapLength buffer ≤ buffer.length

instance (buffer : Buffer) : Decidable (Complete buffer) := inferInstanceAs (Decidable (_ ∧ _))

/-- The bytes of the body, as far as they are there. -/
def mbapBody (buffer : Buffer) : Buffer := (buffer.take (6 + mbapLength buffer)).drop 7

/-- The header and the body bytes are those of the frame. -/
theorem splitMbap_eq_some {buffer : Buffer} (h : 7 ≤ buffer.length) :
    ∃ m, splitMbap buffer = some m ∧
    m.length = mbapLength buffer ∧ m.bytes = mbapBody buffer := by
  rcases buffer with _ | ⟨i, _ | ⟨i', _ | ⟨q, _ | ⟨q', _ | ⟨l, _ | ⟨l', _ | ⟨u, rest⟩⟩⟩⟩⟩⟩⟩
  case cons.cons.cons.cons.cons.cons.cons =>
    refine ⟨_, rfl, rfl, ?_⟩
    show rest.take (u16 l l' - 1) = List.drop 7 (List.take (6 + u16 l l') _)
    rw [← subarray_seven i i' q q' l l' u rest]
    exact subarray_natCast _ 7 (6 + u16 l l')
  all_goals
    simp at h

theorem length_of_splitMbap {buffer : Buffer} {m : Mbap} (h : splitMbap buffer = some m) :
    m.length = mbapLength buffer := by
  have hlen : 7 ≤ buffer.length := by
    by_contra hlt
    rw [splitMbap_eq_none (by omega)] at h
    cases h
  obtain ⟨m', hm', hlength, -⟩ := splitMbap_eq_some hlen
  obtain rfl : m' = m := Option.some.inj (hm'.symm.trans h)
  exact hlength

/-! ## What is left of a buffer -/

/-- From the front of the buffer on, every complete frame has a body that is `ok`, until a frame
comes that is not complete. -/
inductive Clears (ok : Buffer → Prop) : Buffer → Prop
  | incomplete {b : Buffer} (h : ¬ Complete b) : Clears ok b
  | frame {b : Buffer} (h : Complete b) (hbody : ok (mbapBody b))
      (hrest : Clears ok (b.drop (6 + mbapLength b))) : Clears ok b

/-- A receiver that consumes what the length field announces, where it can decode the bytes
of the body that are there, and waits elsewhere: it is left without a complete frame in
front if and only if every complete frame it comes to can be decoded. -/
theorem not_complete_drain_iff {β : Type} {decode : Buffer → Option β} {ok : Buffer → Prop}
    {drain : Buffer → List β × Buffer}
    (hd : Framing.Drain (fun b => decode b = none)
      (fun b r n => decode b = some r ∧ n = 6 + mbapLength b) drain)
    (hshort : ∀ b, b.length < 7 → decode b = none)
    (hok : ∀ b, 7 ≤ b.length → ((decode b).isSome ↔ ok (mbapBody b))) (b : Buffer) :
    ¬ Complete (drain b).2 ↔ Clears ok b := by
  -- on the length of the buffer: every value that is accepted takes its bytes off
  induction h : b.length using Nat.strongRecOn generalizing b with
  | ind n ih =>
    subst h
    cases hdecode : decode b with
    | none =>
      -- what is waited for stays in front
      rw [hd.wait hdecode]
      constructor
      · exact fun h => .incomplete h
      · intro hclears hcomplete
        cases hclears with
        | incomplete h => exact h hcomplete
        | frame _ hbody _ =>
          have hsome := (hok b hcomplete.1).mpr hbody
          rw [hdecode] at hsome
          cases hsome
    | some r =>
      have hlen : 7 ≤ b.length := by
        by_contra hlt
        rw [hshort b (by omega)] at hdecode
        cases hdecode
      have hbody : ok (mbapBody b) := (hok b hlen).mp (by rw [hdecode]; rfl)
      have hless : (b.drop (6 + mbapLength b)).length < b.length := by
        rw [List.length_drop]
        omega
      rw [hd.accept ⟨hdecode, rfl⟩, ih _ hless _ rfl]
      constructor
      · intro hrest
        by_cases hcomplete : Complete b
        · exact .frame hcomplete hbody hrest
        · exact .incomplete hcomplete
      · intro hclears
        cases hclears with
        | frame _ _ hrest => exact hrest
        | incomplete h =>
          -- a frame that is not complete is consumed with everything there is
          have hnil : b.drop (6 + mbapLength b) = [] := by
            refine List.drop_of_length_le ?_
            by_contra hlt
            exact h ⟨hlen, by omega⟩
          rw [hnil]
          exact .incomplete (by decide)

end NodeModbus
