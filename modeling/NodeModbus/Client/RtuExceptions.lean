import NodeModbus.Client.RtuResponseHandler

/-!
# Exceptions on a serial line

An exception for function code 43 has two layouts, with a MEI type and without one.
The decoder tells them apart by the number of bytes that follow, and over RTU the CRC
follows.

- `SentResponse`: a response that goes over the line, exceptions of both layouts included.
- `drain_append`, `not_receivedAs_legacy`: what the response handler makes of a frame,
  whatever follows it.
- `exceptionUnderstood_iff`: an exception and the responses behind it are received as
  they were sent if and only if no exception among them is one for function code 43
  without a MEI type.
-/

namespace NodeModbus

open Buffer Words ModbusRTUClientResponseHandler

/-- The bodies that may go over a serial line: those that are built, and device
identifications of up to 255 objects. -/
inductive ResponseBody.Sendable : ResponseBody → Prop
  | built {b : ResponseBody} (h : b.Built) : Sendable b
  | readDeviceIdentification {r : ReadDeviceIdentificationResponseBody}
      (h : r.objects.length ≤ 255) : Sendable (.readDeviceIdentification r)

theorem ResponseBody.Sendable.selfDelimiting {b : ResponseBody} (h : b.Sendable)
    (hmei : ¬ b.LegacyException) : b.SelfDelimiting := by
  cases h with
  | built h => exact .built h hmei
  | readDeviceIdentification h => exact .readDeviceIdentification h

theorem ResponseBody.Sendable.exists_legacy {b : ResponseBody} (h : b.Sendable)
    (hlegacy : b.LegacyException) : ∃ code, IsUInt8 code ∧
      b = .exception { fc := .readDeviceIdentification, code, meiType := none } := by
  cases h with
  | readDeviceIdentification _ => exact hlegacy.elim
  | built h =>
    cases h with
    | @exception fc code meiType hc hmei =>
      obtain ⟨rfl, rfl⟩ : fc = .readDeviceIdentification ∧ meiType = none := hlegacy
      exact ⟨code, hc, rfl⟩
    | _ => exact hlegacy.elim

/-- A response that goes over a serial line, with its bytes. -/
structure SentResponse (crc16modbus : Buffer → UInt16) where
  response : ModbusRTUResponse
  payload : Buffer
  sendable : response.body.Sendable
  encoded : response.createPayload crc16modbus = .ok payload

namespace SentResponse

variable {crc16modbus : Buffer → UInt16}

/-- The frame is an exception for function code 43 without a MEI type. -/
def LegacyException (f : SentResponse crc16modbus) : Prop := f.response.body.LegacyException

/-- A frame whose end can be told from its own bytes. -/
def delimited (f : SentResponse crc16modbus) (h : ¬ f.LegacyException) :
    RtuResponseFrame crc16modbus where
  response := f.response
  payload := f.payload
  selfDelimiting := f.sendable.selfDelimiting h
  encoded := f.encoded

/-- What a frame should be received as: with its address, with the CRC field it was sent
with, and with a body that says the same. -/
structure ReceivedAs (f : SentResponse crc16modbus) (r : ModbusRTUResponse) : Prop where
  address : r.address = f.response.address
  crc : ∃ covered, f.payload = covered ++ le16 (crc16modbus covered).toNat ∧
    r.crc = some ((crc16modbus covered).toNat : Int)
  body : f.response.body.ReadBackAs r.body

/-! ## What the handler makes of a frame -/

/-- A frame whose end can be told is received as it was sent, and what follows it is left. -/
theorem drain_append (f : SentResponse crc16modbus) (h : ¬ f.LegacyException) (tail : Buffer) :
    ∃ r, f.ReceivedAs r ∧ drain (f.payload ++ tail) =
      (r :: (drain tail).1, (drain tail).2) := by
  have hreceived := (f.delimited h).receivedAs_received
  refine ⟨(f.delimited h).received, ⟨hreceived.address, hreceived.crc, hreceived.body⟩, ?_⟩
  obtain ⟨p, hf⟩ := (f.delimited h).exists_parts
  have hlength : f.payload.length = p.length + 3 := by
    rw [show f.payload = _ from hf.payload_eq, ModbusRTURequest.length_frame]
  have haccept := drain_spec.accept (b := f.payload ++ tail) (v := (f.delimited h).received)
    (n := f.payload.length) ⟨(f.delimited h).fromBuffer_append tail, ?_⟩
  · rw [haccept, List.drop_left]
  · show (f.delimited h).response.body.readBack.byteCount + 3 = _
    rw [hf.byteCount, hlength]
    omega

/-- The bytes of an exception for function code 43 without a MEI type. -/
theorem exists_legacy (f : SentResponse crc16modbus) (h : f.LegacyException) :
    ∃ a x lo hi : UInt8, f.payload = [a, 0xAB, x, lo, hi] := by
  obtain ⟨code, hc, hbody⟩ := f.sendable.exists_legacy h
  have hp : f.response.body.createPayload = .ok [0xAB, UInt8.ofNat code.toNat] := by
    rw [hbody]
    exact (ExceptionResponseBody.createPayload_eq _).trans (if_pos ⟨hc, fun m hm => nomatch hm⟩)
  have hcount : f.response.body.byteCount = (2 : Nat) := by rw [hbody]; rfl
  obtain ⟨-, hpayload⟩ := ModbusRTUResponse.createPayload_eq_ok crc16modbus hp hcount f.encoded
  exact ⟨_, _, _, _, hpayload⟩

/-- Such a frame is taken for one in the other layout: its code for the MEI type, the first
byte of the CRC for the code, and the second one, with the byte behind the frame, for the
CRC. -/
theorem fromBuffer_legacy (a x lo hi : UInt8) (tail : Buffer) :
    ModbusRTUResponse.fromBuffer (a :: 0xAB :: x :: lo :: hi :: tail) =
      (tail.head?).map fun t =>
        { address := a.toNat, crc := some (u16 t hi : Int),
          body := .exception { fc := .readDeviceIdentification, code := lo.toNat,
                               meiType := some (x.toNat : Int) } } := by
  have hbody : ResponseFactory.fromBuffer (0xAB :: x :: lo :: hi :: tail) =
      some (.exception { fc := .readDeviceIdentification, code := lo.toNat,
                         meiType := some (x.toNat : Int) }) := by
    refine (ResponseFactory.fromBuffer_exception .readDeviceIdentification _).trans ?_
    rw [ExceptionResponseBody.fromBuffer_cons]
    rfl
  rw [ModbusRTUResponse.fromBuffer_cons, hbody, Option.bind_some]
  cases tail with
  | nil => rfl
  | cons t tail =>
    have hread := readUInt16LE_append [a, 0xAB, x, lo] hi t tail
    exact congrArg (fun crc => (Except.toOption crc).map _) hread

/-- It is never received as it was sent. -/
theorem not_receivedAs_legacy (f : SentResponse crc16modbus) (h : f.LegacyException)
    (tail : Buffer) {r : ModbusRTUResponse} {rs : List ModbusRTUResponse}
    (hdrain : (drain (f.payload ++ tail)).1 = r :: rs) : ¬ f.ReceivedAs r := by
  obtain ⟨a, x, lo, hi, hpayload⟩ := f.exists_legacy h
  have hfrom := fromBuffer_legacy a x lo hi tail
  rw [show f.payload ++ tail = a :: 0xAB :: x :: lo :: hi :: tail from by rw [hpayload]; rfl]
    at hdrain
  cases tail with
  | nil =>
    rw [drain_spec.wait hfrom] at hdrain
    cases hdrain
  | cons t tail =>
    rw [drain_spec.accept (n := 6) ⟨hfrom, rfl⟩] at hdrain
    obtain ⟨rfl, -⟩ := List.cons.inj hdrain
    intro hreceived
    -- what is received has a MEI type
    have hcontent := hreceived.body.content
    cases hbody : f.response.body with
    | exception b =>
      have hb : f.response.body.LegacyException := h
      rw [hbody] at hcontent hb
      have hmei := (ResponseContent.exception.inj hcontent).2.2
      rw [hb.2] at hmei
      cases hmei
    | _ =>
      rw [hbody] at hcontent
      cases hcontent

/-- Frames in one buffer are received as they were sent if and only if no one is in the short
layout. -/
theorem forall₂_receivedAs_drain_iff (frames : List (SentResponse crc16modbus)) :
    List.Forall₂ ReceivedAs frames (drain (frames.flatMap payload)).1 ↔
      ∀ f ∈ frames, ¬ f.LegacyException := by
  induction frames with
  | nil =>
    have hnil : drain [] = ([], []) := drain_spec.wait ModbusRTUResponse.fromBuffer_nil
    rw [List.flatMap_nil, hnil]
    exact iff_of_true .nil fun f hf => nomatch hf
  | cons f frames ih =>
    rw [List.flatMap_cons, List.forall_mem_cons]
    constructor
    · intro hreceived
      have hfirst : ¬ f.LegacyException := by
        intro hlegacy
        cases hdrain : (drain (f.payload ++ frames.flatMap payload)).1 with
        | nil =>
          rw [hdrain] at hreceived
          cases hreceived
        | cons r rs =>
          rw [hdrain, List.forall₂_cons] at hreceived
          exact f.not_receivedAs_legacy hlegacy _ hdrain hreceived.1
      obtain ⟨r, -, hdrain⟩ := f.drain_append hfirst (frames.flatMap payload)
      rw [hdrain, List.forall₂_cons] at hreceived
      exact ⟨hfirst, ih.mp hreceived.2⟩
    · rintro ⟨hfirst, hothers⟩
      obtain ⟨r, hr, hdrain⟩ := f.drain_append hfirst (frames.flatMap payload)
      rw [hdrain]
      exact .cons hr (ih.mpr hothers)

end SentResponse

/-! ## An exception in front of a stream -/

section

variable {crc16modbus : Buffer → UInt16}

/-- What is asked of a buffer that begins with the frame of an exception: the exception
comes out first, with its address, the CRC field it was sent with, and the same code and MEI
type, and then the responses behind it as they were sent. -/
structure ExceptionUnderstood (b : ExceptionResponseBody) (f : SentResponse crc16modbus)
    (frames : List (SentResponse crc16modbus)) : Prop where
  received : ∃ r rs, (handleData new ((f :: frames).flatMap SentResponse.payload))._messages =
    r :: rs ∧ f.ReceivedAs r ∧ r.body = .exception b ∧
    List.Forall₂ SentResponse.ReceivedAs frames rs

theorem eq_exception_of_readBackAs {b : ExceptionResponseBody} {body : ResponseBody}
    (h : (ResponseBody.exception b).ReadBackAs body) : body = .exception b := by
  have hcontent := h.content
  cases body with
  | exception b' =>
    obtain ⟨fc, code, meiType⟩ := b
    obtain ⟨fc', code', meiType'⟩ := b'
    obtain ⟨rfl, rfl, rfl⟩ := ResponseContent.exception.inj hcontent
    rfl
  | _ => cases hcontent

/-- An exception and the responses behind it are received as they were sent if and only if
none of them is an exception for function code 43 without a MEI type. -/
theorem exceptionUnderstood_iff {b : ExceptionResponseBody} (f : SentResponse crc16modbus)
    (hf : f.response.body = .exception b) (frames : List (SentResponse crc16modbus)) :
    ExceptionUnderstood b f frames ↔ ∀ g ∈ f :: frames, ¬ g.LegacyException := by
  rw [← SentResponse.forall₂_receivedAs_drain_iff]
  constructor
  · rintro ⟨r, rs, hmessages, hr, -, hrs⟩
    rw [show (drain ((f :: frames).flatMap SentResponse.payload)).1 = r :: rs from hmessages]
    exact .cons hr hrs
  · intro hreceived
    cases hdrain : (drain ((f :: frames).flatMap SentResponse.payload)).1 with
    | nil =>
      rw [hdrain] at hreceived
      cases hreceived
    | cons r rs =>
      rw [hdrain, List.forall₂_cons] at hreceived
      obtain ⟨hr, hrs⟩ := hreceived
      have hbody := hr.body
      rw [hf] at hbody
      exact ⟨r, rs, hdrain, hr, eq_exception_of_readBackAs hbody, hrs⟩

theorem isUInt8_one : IsUInt8 1 := by decide

theorem isUInt8_two : IsUInt8 2 := by decide

/-- The exception "illegal data address" of unit 1, for a function code and a MEI type. -/
def illegalAddress (crc16modbus : Buffer → UInt16) (fc : FC) (meiType : Option Int)
    (hmei : ∀ m ∈ meiType, fc = .readDeviceIdentification ∧ IsUInt8 m) :
    SentResponse crc16modbus where
  response := { address := 1, crc := none, body := .exception { fc, code := 2, meiType } }
  payload := ModbusRTURequest.frame crc16modbus 1
    (ExceptionResponseBody.bytes { fc, code := 2, meiType })
  sendable := .built (.exception isUInt8_two hmei)
  encoded := ModbusRTUResponse.createPayload_eq crc16modbus
    (ResponseBody.exception_decodesTo (r := { fc, code := 2, meiType }) isUInt8_two
      hmei).payload
    (by cases meiType <;> rfl) isUInt8_one

/-- The CRC of the two frames below. -/
def illegalAddressCrc (b : Buffer) : UInt16 :=
  if b = [1, 0x81, 2] then 0x91C1 else if b = [1, 0xAB, 0x0E, 2] then 0x99F5 else 0

theorem exceptionUnderstood_iff_readCoils :
    ExceptionUnderstood { fc := .readCoil, code := 2, meiType := none }
        (illegalAddress illegalAddressCrc .readCoil none (fun _ hm => nomatch hm))
        [illegalAddress illegalAddressCrc .readDeviceIdentification (some 0x0E) (by decide)] ↔
      ∀ g ∈ [illegalAddress illegalAddressCrc .readCoil none (fun _ hm => nomatch hm),
        illegalAddress illegalAddressCrc .readDeviceIdentification (some 0x0E) (by decide)],
        ¬ g.LegacyException :=
  exceptionUnderstood_iff _ rfl _

/-- The exception for function code 43 without a MEI type, alone and whatever the CRC is. -/
theorem not_exceptionUnderstood_legacy :
    ¬ ∃ crc16modbus,
      ExceptionUnderstood { fc := .readDeviceIdentification, code := 2, meiType := none }
      (illegalAddress crc16modbus .readDeviceIdentification none (fun _ hm => nomatch hm))
        [] := by
  rintro ⟨crc16modbus, r, rs, hmessages, hr, -, -⟩
  have hlegacy : (illegalAddress crc16modbus .readDeviceIdentification none
      (fun _ hm => nomatch hm)).LegacyException := by
    exact ⟨rfl, rfl⟩
  exact SentResponse.not_receivedAs_legacy _ hlegacy [] hmessages hr

end

end NodeModbus
