import NodeModbus.Server.Refinement

/-!
# Reads behind the end of a table

A write behind its table is answered with an exception, the one for an illegal data
address. A read is not: the bits and the input registers are cut off at the end of
the table, and for the holding registers an assertion fails.

- `OutOfRange`: a read whose window is not inside its table.
- `CutShort`: what comes of it, `handle_cutShort`.
- `not_refused_of_outOfRange`: no such read is refused.
-/

namespace NodeModbus

open Buffer ModbusServerResponseHandler

/-- A request with function code `fc` that reads `count` items, where the window is not
inside the table. The bit tables hold eight items a byte, the register tables one in two
bytes. -/
inductive OutOfRange (server : ModbusServer) (heap : Heap) : RequestBody → FC → Int → Prop
  | readCoils {b : ReadCoilsRequestBody} {coils : Ref} (ht : server.coils = some coils)
      (hcount : 1 ≤ b.count) (hend : 8 * (heap coils).length < b.start + b.count) :
      OutOfRange server heap (.readCoils b) .readCoil b.count
  | readDiscreteInputs {b : ReadDiscreteInputsRequestBody} {discrete : Ref}
      (ht : server.discrete = some discrete) (hcount : 1 ≤ b.count)
      (hend : 8 * (heap discrete).length < b.start + b.count) :
      OutOfRange server heap (.readDiscreteInputs b) .readDiscreteInput b.count
  | readHoldingRegisters {b : ReadHoldingRegistersRequestBody} {holding : Ref}
      (ht : server.holding = some holding) (hcount : 1 ≤ b.count)
      (hend : (heap holding).length < 2 * (b.start + b.count)) :
      OutOfRange server heap (.readHoldingRegisters b) .readHoldingRegisters b.count
  | readInputRegisters {b : ReadInputRegistersRequestBody} {input : Ref}
      (ht : server.input = some input) (hcount : 1 ≤ b.count)
      (hend : (heap input).length < 2 * (b.start + b.count)) :
      OutOfRange server heap (.readInputRegisters b) .readInputRegisters b.count

/-- What is sent is one response, the exception for an illegal data address. -/
def Refused (w : Transport) (r : w.Request) (fc : FC) (o : Outcome) : Prop :=
  o.2 = .ok (some (w.frame r [UInt8.ofNat (fc.code + 0x80), 0x02]))

/-- It throws, or what is sent is a normal response with fewer items than `count`. -/
inductive CutShort (w : Transport) (heap : Heap) (r : w.Request) (fc : FC) (count : Int) :
    Outcome → Prop
  | thrown (e : Thrown) : CutShort w heap r fc count (heap, .error e)
  | bits {values : List Bool} (h : values.length < count) :
      CutShort w heap r fc count (heap, .ok (some (w.frame r (UInt8.ofNat fc.code ::
        UInt8.ofNat ((values.length + 7) / 8) :: Bits.pack values))))
  | registers {values : Buffer} (h : values.length < 2 * count) :
      CutShort w heap r fc count (heap, .ok (some (w.frame r (UInt8.ofNat fc.code ::
        UInt8.ofNat values.length :: values))))

/-- A normal response does not have the function code of an exception. -/
theorem CutShort.not_refused {w : Transport} {heap : Heap} {r : w.Request} {fc : FC}
    {count : Int} {o : Outcome} (h : CutShort w heap r fc count o) : ¬ Refused w r fc o := by
  have hcode : UInt8.ofNat fc.code ≠ UInt8.ofNat (fc.code + 0x80) := by
    cases fc <;> decide
  intro href
  cases h with
  | thrown e => cases href
  | bits h =>
    have hframe := w.frame_injective r (Option.some.inj (Except.ok.inj href))
    exact hcode (List.cons.inj hframe).1
  | registers h =>
    have hframe := w.frame_injective r (Option.some.inj (Except.ok.inj href))
    exact hcode (List.cons.inj hframe).1

section Handlers

variable {w : Transport} {r : w.Request} (hr : w.Decoded r) (heap : Heap) {start count : Nat}
  {table : Buffer}

/-- A body without a payload is not sent. -/
theorem exists_answer_error {body : ResponseBody} {e : Thrown}
    (hp : body.createPayload = .error e) :
    ∃ e', answer w.responder heap r (.ok body) = (heap, .error e') := by
  cases hrespond : w.responder.respond r body with
  | error e' =>
    refine ⟨e', ?_⟩
    show (heap,
      (do return some (← w.responder.respond r body) : Except Thrown (Option Buffer))) = _
    rw [hrespond]
    rfl
  | ok payload =>
    obtain ⟨p, hp'⟩ := Transport.exists_createPayload_of_respond hrespond
    rw [hp] at hp'
    cases hp'

/-- The holding registers, of which there are not enough. -/
theorem answer_holding_cutShort {b : ReadHoldingRegistersRequestBody}
    (hend : table.length < 2 * (b.start + b.count)) :
    CutShort w heap r .readHoldingRegisters b.count (answer w.responder heap r do
      return .readHoldingRegisters
          (← ReadHoldingRegistersResponseBody.fromRequest b table)) := by
  rw [ReadHoldingRegistersResponseBody.fromRequest_short hend]
  exact .thrown _

include hr

/-- The bits of a window that is not in its table. -/
theorem answer_bits_cutShort {b : ReadRequestBody} (hs : b.start = start) (hc : b.count = count)
    (hcount : 1 ≤ b.count) (hend : 8 * table.length < b.start + b.count) (fc : FC)
    {body : ReadBitsResponseBody → ResponseBody}
    (hp : ∀ c, (body c).createPayload = ReadBitsResponseBody.createPayload fc c)
    (hbytes : ∀ c, (body c).byteCount = c.byteCount) :
    CutShort w heap r fc b.count (answer w.responder heap r do
      return body (← ReadBitsResponseBody.fromRequest b table)) := by
  have hlen : (((Bits.unpack table).drop start).take count).length < count := by
    rw [List.length_take, List.length_drop, Bits.length_unpack]
    omega
  have hle := b.count_le
  rw [ReadBitsResponseBody.fromRequest_eq hs hc, hc]
  show CutShort w heap r fc count (answer w.responder heap r (.ok (body (.ofArray _))))
  rw [answer_bits hr heap (body (.ofArray _)) fc (hp _) (hbytes _) (by omega)]
  exact .bits (by omega)

/-- The bytes of a window of input registers that is not in its table. -/
theorem answer_input_cutShort {b : ReadInputRegistersRequestBody} (hs : b.start = start)
    (hc : b.count = count) (hcount : 1 ≤ b.count)
    (hend : table.length < 2 * (b.start + b.count)) :
    CutShort w heap r .readInputRegisters b.count (answer w.responder heap r do
      return .readInputRegisters (← ReadInputRegistersResponseBody.fromRequest b table)) := by
  have hbody := ReadInputRegistersResponseBody.fromRequest_window hs hc table
  have hlen : ((table.drop (2 * start)).take (2 * count)).length < 2 * count := by
    rw [List.length_take, List.length_drop]
    omega
  generalize (table.drop (2 * start)).take (2 * count) = values at hbody hlen
  rw [hbody, hc]
  show CutShort w heap r .readInputRegisters count (answer w.responder heap r
    (.ok (.readInputRegisters (.ofBuffer values.length values))))
  by_cases hfits : values.length < 256
  · rw [answer_registerBuffer hr heap (.readInputRegisters (.ofBuffer values.length values))
      .readInputRegisters rfl rfl hfits]
    exact .registers (by omega)
  · -- more bytes than the byte count can say have no payload
    have hp :
        (ResponseBody.readInputRegisters (.ofBuffer values.length values)).createPayload = _ :=
      registersPayload_buffer .readInputRegisters values
    rw [if_neg hfits] at hp
    obtain ⟨e, hanswer⟩ := exists_answer_error (w := w) (r := r) heap hp
    rw [hanswer]
    exact .thrown e

/-- A read that is out of range is cut short. -/
theorem handle_cutShort {server : ModbusServer} {fc : FC} {n : Int}
    (h : OutOfRange server heap (w.body r) fc n) :
    CutShort w heap r fc n (handle w.responder server heap r) := by
  have hwire := Transport.fromWire_body hr
  unfold handle
  rw [show w.responder.body r = w.body r from rfl]
  generalize w.body r = body at hwire h
  cases h with
  | readCoils ht hcount hend =>
    cases hwire with
    | readCoils hs hc =>
      dsimp only [_handleReadCoil]
      rw [ht]
      exact answer_bits_cutShort hr heap hs hc hcount hend _ (fun _ => rfl) (fun _ => rfl)
  | readDiscreteInputs ht hcount hend =>
    cases hwire with
    | readDiscreteInputs hs hc =>
      dsimp only [_handleDiscreteInput]
      rw [ht]
      exact answer_bits_cutShort hr heap hs hc hcount hend _ (fun _ => rfl) (fun _ => rfl)
  | readHoldingRegisters ht hcount hend =>
    dsimp only [_handleReadHoldingRegisters]
    rw [ht]
    exact answer_holding_cutShort heap hend
  | readInputRegisters ht hcount hend =>
    cases hwire with
    | readInputRegisters hs hc =>
      dsimp only [_handleReadInputRegisters]
      rw [ht]
      exact answer_input_cutShort hr heap hs hc hcount hend

end Handlers

/-- No read that is out of range is refused, whatever the server, its tables and the request: it
throws, or is answered with fewer items than it counts. -/
theorem not_refused_of_outOfRange (w : Transport) (server : ModbusServer) (heap : Heap)
    {r : w.Request} (hr : w.Decoded r) {fc : FC} {count : Int}
    (h : OutOfRange server heap (w.body r) fc count) :
    ¬ Refused w r fc (handle w.responder server heap r) ∧
      CutShort w heap r fc count (handle w.responder server heap r) := by
  have hcut := handle_cutShort hr heap h
  exact ⟨hcut.not_refused, hcut⟩

/-- The eight coils behind coil 4, of a table with eight coils. -/
theorem not_refused_of_outOfRange_readCoils :
    ¬ Refused .tcp ⟨2, 0, 6, 1, .readCoils ⟨4, 8, by decide, by decide⟩⟩ .readCoil
      (handle tcpResponder ⟨none, some 0, some 1, some 2, some 3⟩ (fun _ => [0xFF])
        ⟨2, 0, 6, 1, .readCoils ⟨4, 8, by decide, by decide⟩⟩) ∧
    CutShort .tcp (fun _ => [0xFF]) ⟨2, 0, 6, 1, .readCoils ⟨4, 8, by decide, by decide⟩⟩
      .readCoil 8
      (handle tcpResponder ⟨none, some 0, some 1, some 2, some 3⟩ (fun _ => [0xFF])
        ⟨2, 0, 6, 1, .readCoils ⟨4, 8, by decide, by decide⟩⟩) := by
  have hread : ModbusTCPRequest.fromBuffer [0, 2, 0, 0, 0, 6, 1, 1, 0, 4, 0, 8] =
      some ⟨2, 0, 6, 1, .readCoils ⟨4, 8, by decide, by decide⟩⟩ := by decide +kernel
  exact not_refused_of_outOfRange .tcp ⟨none, some 0, some 1, some 2, some 3⟩ (fun _ => [0xFF])
    (Transport.decoded_tcp hread) (.readCoils rfl (by decide) (by decide))

/-- The same request is answered with four coils. -/
theorem not_refused_fourCoils :
    ¬ ∀ (w : Transport) (server : ModbusServer) (heap : Heap) (r : w.Request) (fc : FC)
        (count : Int), w.Decoded r → OutOfRange server heap (w.body r) fc count →
        Refused w r fc (handle w.responder server heap r) := by
  intro h
  have hread : ModbusTCPRequest.fromBuffer [0, 2, 0, 0, 0, 6, 1, 1, 0, 4, 0, 8] =
      some ⟨2, 0, 6, 1, .readCoils ⟨4, 8, by decide, by decide⟩⟩ := by decide +kernel
  have hrefused := h .tcp ⟨none, some 0, some 1, some 2, some 3⟩ (fun _ => [0xFF]) _ .readCoil 8
    (Transport.decoded_tcp hread) (.readCoils rfl (by decide) (by decide))
  have hanswer : (handle tcpResponder ⟨none, some 0, some 1, some 2, some 3⟩ (fun _ => [0xFF])
      ⟨2, 0, 6, 1, .readCoils ⟨4, 8, by decide, by decide⟩⟩).2 =
        .ok (some [0, 2, 0, 0, 0, 4, 1, 1, 1, 0x0F]) := rfl
  have hframe := Option.some.inj (Except.ok.inj (hanswer.symm.trans hrefused))
  exact absurd hframe (by decide)

end NodeModbus
