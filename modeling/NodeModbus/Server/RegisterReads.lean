import NodeModbus.Response.Built
import NodeModbus.Server.OutOfRange

/-!
# Reads inside a register table

The two register requests accept counts of up to 2000, which is the limit for
bits. In a response the number of data bytes is a byte, so the response to a
larger count than 127 has no payload, although the table holds all of it.

- `InTable`: a read whose window is inside its table.
- `Served`: what is promised of it.
- `served_iff`: it is served if and only if its data bytes can be counted.
-/

namespace NodeModbus

open Buffer Words ModbusServerResponseHandler

namespace RegisterRead

/-- A request that reads `count` registers, all of which are in the table, and what a
response says that has their values. -/
inductive InTable (server : ModbusServer) (heap : Heap) :
    RequestBody → FC → Nat → ResponseContent → Prop
  | readHoldingRegisters {b : ReadHoldingRegistersRequestBody} {holding : Ref}
      {start count : Nat} (ht : server.holding = some holding) (hs : b.start = start)
      (hc : b.count = count) (hcount : 1 ≤ count)
      (hend : 2 * (start + count) ≤ (heap holding).length) :
      InTable server heap (.readHoldingRegisters b) .readHoldingRegisters count
        (.readHoldingRegisters ((((words (heap holding)).drop start).take count).map (↑)))
  | readInputRegisters {b : ReadInputRegistersRequestBody} {input : Ref} {start count : Nat}
      (ht : server.input = some input) (hs : b.start = start) (hc : b.count = count)
      (hcount : 1 ≤ count) (hend : 2 * (start + count) ≤ (heap input).length) :
      InTable server heap (.readInputRegisters b) .readInputRegisters count
        (.readInputRegisters ((((words (heap input)).drop start).take count).map (↑)))

/-- What is promised: one response is sent, of which a client decodes the values, whatever
it has received behind them, or, when the byte count cannot say how many bytes they are, the
exception for an illegal data value. -/
inductive Served (w : Transport) (r : w.Request) (fc : FC) (count : Nat)
    (content : ResponseContent) : Outcome → Prop
  | values {heap : Heap} {pdu : Buffer} {body : ResponseBody} (hcount : 2 * count < 256)
      (hdecoded : ∀ rest, ResponseFactory.fromBuffer (pdu ++ rest) = some body)
      (hcontent : body.content = content) :
      Served w r fc count content (heap, .ok (some (w.frame r pdu)))
  | refused {heap : Heap} (hcount : 256 ≤ 2 * count) :
      Served w r fc count content
        (heap, .ok (some (w.frame r [UInt8.ofNat (fc.code + 0x80), 0x03])))

theorem Served.exists_sent {w : Transport} {r : w.Request} {fc : FC} {count : Nat}
    {content : ResponseContent} {o : Outcome} (h : Served w r fc count content o) :
    ∃ payload, o.2 = .ok (some payload) := by
  cases h with
  | values => exact ⟨_, rfl⟩
  | refused => exact ⟨_, rfl⟩

/-- The words of a window are a window of the words. -/
theorem words_window (table : Buffer) (start count : Nat) :
    words ((table.drop (2 * start)).take (2 * count)) =
      ((words table).drop start).take count := by
  rw [words_take, words_drop]

section Handlers

variable {w : Transport} {r : w.Request} (hr : w.Decoded r) (heap : Heap)

include hr

/-- The answer with the bytes of a window is sent as far as they can be counted, and then
its values are decoded. -/
theorem served_answer_iff {fc : FC} {count : Nat} {values : Buffer}
    {body decoded : ResponseBody}
    (hp : body.createPayload = registersPayload fc values.length (.buffer values))
    (hbytes : body.byteCount = 2 + values.length) (hlen : values.length = 2 * count)
    (hdecoded : values.length < 256 → ∀ rest, ResponseFactory.fromBuffer
      (UInt8.ofNat fc.code :: UInt8.ofNat values.length :: values ++ rest) = some decoded) :
    Served w r fc count decoded.content (answer w.responder heap r (.ok body)) ↔
    count ≤ 127 := by
  rcases Nat.lt_or_ge values.length 256 with hfits | hfits
  · rw [answer_registerBuffer hr heap body fc hp hbytes hfits]
    exact iff_of_true (.values (by omega) (hdecoded hfits) rfl) (by omega)
  · -- the byte count does not fit into a byte, and writing it throws
    rw [registersPayload_buffer, if_neg (by omega)] at hp
    obtain ⟨e, he⟩ := exists_answer_error (w := w) (r := r) heap hp
    refine iff_of_false (fun h => ?_) (by omega)
    obtain ⟨payload, hsent⟩ := h.exists_sent
    rw [he] at hsent
    cases hsent

/-- A read inside its table is served if and only if it is for at most 127 registers,
whatever the table; the requests go up to 2000. -/
theorem served_iff {server : ModbusServer} {fc : FC} {count : Nat} {content : ResponseContent}
    (h : InTable server heap (w.body r) fc count content) :
    Served w r fc count content (handle w.responder server heap r) ↔ count ≤ 127 := by
  unfold handle
  rw [show w.responder.body r = w.body r from rfl]
  generalize w.body r = body at h
  cases h with
  | @readHoldingRegisters b holding start count ht hs hc hcount hend =>
    have hlen := length_registers_window hend
    dsimp only [_handleReadHoldingRegisters]
    rw [ht]
    show Served w r _ count _ (answer w.responder heap r _) ↔ _
    rw [ReadHoldingRegistersResponseBody.fromRequest_eq hs hc _ hend, ← words_window]
    generalize ((heap holding).drop (2 * start)).take (2 * count) = values at hlen
    rw [← hlen]
    show Served w r _ count
      (ResponseBody.content (.readHoldingRegisters (.ofBuffer values.length values))) _ ↔ _
    refine served_answer_iff hr heap rfl rfl hlen ?_
    intro hfits rest
    exact (ResponseBody.readHoldingRegisters_decodesTo (by omega) hfits).decoded rest False.elim
  | @readInputRegisters b input start count ht hs hc hcount hend =>
    have hlen := length_registers_window hend
    dsimp only [_handleReadInputRegisters]
    rw [ht]
    show Served w r _ count _ (answer w.responder heap r _) ↔ _
    rw [ReadInputRegistersResponseBody.fromRequest_eq hs hc _ hend, ← words_window]
    generalize ((heap input).drop (2 * start)).take (2 * count) = values at hlen
    rw [← hlen]
    show Served w r _ count
      (ResponseBody.content (.readInputRegisters (.ofPayload values.length values))) _ ↔ _
    refine served_answer_iff hr heap rfl rfl hlen ?_
    intro hfits rest
    exact (ResponseBody.readInputRegisters_decodesTo (by omega) hfits).decoded rest False.elim

end Handlers

/-- The two input registers behind the first one. -/
theorem served_iff_two :
    Served .tcp ⟨2, 0, 6, 1, .readInputRegisters ⟨1, 2, by decide, by decide⟩⟩
      .readInputRegisters 2
      (.readInputRegisters [2, 3])
      (handle tcpResponder ⟨none, some 0, some 1, some 2, some 3⟩ (fun _ => [0, 1, 0, 2, 0, 3])
        ⟨2, 0, 6, 1, .readInputRegisters ⟨1, 2, by decide, by decide⟩⟩) ↔ 2 ≤ 127 := by
  have hread : ModbusTCPRequest.fromBuffer [0, 2, 0, 0, 0, 6, 1, 4, 0, 1, 0, 2] =
      some ⟨2, 0, 6, 1, .readInputRegisters ⟨1, 2, by decide, by decide⟩⟩ := by decide +kernel
  exact served_iff (w := .tcp) (Transport.decoded_tcp hread) _
    (@InTable.readInputRegisters _ _ ⟨1, 2, by decide, by decide⟩ 3 1 2 rfl rfl rfl (by decide)
      (by decide))

/-- A table of 128 registers, all of which are read: nothing is sent. -/
theorem not_served_128 :
    ¬ ∀ (w : Transport) (server : ModbusServer) (heap : Heap) (r : w.Request) (fc : FC)
        (count : Nat) (content : ResponseContent), w.Decoded r →
        InTable server heap (w.body r) fc count content →
        Served w r fc count content (handle w.responder server heap r) := by
  intro h
  have hread : ModbusTCPRequest.fromBuffer [0, 2, 0, 0, 0, 6, 1, 3, 0, 0, 0, 0x80] =
      some ⟨2, 0, 6, 1, .readHoldingRegisters ⟨0, 0x80, by decide, by decide⟩⟩ := by
    decide +kernel
  have hserved := h .tcp ⟨none, some 0, some 1, some 2, some 3⟩
    (fun _ => List.replicate 256 0) _ _ _ _ (Transport.decoded_tcp hread)
    (@InTable.readHoldingRegisters _ _ ⟨0, 0x80, by decide, by decide⟩ 2 0 0x80 rfl rfl rfl
      (by decide) (by rw [List.length_replicate]))
  have hthrows : (handle tcpResponder ⟨none, some 0, some 1, some 2, some 3⟩
      (fun _ => List.replicate 256 0)
      ⟨2, 0, 6, 1, .readHoldingRegisters ⟨0, 0x80, by decide, by decide⟩⟩).2.toOption =
        none := by
    decide +kernel
  obtain ⟨payload, hsent⟩ := hserved.exists_sent
  rw [show (handle tcpResponder _ _ _).2 = _ from hsent] at hthrows
  cases hthrows

end RegisterRead

end NodeModbus
