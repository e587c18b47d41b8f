import NodeModbus.Lib.Transition
import NodeModbus.Server.Reassembly

/-!
# Frames that block a TCP connection

The TCP handler waits when the decoder returns null, and the decoder returns
null for a frame that is complete but cannot be decoded. Such a frame stays in
front of the buffer.

- `fromBuffer_isSome_iff`: the frames that can be decoded.
- `tcp_not_complete_iff`: one data event leaves no complete frame in front of the
  buffer if and only if every complete frame it comes to can be decoded.
- `tcp_run_not_complete_iff`: the same for a run.
-/

namespace NodeModbus

open Buffer Framing ModbusServerRequestHandler

/-- With seven bytes there, a request is decoded if and only if the factory decodes the bytes of
the body. -/
theorem ModbusTCPRequest.fromBuffer_isSome_iff {b : Buffer} (h : 7 ≤ b.length) :
    (ModbusTCPRequest.fromBuffer b).isSome ↔ RequestFactory.Decodable (mbapBody b) := by
  obtain ⟨m, hm, -, hbytes⟩ := splitMbap_eq_some h
  rw [ModbusTCPRequest.fromBuffer_eq, hm, Option.bind_some, Option.isSome_map, hbytes,
    RequestFactory.fromBuffer_isSome_iff]

/-- The byte count of a request is what the length field announces. -/
theorem ModbusTCPRequest.byteCount_eq {b : Buffer} {r : ModbusTCPRequest}
    (h : ModbusTCPRequest.fromBuffer b = some r) : r.byteCount = (6 + mbapLength b : Nat) := by
  rw [ModbusTCPRequest.fromBuffer_eq] at h
  obtain ⟨m, hm, h⟩ := Option.bind_eq_some_iff.mp h
  obtain ⟨body, -, rfl⟩ := Option.map_eq_some_iff.mp h
  have hlength := length_of_splitMbap hm
  show (m.length : Int) + 6 = _
  omega

/-- One data event: no complete frame is left in front of the buffer if and only if, from
the front on, every complete frame of the buffer with the new bytes can be decoded. -/
theorem tcp_not_complete_iff (h : ModbusServerRequestHandler ModbusTCPRequest) (data : Buffer) :
    ¬ Complete (handle tcpReader h data).1._buffer ↔
      Clears RequestFactory.Decodable (h._buffer ++ data) := by
  have hdrain : Drain (fun b => ModbusTCPRequest.fromBuffer b = none)
      (fun b r n => ModbusTCPRequest.fromBuffer b = some r ∧ n = 6 + mbapLength b)
      (drain tcpReader) :=
    { wait := tcp_drain.wait
      accept := by
        rintro b r n ⟨hsome, rfl⟩
        exact tcp_drain.accept ⟨hsome, ModbusTCPRequest.byteCount_eq hsome⟩ }
  rw [handle_eq]
  refine not_complete_drain_iff hdrain (fun b hlt => ?_)
    (fun b hlen => ModbusTCPRequest.fromBuffer_isSome_iff hlen) (h._buffer ++ data)
  rw [ModbusTCPRequest.fromBuffer_eq, splitMbap_eq_none hlt]
  rfl

/-- A run: no data event leaves a complete frame in front of the buffer if and only if, at every
data event, every complete frame that is come to can be decoded. -/
theorem tcp_run_not_complete_iff (chunks : List Buffer) :
    (∀ before after, chunks = before ++ after → ¬ Complete (run tcpReader new before)._buffer) ↔
      ∀ before chunk after, chunks = before ++ chunk :: after →
        Clears RequestFactory.Decodable ((run tcpReader new before)._buffer ++ chunk) := by
  have hnew : ¬ Complete (new : ModbusServerRequestHandler ModbusTCPRequest)._buffer := by
    decide
  exact Transition.foldl_prefixes_iff
    (P := fun h : ModbusServerRequestHandler ModbusTCPRequest => ¬ Complete h._buffer) hnew
    tcp_not_complete_iff chunks

/-- A complete frame with function code 7, which no decoder takes, and a valid one. -/
def unsupportedFirst : List Buffer :=
  [[0, 1, 0, 0, 0, 2, 1, 7], [0, 2, 0, 0, 0, 6, 1, 1, 0, 0, 0, 1]]

/-- The frame stays in front of the buffer, and the valid one behind it is not served. -/
theorem not_tcp_run_unsupportedFirst :
    (¬ ∀ before after, unsupportedFirst = before ++ after →
      ¬ Complete (run tcpReader new before)._buffer) ∧
    (run tcpReader new unsupportedFirst)._requests = [] :=
  ⟨fun h => absurd (h unsupportedFirst [] rfl) (by decide), by decide⟩

end NodeModbus
