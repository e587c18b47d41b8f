import NodeModbus.Service.Awaited

/-!
# What is on its way only has to arrive

Whatever state the service has come to, it takes no more than deliveries between a client
and the server until the promise of every call of the client is settled. In every round
of them the client handles at least the request under way.

- `ServiceEvent.Delivers`: bytes arrive at the server or at the client.
- `exists_round`: in one round, fewer requests are pending.
- `exists_deliveries`: so there are deliveries after which none is.
-/

namespace NodeModbus

open Buffer Framing Linearization MBClientRequestHandler Transition

variable {ι : Type}

/-- Bytes of the client arrive at the server, or bytes of the server at the client. -/
def ServiceEvent.Delivers (i : ι) (e : ServiceEvent ι) : Prop :=
  (∃ n k, e = .upstream i n k) ∨ ∃ k, e = .downstream i k

variable [DecidableEq ι] {id : Option Int} {t : Tables} {heap : Heap} {s : Service ι}
  {order : Order ι} {i : ι}

/-- What the users have seen stays. -/
theorem Service.history_next (server : ModbusServer) (s : Service ι) (e : ServiceEvent ι) :
    ∃ marks, (s.next server e).history = s.history ++ marks := by
  cases e with
  | upstream i n k => exact ⟨[], (List.append_nil _).symm⟩
  | _ => exact ⟨_, rfl⟩

theorem Service.history_after (server : ModbusServer) (s : Service ι)
    (events : List (ServiceEvent ι)) :
    ∃ marks, (events.foldl (Service.next server) s).history = s.history ++ marks := by
  induction events generalizing s with
  | nil => exact ⟨[], (List.append_nil _).symm⟩
  | cons e events ih =>
    obtain ⟨marks, hmarks⟩ := s.history_next server e
    obtain ⟨marks', hmarks'⟩ := ih (s.next server e)
    exact ⟨marks ++ marks', by rw [List.foldl_cons, hmarks', hmarks, List.append_assoc]⟩

/-- What is on its way to the server arrives. -/
theorem Service.up_upstream (server : ModbusServer) (s : Service ι) (i : ι) (k : Nat) :
    ((s.next server (.upstream i (s.session i).current k)).session i).link.up =
      (s.session i).link.up.deliver k := by
  have hself : (s.next server (.upstream i (s.session i).current k)).session i =
      ((s.session i).served server s.heap (s.session i).current k).1 := Function.update_self ..
  rw [hself, Session.served]
  exact congrArg Connection.up ((s.session i).link_modify _)

/-- The client is left with fewer pending requests when everything that is on its way to it
has arrived. -/
theorem Explained.pending_downstream (h : Explained id t heap s order)
    (hawaits : (s.session i).Awaits) (hup : (s.session i).link.up.frames = []) {k : Nat}
    (hall : ((s.session i).link.down.deliver k).frames = [])
    (hpending : (s.session i).handler.pending ≠ []) :
    ((s.next (.ofTables id t) (.downstream i k)).session i).handler.pending.length <
      (s.session i).handler.pending.length := by
  obtain ⟨u, hcurrent⟩ : ∃ u, (s.session i).handler._currentRequest = some u := by
    refine Option.ne_none_iff_exists'.mp fun hnone => hpending ?_
    exact pending_of_idle hnone ((h.inv i).requests_eq_nil hnone)
  obtain ⟨sent, answers, htracked⟩ := h.tracked i
  obtain ⟨done, rest, responses, rfl, hresponses, hreceived, hself⟩ :=
    htracked.exists_received_session id t (Wire.uncut_of_frames_nil _ hall)
  -- everything has arrived, and something was on its way
  have hrest : rest = [] := by
    have hframes := hreceived.downstream.frames
    rw [show ((s.session i).received k).link.down.frames = [] from ?_] at hframes
    · exact List.map_eq_nil_iff.mp hframes.symm
    · show ((s.session i).receive k).link.down.frames = []
      rw [Session.link_receive]
      exact hall
  subst hrest
  cases responses with
  | nil =>
    obtain rfl : done = [] := List.map_eq_nil_iff.mp hresponses.symm
    have hquiet : (s.session i).Quiet := ⟨hup, htracked.downstream.frames⟩
    have hmem := (hawaits u hcurrent).2
    rw [Session.ids_of_quiet hquiet] at hmem
    cases hmem
  | cons response responses =>
    obtain ⟨g, hg, heq⟩ := exists_answer hresponses (List.mem_cons_self ..)
    have hexception := isException_of_content (congrArg (fun p => p.2.2.2.2) heq)
      (htracked.genuine g (List.mem_append_left _ hg)).isException
    rw [hself]
    exact length_pending_lt ((h.inv i).handleAll (response :: responses)) hcurrent
      (pending_handleAll hcurrent hexception)

/-- In one round of deliveries the client is left with fewer pending requests. -/
theorem exists_round (h : Reachable (steadySystem ι id t heap) s) (i : ι)
    (hpending : (s.session i).handler.pending ≠ []) :
    ∃ events : List (ServiceEvent ι), (∀ e ∈ events, e.Delivers i) ∧
    (steadySystem ι id t heap).Runs s events ∧
      (((steadySystem ι id t heap).after s events).session i).handler.pending.length <
        (s.session i).handler.pending.length := by
  obtain ⟨order, hexplained⟩ := exists_explained h.of_restrict
  have hup := (s.session i).link.up.frames_deliver_all
  generalize (s.session i).link.up.frames.flatten.length = k at hup
  have hallowed : (steadySystem ι id t heap).allows s (.upstream i (s.session i).current k) :=
    ⟨⟨Nat.le_refl _, Wire.uncut_of_frames_nil _ hup⟩, fun j hj => nomatch hj⟩
  have hhandler := (hexplained.ids_served (i := i) hallowed.1.2).2
  have h' := h.step _ hallowed
  have hawaits := awaits_of_reachable h' i
  obtain ⟨order', hexplained'⟩ := exists_explained h'.of_restrict
  rw [← Service.up_upstream (.ofTables id t)] at hup
  have hdown := (((steadySystem ι id t heap).next s
    (.upstream i (s.session i).current k)).session i).link.down.frames_deliver_all
  generalize (((steadySystem ι id t heap).next s
    (.upstream i (s.session i).current k)).session i).link.down.frames.flatten.length = k'
    at hdown
  refine ⟨[.upstream i (s.session i).current k, .downstream i k'], ?_, ?_, ?_⟩
  · exact List.forall_mem_cons.mpr
      ⟨.inl ⟨_, _, rfl⟩, List.forall_mem_singleton.mpr (.inr ⟨_, rfl⟩)⟩
  · exact System.runs_cons.mpr ⟨hallowed, System.runs_cons.mpr
      ⟨⟨Wire.uncut_of_frames_nil _ hdown, fun j hj => nomatch hj⟩, each_nil _⟩⟩
  · rw [← hhandler] at hpending ⊢
    exact hexplained'.pending_downstream hawaits hup hdown hpending

/-- After a number of rounds nothing is pending. -/
theorem exists_idle (h : Reachable (steadySystem ι id t heap) s) (i : ι) :
    ∃ events : List (ServiceEvent ι), (∀ e ∈ events, e.Delivers i) ∧
    (steadySystem ι id t heap).Runs s events ∧
      (((steadySystem ι id t heap).after s events).session i).handler.pending = [] := by
  refine ((steadySystem ι id t heap).exists_run_of_rounds (D := ServiceEvent.Delivers i)
    (P := fun n s' => Reachable (steadySystem ι id t heap) s' ∧
      (s'.session i).handler.pending.length = n)
    ?round ⟨h, rfl⟩).imp ?idle
  case round =>
    rintro n s' ⟨h', rfl⟩ hleft
    obtain ⟨events, hevents, hruns, hlt⟩ :=
      exists_round h' i (mt List.length_eq_zero_iff.mpr hleft)
    exact ⟨events, hevents, hruns, _, hlt, hruns.reachable_after h', rfl⟩
  case idle =>
    rintro events ⟨hevents, hruns, -, hidle⟩
    exact ⟨hevents, hruns, List.eq_nil_of_length_eq_zero hidle⟩

/-- Whatever state the service has come to, there are deliveries between a client and the
server after which the promise of every call the client has made is settled. -/
theorem exists_deliveries (h : Reachable (steadySystem ι id t heap) s) (i : ι) :
    ∃ events : List (ServiceEvent ι), (∀ e ∈ events, e.Delivers i) ∧
    (steadySystem ι id t heap).Runs s events ∧
      ∀ k op, .call (i, k) op ∈ s.history →
        ∃ u, u.key = k ∧
        Settled (((steadySystem ι id t heap).after s events).session i).handler.log u := by
  obtain ⟨events, hevents, hruns, hidle⟩ := exists_idle h i
  refine ⟨events, hevents, hruns, fun k op hcall => ?_⟩
  obtain ⟨marks, hmarks⟩ := Service.history_after (.ofTables id t) s events
  refine settled_of_idle (hruns.reachable_after h) hidle k op ?_
  show .call (i, k) op ∈ (events.foldl (Service.next (.ofTables id t)) s).history
  rw [hmarks]
  exact List.mem_append_left _ hcall

theorem exists_deliveries_write :
    ∃ events : List (ServiceEvent Bool), (∀ e ∈ events, e.Delivers false) ∧
      (steadySystem Bool none registersOnly registersHeap).Runs
        ((calmSystem Bool none registersOnly registersHeap).after twoClients oneWrite) events ∧
      ∀ k op,
        .call (false, k) op ∈
          ((calmSystem Bool none registersOnly registersHeap).after twoClients
            oneWrite).history →
          ∃ u, u.key = k ∧ Settled (((steadySystem Bool none registersOnly registersHeap).after
            ((calmSystem Bool none registersOnly registersHeap).after twoClients oneWrite)
              events).session false).handler.log u :=
  exists_deliveries (steady_of_calm reachable_oneWrite) false

end NodeModbus
