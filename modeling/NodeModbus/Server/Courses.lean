import NodeModbus.Lib.Transition
import NodeModbus.Server.Listeners

/-!
# What happens while a request is served

Whatever its listeners do, the server emits its events and answers in one of a few
courses: a request is answered at most once by the handler, the event that comes last
is emitted when it was answered, and not when it was refused. Only a request for the
device identification gets its last event in any case. When something throws, the
course is cut short.

- `Answers`, `Refuses`: payloads that answer a request, and payloads that refuse it.
- `Course`, `Cut`: the courses, and what is left of one that is cut short.
- `Courses`: the courses of several requests.
- `handle_course`: one request.
- `courses_onData`: a data event.
- `post_answered`: in every run of a server, the last event of a request comes directly
  after the answer.
-/

namespace NodeModbus

open Buffer Effect Transition

variable {ρ σ : Type}

/-! ## Courses -/

/-- What the server itself does: it emits an event, or answers. -/
def Happening.isOwn : Happening ρ → Bool
  | emitted _ => true
  | called _ => false
  | answered _ => true

/-- What the server itself has done. -/
def Serving.own (s : Serving ρ σ) : List (Happening ρ) := s.happened.filter Happening.isOwn

/-- The events between the first one and the answer: those that carry the table, for a write
of several items, and none for the other requests. -/
inductive Between : EventSubject → List (Happening ρ) → Prop
  | none {subject : EventSubject}
      (h : subject ∉ [.writeMultipleCoils, .writeMultipleRegisters]) : Between subject []
  | coils (table : Ref) (oldStatus newStatus : List Bool) :
    Between .writeMultipleCoils
      [.emitted (.status ⟨.plain, .writeMultipleCoils⟩ table oldStatus),
        .emitted (.status ⟨.post, .writeMultipleCoils⟩ table newStatus)]
  | registers (table : Ref) :
    Between .writeMultipleRegisters
      [.emitted (.table ⟨.plain, .writeMultipleRegisters⟩ table),
        .emitted (.table ⟨.post, .writeMultipleRegisters⟩ table)]

/-- A request is served: the first event, the ones between, the answer, and the last event. -/
def servedCourse (request : ρ) (subject : EventSubject) (between : List (Happening ρ))
    (payload : Buffer) : List (Happening ρ) :=
  .emitted (.request ⟨.pre, subject⟩ request) ::
    (between ++ [.answered payload, .emitted (.request ⟨.post, subject⟩ request)])

/-- The listeners answer a request for the device identification. -/
def identifiedCourse (request : ρ) : List (Happening ρ) :=
  [.emitted (.request ⟨.pre, .readDeviceIdentification⟩ request),
    .emitted (.request ⟨.plain, .readDeviceIdentification⟩ request),
    .emitted (.request ⟨.post, .readDeviceIdentification⟩ request)]

/-- What the events of a request are about. For an exception request there are none. -/
def RequestBody.subject : RequestBody → Option EventSubject
  | readCoils _ => some .readCoils
  | readDiscreteInputs _ => some .readDiscreteInputs
  | readHoldingRegisters _ => some .readHoldingRegisters
  | readInputRegisters _ => some .readInputRegisters
  | writeSingleCoil _ => some .writeSingleCoil
  | writeSingleRegister _ => some .writeSingleRegister
  | writeMultipleCoils _ => some .writeMultipleCoils
  | writeMultipleRegisters _ => some .writeMultipleRegisters
  | readDeviceIdentification _ => some .readDeviceIdentification
  | exception _ => none

/-- The payload is a response to the request that answers it: it has the function code of the
request, and is no exception. -/
def Answers (R : Responder ρ) (request : ρ) (payload : Buffer) : Prop :=
  ∃ body : ResponseBody, body.isException = false ∧ body.fc = (R.body request).fc ∧
    R.respond request body = .ok payload

/-- The payload is an exception, with the function code of the request. -/
def Refuses (R : Responder ρ) (request : ρ) (payload : Buffer) : Prop :=
  ∃ body : ResponseBody, body.isException = true ∧ body.fc = (R.body request).fc ∧
    R.respond request body = .ok payload

/-- The events of the request are about the subject, which is not the device identification. -/
def Concerns (R : Responder ρ) (request : ρ) (subject : EventSubject) : Prop :=
  (R.body request).subject = some subject ∧ subject ≠ .readDeviceIdentification

/-- The request is one for the device identification. -/
def Identifies (R : Responder ρ) (request : ρ) : Prop :=
  (R.body request).subject = some .readDeviceIdentification

/-- A course of a request. -/
inductive Course (R : Responder ρ) (request : ρ) : List (Happening ρ) → Prop
  /-- An exception request, or one for the device identification that fails a check. -/
  | refusedAtOnce {payload : Buffer}
      (hkind : (R.body request).subject = none ∨ Identifies R request)
      (h : Refuses R request payload) :
    Course R request [.answered payload]
  /-- A write outside of its table. A write of several coils is not checked. -/
  | refused {subject : EventSubject} {payload : Buffer} (hsubject : Concerns R request subject)
      (hwrites : subject ∈ [.writeSingleCoil, .writeSingleRegister, .writeMultipleRegisters])
      (h : Refuses R request payload) :
    Course R request [.emitted (.request ⟨.pre, subject⟩ request), .answered payload]
  /-- The table is missing. -/
  | left {subject : EventSubject} (hsubject : Concerns R request subject) :
    Course R request [.emitted (.request ⟨.plain, subject⟩ request)]
  | served {subject : EventSubject} {between : List (Happening ρ)} {payload : Buffer}
      (hsubject : Concerns R request subject) (hbetween : Between subject between)
      (h : Answers R request payload) :
    Course R request (servedCourse request subject between payload)
  | identified (hidentifies : Identifies R request) :
    Course R request (identifiedCourse request)
  /-- Nobody listens for the device identification. -/
  | unidentified {payload : Buffer} (hidentifies : Identifies R request)
      (h : Refuses R request payload) :
    Course R request (servedCourse request .readDeviceIdentification [] payload)

/-- What is left of a course that is cut short: nothing was answered, or the listeners of the
last event throw. -/
inductive Cut (R : Responder ρ) (request : ρ) : List (Happening ρ) → Prop
  | silent : Cut R request []
  | left {subject : EventSubject} (hsubject : Concerns R request subject) :
    Cut R request [.emitted (.request ⟨.plain, subject⟩ request)]
  | unanswered {l : List (Happening ρ)} {subject : EventSubject} {between : List (Happening ρ)}
      (hsubject : (R.body request).subject = some subject) (hbetween : Between subject between)
      (h : l <+: .emitted (.request ⟨.pre, subject⟩ request) :: between) :
    Cut R request l
  | served {subject : EventSubject} {between : List (Happening ρ)} {payload : Buffer}
      (hsubject : Concerns R request subject) (hbetween : Between subject between)
      (h : Answers R request payload) :
    Cut R request (servedCourse request subject between payload)
  | identified {l : List (Happening ρ)} (hidentifies : Identifies R request)
      (h : l <+: identifiedCourse request) :
    Cut R request l
  | unidentified {payload : Buffer} (hidentifies : Identifies R request)
      (h : Refuses R request payload) :
    Cut R request (servedCourse request .readDeviceIdentification [] payload)

/-- The courses of several requests, one after another. Behind the one that is cut short no
request is served. -/
inductive Courses (R : Responder ρ) : List ρ → List (Happening ρ) → Except Thrown Unit → Prop
  | nil : Courses R [] [] (.ok ())
  | cons {request : ρ} {requests : List ρ} {l l' : List (Happening ρ)}
      {outcome : Except Thrown Unit} (h : Course R request l)
      (hrest : Courses R requests l' outcome) :
    Courses R (request :: requests) (l ++ l') outcome
  | cut {request : ρ} {l : List (Happening ρ)} (requests : List ρ) (e : Thrown)
      (h : Cut R request l) :
    Courses R (request :: requests) l (.error e)

/-! ## Steps -/

section Steps

variable {E : Emitter ρ σ} {R : Responder ρ} {base l : List (Happening ρ)} {x : Serve ρ σ Unit}
  {Q : Unit → List (Happening ρ) → Prop} {C : Thrown → List (Happening ρ) → Prop}

/-- An event is emitted. Its listeners may throw. -/
theorem logs_emits {e : Emission ρ} (hok : Q () (l ++ [.emitted e]))
    (herror : ∀ t, C t (l ++ [.emitted e])) : Logs Serving.own base l (E.emits e) Q C := by
  intro s hs
  refine ⟨l ++ [.emitted e], ?_, ?_⟩
  · have hcalled : ((E.emit e s.listeners s.heap).called.map Happening.called).filter
        Happening.isOwn = ([] : List (Happening ρ)) := by
      refine List.filter_eq_nil_iff.mpr ?_
      rintro h hmem
      obtain ⟨payload, -, rfl⟩ := List.mem_map.mp hmem
      exact Bool.false_ne_true
    show (s.happened ++ .emitted e :: (E.emit e s.listeners s.heap).called.map
      Happening.called).filter Happening.isOwn = _
    rw [List.filter_append, List.filter_cons_of_pos rfl, hcalled, ← List.append_assoc, ← hs]
    rfl
  · show Either Q C (E.emit e s.listeners s.heap).outcome _
    cases (E.emit e s.listeners s.heap).outcome with
    | ok a => exact hok
    | error t => exact herror t

theorem logs_emits_bind {e : Emission ρ} (herror : ∀ t, C t (l ++ [.emitted e]))
    (h : Logs Serving.own base (l ++ [.emitted e]) x Q C) :
    Logs Serving.own base l (do E.emits e; x) Q C :=
  have hemits : Logs Serving.own base l (E.emits e) (fun _ l' => l' = l ++ [.emitted e]) C :=
    logs_emits rfl herror
  hemits.bind (by rintro _ _ rfl; exact h)

theorem logs_readTable_bind {table : Ref} {k : Buffer → Serve ρ σ Unit}
    (h : ∀ b, Logs Serving.own base l (k b) Q C) :
    Logs Serving.own base l (readTable table >>= k) Q C := by
  intro s hs
  exact h (s.heap table) s hs

theorem logs_writeTable_bind {table : Ref} {b : Buffer} (h : Logs Serving.own base l x Q C) :
    Logs Serving.own base l (do writeTable table b; x) Q C := by
  intro s hs
  exact h { s with heap := s.heap.write table b } hs

theorem logs_attempt_bind {α : Type} {r : Except Thrown α} {k : α → Serve ρ σ Unit}
    (hok : ∀ a, r = .ok a → Logs Serving.own base l (k a) Q C) (herror : ∀ e, C e l) :
    Logs Serving.own base l (attempt r >>= k) Q C := by
  intro s hs
  cases r with
  | ok a => exact hok a rfl s hs
  | error e => exact ⟨l, hs, herror e⟩

theorem logs_answerWith {request : ρ} {body : ResponseBody}
    (hok : ∀ payload, R.respond request body = .ok payload → Q () (l ++ [.answered payload]))
    (herror : ∀ e, C e l) :
    Logs Serving.own base l (answerWith (σ := σ) R request body) Q C := by
  refine logs_attempt_bind ?_ herror
  rintro payload hpayload s hs
  have hok' : Either Q C (exec (callback (σ := σ) (ρ := ρ) payload) s).1
    (l ++ [.answered payload]) :=
    hok payload hpayload
  refine ⟨l ++ [.answered payload], ?_, hok'⟩
  show (s.happened ++ [Happening.answered payload]).filter Happening.isOwn = _
  rw [List.filter_append, ← List.append_assoc, ← hs]
  rfl

theorem logs_answerWith_bind {request : ρ} {body : ResponseBody}
    (h : ∀ payload, R.respond request body = .ok payload →
      Logs Serving.own base (l ++ [.answered payload]) x Q C)
    (herror : ∀ e, C e l) : Logs Serving.own base l (do answerWith R request body; x) Q C :=
  have hanswers : Logs Serving.own base l (answerWith (σ := σ) R request body)
      (fun _ l' => ∃ payload, R.respond request body = .ok payload ∧
        l' = l ++ [.answered payload]) C :=
    logs_answerWith (fun payload hpayload => ⟨payload, hpayload, rfl⟩) herror
  hanswers.bind (by rintro _ _ ⟨payload, hpayload, rfl⟩; exact h payload hpayload)

end Steps

/-! ## The handlers -/

section Handlers

variable {R : Responder ρ} {request : ρ} {l : List (Happening ρ)} {subject : EventSubject}

variable (E : Emitter ρ σ) (server : ModbusServer) (base : List (Happening ρ))

/-- What a handler with the courses of a request does. -/
abbrev HasCourse (R : Responder ρ) (request : ρ) (base : List (Happening ρ))
    (x : Serve ρ σ Unit) : Prop :=
  Logs Serving.own base [] x (fun _ => Course R request) (fun _ => Cut R request)

/-- A request whose table is missing is left to the listeners. -/
theorem left_course (hsubject : Concerns R request subject) :
    HasCourse R request base (E.emits (.request ⟨.plain, subject⟩ request)) :=
  logs_emits (.left hsubject) fun _ => .left hsubject

/-- An exception with the function code of the request refuses it. -/
theorem refuses {body : ExceptionResponseBody} {payload : Buffer}
    (h : R.respond request (.exception body) = .ok payload)
    (hfc : body.fc = (R.body request).fc) : Refuses R request payload :=
  ⟨.exception body, rfl, hfc, h⟩

theorem exists_between (subject : EventSubject) :
    ∃ between : List (Happening ρ), Between subject between := by
  cases subject with
  | writeMultipleCoils => exact ⟨_, .coils 0 [] []⟩
  | writeMultipleRegisters => exact ⟨_, .registers 0⟩
  | _ => exact ⟨[], .none (by decide)⟩

/-- The first event is cut short when its listeners throw. -/
theorem cut_pre (hsubject : (R.body request).subject = some subject) :
    Cut R request [.emitted (.request ⟨.pre, subject⟩ request)] := by
  obtain ⟨between, hbetween⟩ := exists_between (ρ := ρ) subject
  exact .unanswered hsubject hbetween ⟨between, rfl⟩

/-- The last event comes behind the payload. -/
theorem emits_post_course {between : List (Happening ρ)} {body : ResponseBody}
    (hcut : Cut R request (.emitted (.request ⟨.pre, subject⟩ request) :: between))
    (hcourse : ∀ payload, R.respond request body = .ok payload →
      Course R request (servedCourse request subject between payload) ∧
        Cut R request (servedCourse request subject between payload)) :
    Logs Serving.own base (.emitted (.request ⟨.pre, subject⟩ request) :: between)
      (do answerWith R request body; E.emits (.request ⟨.post, subject⟩ request))
      (fun _ => Course R request) (fun _ => Cut R request) := by
  have hlist : ∀ payload, .emitted (.request ⟨.pre, subject⟩ request) :: between ++
      [.answered payload] ++ [.emitted (.request ⟨.post, subject⟩ request)] =
        servedCourse request subject between payload := by
    intro payload
    rw [servedCourse, List.append_assoc, List.cons_append, List.singleton_append]
  refine logs_answerWith_bind ?_ fun _ => hcut
  rintro payload hpayload
  obtain ⟨hserved, hthrown⟩ := hcourse payload hpayload
  refine logs_emits ?_ fun _ => ?_
  · rw [hlist]
    exact hserved
  · rw [hlist]
    exact hthrown

/-- The last event of a request that is served comes behind the answer. -/
theorem emits_served_course {between : List (Happening ρ)} {body : ResponseBody}
    (hsubject : Concerns R request subject) (hbetween : Between subject between)
    (hbody : body.isException = false) (hfc : body.fc = (R.body request).fc) :
    Logs Serving.own base (.emitted (.request ⟨.pre, subject⟩ request) :: between)
      (do answerWith R request body; E.emits (.request ⟨.post, subject⟩ request))
      (fun _ => Course R request) (fun _ => Cut R request) := by
  refine emits_post_course E base (.unanswered hsubject.1 hbetween (List.prefix_refl _)) ?_
  intro payload hpayload
  have hanswers : Answers R request payload := ⟨body, hbody, hfc, hpayload⟩
  exact ⟨.served hsubject hbetween hanswers, .served hsubject hbetween hanswers⟩

theorem readsTable_course (table : Option Ref) (hsubject : Concerns R request subject)
    (hreads : subject ∉ [.writeMultipleCoils, .writeMultipleRegisters])
    {responseBody : Buffer → Except Thrown ResponseBody}
    (hresponse : ∀ b body, responseBody b = .ok body →
      body.isException = false ∧ body.fc = (R.body request).fc) :
    HasCourse R request base (E.readsTable R table subject request responseBody) := by
  cases table with
  | none => exact left_course E base hsubject
  | some table =>
    have hpre : Cut R request _ := cut_pre hsubject.1
    refine logs_emits_bind (fun _ => hpre) ?_
    refine logs_readTable_bind fun b => logs_attempt_bind ?_ fun _ => hpre
    rintro body hbody
    obtain ⟨hexception, hfc⟩ := hresponse b body hbody
    exact emits_served_course E base hsubject (.none hreads) hexception hfc

/-- What a handler refuses after the first event. -/
theorem refused_course {fc : FC} {code : Int} (hsubject : Concerns R request subject)
    (hwrites : subject ∈ [.writeSingleCoil, .writeSingleRegister, .writeMultipleRegisters])
    (hfc : fc = (R.body request).fc) :
    Logs Serving.own base [.emitted (.request ⟨.pre, subject⟩ request)]
      (answerWith (σ := σ) R request (.exception { fc, code, meiType := none }))
      (fun _ => Course R request) (fun _ => Cut R request) :=
  logs_answerWith (fun _ hpayload => .refused hsubject hwrites (refuses hpayload hfc))
    fun _ => cut_pre hsubject.1

theorem handleReadDeviceIdentification_course {body : ReadDeviceIdentificationRequestBody}
    (hbody : R.body request = .readDeviceIdentification body) :
    HasCourse R request base (E._handleReadDeviceIdentification R request body) := by
  unfold Emitter._handleReadDeviceIdentification
  have hidentifies : Identifies R request := by rw [Identifies, hbody]; rfl
  have hfc : FC.readDeviceIdentification = (R.body request).fc := by rw [hbody]; rfl
  have hatOnce : ∀ code, HasCourse (σ := σ) R request base (answerWith R request
      (.exception { fc := .readDeviceIdentification, code, meiType := some body.meiType })) :=
    fun code => logs_answerWith
      (fun _ hpayload => .refusedAtOnce (.inr hidentifies) (refuses hpayload hfc)) fun _ =>
        .silent
  split_ifs
  · exact hatOnce 0x01
  · exact hatOnce 0x03
  · refine logs_emits_bind (fun _ => cut_pre hidentifies) (Logs.get_bind fun s => ?_)
    split_ifs
    · refine logs_emits_bind (fun _ => .identified hidentifies ?_)
        (logs_emits (.identified hidentifies)
          fun _ => .identified hidentifies (List.prefix_refl _))
      exact ⟨[_], rfl⟩
    · refine emits_post_course E base (cut_pre hidentifies) fun payload hpayload => ?_
      have hrefuses : Refuses R request payload := refuses hpayload hfc
      exact ⟨.unidentified hidentifies hrefuses, .unidentified hidentifies hrefuses⟩

theorem handleWriteSingleCoil_course {body : WriteSingleCoilRequestBody}
    (hbody : R.body request = .writeSingleCoil body) :
    HasCourse R request base (E._handleWriteSingleCoil R server request body) := by
  unfold Emitter._handleWriteSingleCoil
  have hsubject : Concerns R request .writeSingleCoil := ⟨by rw [hbody]; rfl, by decide⟩
  have hfc : FC.writeSingleCoil = (R.body request).fc := by rw [hbody]; rfl
  have hpre : Cut R request _ := cut_pre hsubject.1
  cases server.coils with
  | none => exact left_course E base hsubject
  | some coils =>
    dsimp only
    refine logs_emits_bind (fun _ => hpre) (logs_readTable_bind fun b => ?_)
    refine logs_attempt_bind ?_ fun _ => hpre
    rintro oldValue -
    split_ifs
    · exact refused_course base hsubject (by decide) hfc
    · refine logs_readTable_bind fun b' => ?_
      split_ifs
      · exact refused_course base hsubject (by decide) hfc
      · refine logs_readTable_bind fun b'' => logs_attempt_bind ?_ fun _ => hpre
        rintro table -
        exact logs_writeTable_bind
          (emits_served_course E base hsubject (.none (by decide)) rfl hfc)

theorem handleWriteSingleHoldingRegister_course {body : WriteSingleRegisterRequestBody}
    (hbody : R.body request = .writeSingleRegister body) :
    HasCourse R request base (E._handleWriteSingleHoldingRegister R server request body) := by
  unfold Emitter._handleWriteSingleHoldingRegister
  have hsubject : Concerns R request .writeSingleRegister := ⟨by rw [hbody]; rfl, by decide⟩
  have hfc : FC.writeSingleHoldingRegister = (R.body request).fc := by rw [hbody]; rfl
  have hpre : Cut R request _ := cut_pre hsubject.1
  cases server.holding with
  | none => exact left_course E base hsubject
  | some holding =>
    dsimp only
    refine logs_emits_bind (fun _ => hpre) (logs_readTable_bind fun b => ?_)
    split_ifs
    · exact refused_course base hsubject (by decide) hfc
    · refine logs_readTable_bind fun b' => logs_attempt_bind ?_ fun _ => hpre
      rintro table -
      exact logs_writeTable_bind
        (emits_served_course E base hsubject (.none (by decide)) rfl hfc)

theorem handleWriteMultipleCoils_course {body : WriteMultipleCoilsRequestBody}
    (hbody : R.body request = .writeMultipleCoils body) :
    HasCourse R request base (E._handleWriteMultipleCoils R server request body) := by
  unfold Emitter._handleWriteMultipleCoils
  have hsubject : Concerns R request .writeMultipleCoils := ⟨by rw [hbody]; rfl, by decide⟩
  have hfc : FC.writeMultipleCoils = (R.body request).fc := by rw [hbody]; rfl
  have hpre : Cut R request _ := cut_pre hsubject.1
  cases server.coils with
  | none => exact left_course E base hsubject
  | some coils =>
    dsimp only
    refine logs_emits_bind (fun _ => hpre) (logs_readTable_bind fun b => ?_)
    refine logs_attempt_bind ?_ fun _ => hpre
    rintro oldStatus -
    refine logs_attempt_bind ?_ fun _ => hpre
    rintro requestCoilValues -
    -- the two events with the status come in front of the answer
    have hbetween := Between.coils (ρ := ρ) coils oldStatus
      (ModbusServerResponseHandler.replaceStatus body.address (body.address + body.quantity)
        oldStatus 0 requestCoilValues)
    have hfirst : Cut R request _ := .unanswered hsubject.1 hbetween (List.dropLast_prefix _)
    refine logs_emits_bind (fun _ => hfirst) (logs_attempt_bind ?_ fun _ => hfirst)
    rintro bytes -
    refine logs_readTable_bind fun table => logs_attempt_bind ?_ fun _ => hfirst
    rintro table' -
    have hsecond : Cut R request _ := .unanswered hsubject.1 hbetween (List.prefix_refl _)
    exact logs_writeTable_bind (logs_emits_bind (fun _ => hsecond)
      (emits_served_course E base hsubject hbetween rfl hfc))

theorem handleWriteMultipleHoldingRegisters_course {body : WriteMultipleRegistersRequestBody}
    (hbody : R.body request = .writeMultipleRegisters body) :
    HasCourse R request base
      (E._handleWriteMultipleHoldingRegisters R server request body) := by
  unfold Emitter._handleWriteMultipleHoldingRegisters
  have hsubject : Concerns R request .writeMultipleRegisters := ⟨by rw [hbody]; rfl, by decide⟩
  have hfc : FC.writeMultipleHoldingRegisters = (R.body request).fc := by rw [hbody]; rfl
  have hpre : Cut R request _ := cut_pre hsubject.1
  cases server.holding with
  | none => exact left_course E base hsubject
  | some holding =>
    dsimp only
    refine logs_emits_bind (fun _ => hpre) (logs_readTable_bind fun b => ?_)
    split_ifs
    · exact refused_course base hsubject (by decide) hfc
    · have hbetween := Between.registers (ρ := ρ) holding
      have hfirst : Cut R request _ := .unanswered hsubject.1 hbetween (List.dropLast_prefix _)
      refine logs_emits_bind (fun _ => hfirst) (logs_readTable_bind fun b' => ?_)
      refine logs_attempt_bind ?_ fun _ => hfirst
      rintro table' -
      have hsecond : Cut R request _ := .unanswered hsubject.1 hbetween (List.prefix_refl _)
      exact logs_writeTable_bind (logs_emits_bind (fun _ => hsecond)
        (emits_served_course E base hsubject hbetween rfl hfc))

/-- What a decoded value is made into has the properties of everything that is made so. -/
theorem of_return_eq_ok {α : Type} {P : ResponseBody → Prop} {f : α → ResponseBody}
    (hf : ∀ a, P (f a)) {x : Except Thrown α} {body : ResponseBody}
    (h : (do return f (← x)) = Except.ok body) : P body := by
  cases x with
  | error e => cases h
  | ok a =>
    obtain rfl := Except.ok.inj h
    exact hf a

/-- Every request. -/
theorem handle_course : HasCourse R request base (E.handle R server request) := by
  unfold Emitter.handle
  have hreads : ∀ {table : Option Ref} {subject : EventSubject} {α : Type}
      {f : α → ResponseBody} {x : Buffer → Except Thrown α}, Concerns R request subject →
      subject ∉ [.writeMultipleCoils, .writeMultipleRegisters] →
      (∀ a, (f a).isException = false ∧ (f a).fc = (R.body request).fc) →
      HasCourse R request base (E.readsTable R table subject request fun b =>
        do return f (← x b)) :=
    fun hsubject hplain hf => readsTable_course E base _ hsubject hplain fun _ _ =>
      of_return_eq_ok
        (P := fun responseBody => responseBody.isException = false ∧ responseBody.fc = _) hf
  cases hbody : R.body request with
  | exception body =>
    refine logs_answerWith (fun _ hpayload => ?_) fun _ => .silent
    exact .refusedAtOnce (.inl (by rw [hbody]; rfl)) (refuses hpayload (by rw [hbody]; rfl))
  | readCoils body =>
    exact hreads ⟨by rw [hbody]; rfl, by decide⟩ (by decide) fun _ => ⟨rfl, by rw [hbody]; rfl⟩
  | readDiscreteInputs body =>
    exact hreads ⟨by rw [hbody]; rfl, by decide⟩ (by decide) fun _ => ⟨rfl, by rw [hbody]; rfl⟩
  | readDeviceIdentification body => exact handleReadDeviceIdentification_course E base hbody
  | readHoldingRegisters body =>
    exact hreads ⟨by rw [hbody]; rfl, by decide⟩ (by decide) fun _ => ⟨rfl, by rw [hbody]; rfl⟩
  | readInputRegisters body =>
    exact hreads ⟨by rw [hbody]; rfl, by decide⟩ (by decide) fun _ => ⟨rfl, by rw [hbody]; rfl⟩
  | writeSingleCoil body => exact handleWriteSingleCoil_course E server base hbody
  | writeSingleRegister body =>
    exact handleWriteSingleHoldingRegister_course E server base hbody
  | writeMultipleCoils body => exact handleWriteMultipleCoils_course E server base hbody
  | writeMultipleRegisters body =>
    exact handleWriteMultipleHoldingRegisters_course E server base hbody

end Handlers

/-! ## Data events -/

variable {w : Transport} {E : Emitter w.Request σ}

/-- The requests in the queue that are for this server. -/
def ListenedClient.queue (server : ModbusServer) (c : ListenedClient w σ) : List w.Request :=
  c._requestHandler._requests.filter fun request => !server.ignores (w.address request)

/-- The loop serves the requests in the queue, until something throws. -/
theorem courses_onDataLoop (server : ModbusServer) (c : ListenedClient w σ) :
    ∃ l, ((E.onDataLoop w server).exec c).1.serving.own = c.serving.own ++ l ∧
      Courses w.responder (c.queue server) l ((E.onDataLoop w server).exec c).2 := by
  obtain ⟨⟨requests, buffer⟩, serving⟩ := c
  induction requests generalizing serving with
  | nil =>
    rw [E.exec_idle server buffer serving]
    exact ⟨[], (List.append_nil _).symm, .nil⟩
  | cons request requests ih =>
    cases hignores : server.ignores (w.address request) with
    | true =>
      have hqueue : ListenedClient.queue server ⟨⟨request :: requests, buffer⟩, serving⟩ =
          ListenedClient.queue server ⟨⟨requests, buffer⟩, serving⟩ := by
        unfold ListenedClient.queue
        rw [List.filter_cons_of_neg (by rw [hignores]; decide)]
      rw [E.exec_ignored server requests buffer serving hignores, hqueue]
      exact ih serving
    | false =>
      have hqueue : ListenedClient.queue server ⟨⟨request :: requests, buffer⟩, serving⟩ =
          request :: ListenedClient.queue server ⟨⟨requests, buffer⟩, serving⟩ := by
        unfold ListenedClient.queue
        rw [List.filter_cons_of_pos (by rw [hignores]; rfl)]
      obtain ⟨l, hl, hcourse⟩ := handle_course (R := w.responder) E server serving.own serving
        (List.append_nil _).symm
      cases hexec : exec (E.handle w.responder server request) serving with
      | mk outcome serving' =>
        rw [hexec] at hl hcourse
        cases outcome with
        | error e =>
          rw [hqueue, E.exec_thrown server requests buffer hignores hexec]
          exact ⟨l, hl, .cut _ e hcourse⟩
        | ok result =>
          obtain ⟨l', hl', hcourses⟩ := ih serving'
          rw [hqueue, E.exec_served server requests buffer hignores hexec]
          refine ⟨l ++ l', ?_, .cons hcourse hcourses⟩
          rw [hl', hl, List.append_assoc]

/-- A data event: the requests that are complete are served, each in one of its courses. -/
theorem courses_onData (E : Emitter w.Request σ) (server : ModbusServer)
    (c : ListenedClient w σ) (data : Buffer) :
    match ModbusServerRequestHandler.handle w.reader c._requestHandler data with
    | (_, .error e) =>
      (E._onData w server c data).2 = .error e ∧
        (E._onData w server c data).1.serving.own = c.serving.own
    | (requestHandler, .ok ()) =>
      ∃ l, (E._onData w server c data).1.serving.own = c.serving.own ++ l ∧
        Courses w.responder (ListenedClient.queue server ⟨requestHandler, c.serving⟩) l
          (E._onData w server c data).2 := by
  unfold Emitter._onData
  generalize ModbusServerRequestHandler.handle w.reader c._requestHandler data = result
  obtain ⟨requestHandler, e | ⟨⟨⟩⟩⟩ := result
  · exact ⟨rfl, rfl⟩
  · exact courses_onDataLoop server ⟨requestHandler, c.serving⟩

/-! ## The last event -/

/-- The event that comes last is emitted directly after the handler has answered the same
request, and has not refused it, unless the request is one for the device identification. -/
def PostAnswered (R : Responder ρ) : List (Happening ρ) → Prop :=
  Each fun before h => ∀ subject request, h = .emitted (.request ⟨.post, subject⟩ request) →
    subject ≠ .readDeviceIdentification →
    (R.body request).subject = some subject ∧
      ∃ front payload, before = front ++ [.answered payload] ∧ Answers R request payload

section PostAnswered

variable {R : Responder ρ} {request : ρ} {l l' : List (Happening ρ)}

theorem PostAnswered.append (h : PostAnswered R l) (h' : PostAnswered R l') :
    PostAnswered R (l ++ l') := by
  refine Each.append ?_ h h'
  rintro l before a hbefore subject request ha hne
  obtain ⟨hsubject, front, payload, rfl, hanswers⟩ := hbefore subject request ha hne
  exact ⟨hsubject, l ++ front, payload, (List.append_assoc ..).symm, hanswers⟩

theorem postAnswered_nil (R : Responder ρ) :
    PostAnswered R ([] : List (Happening ρ)) := each_nil _

/-- Nothing is said of the other events. -/
theorem postAnswered_of_forall
    (h : ∀ x ∈ l, ∀ subject request, x = .emitted (.request ⟨.post, subject⟩ request) →
      subject = .readDeviceIdentification) : PostAnswered R l := by
  rintro before a after rfl subject request ha hsubject
  exact absurd (h a (List.mem_append_right _ (List.mem_cons_self ..)) subject request ha)
    hsubject

theorem postAnswered_identified (h : l <+: identifiedCourse request) : PostAnswered R l := by
  refine postAnswered_of_forall ?_
  rintro x hx subject request' rfl
  have hmem : subject = .readDeviceIdentification ∧ request' = request := by
    simpa [identifiedCourse] using h.subset hx
  exact hmem.1

theorem postAnswered_between {subject : EventSubject} {between : List (Happening ρ)}
    (hbetween : Between subject between)
    (h : l <+: .emitted (.request ⟨.pre, subject⟩ request) :: between) : PostAnswered R l := by
  refine postAnswered_of_forall ?_
  rintro x hx subject' request' rfl
  -- the events between carry no request
  have hmem := h.subset hx
  cases hbetween <;> simp at hmem

/-- The last event of a course with an answer. -/
theorem postAnswered_of_served {subject : EventSubject} {between : List (Happening ρ)}
    {payload : Buffer} (hbetween : Between subject between)
    (h : subject ≠ .readDeviceIdentification →
      (R.body request).subject = some subject ∧ Answers R request payload) :
    PostAnswered R (servedCourse request subject between payload) := by
  have hsplit : servedCourse request subject between payload =
      ((.emitted (.request ⟨.pre, subject⟩ request) :: between) ++ [.answered payload]) ++
        [.emitted (.request ⟨.post, subject⟩ request)] := by
    rw [servedCourse, List.append_assoc, List.cons_append, List.singleton_append]
  have hfront : PostAnswered R (.emitted (.request ⟨.pre, subject⟩ request) :: between) :=
    postAnswered_between hbetween (List.prefix_refl _)
  rw [hsplit]
  refine each_concat.mpr ⟨each_concat.mpr ⟨hfront, ?_⟩, ?_⟩
  · rintro subject' request' ⟨⟩
  · rintro subject' request' ⟨⟩ hne
    obtain ⟨hsubject, hanswers⟩ := h hne
    exact ⟨hsubject, _, payload, rfl, hanswers⟩

theorem Course.postAnswered (h : Course R request l) : PostAnswered R l := by
  cases h with
  | refusedAtOnce _ _ => exact postAnswered_of_forall (by simp)
  | refused _ _ _ => exact postAnswered_of_forall (by simp)
  | left _ => exact postAnswered_of_forall (by simp)
  | served hsubject hbetween h => exact postAnswered_of_served hbetween fun _ => ⟨hsubject.1, h⟩
  | identified _ => exact postAnswered_identified (List.prefix_refl _)
  | unidentified _ _ =>
    exact postAnswered_of_served (.none (by decide)) fun hne => absurd rfl hne

theorem Cut.postAnswered (h : Cut R request l) : PostAnswered R l := by
  cases h with
  | silent => exact postAnswered_nil R
  | left _ => exact postAnswered_of_forall (by simp)
  | unanswered _ hbetween h => exact postAnswered_between hbetween h
  | served hsubject hbetween h => exact postAnswered_of_served hbetween fun _ => ⟨hsubject.1, h⟩
  | identified _ h => exact postAnswered_identified h
  | unidentified _ _ =>
    exact postAnswered_of_served (.none (by decide)) fun hne => absurd rfl hne

theorem Courses.postAnswered {requests : List ρ} {outcome : Except Thrown Unit}
    (h : Courses R requests l outcome) : PostAnswered R l := by
  induction h with
  | nil => exact postAnswered_nil R
  | cons h _ ih => exact h.postAnswered.append ih
  | cut _ _ h => exact h.postAnswered

end PostAnswered

variable {ι : Type} [DecidableEq ι]

/-- What the server itself has done on one connection. -/
def ListenedServer.own (s : ListenedServer ι w σ) (i : ι) : List (Happening w.Request) :=
  (s.happened.filterMap fun p => if p.1 = i then some p.2 else none).filter Happening.isOwn

/-- A data event on a connection adds to what has happened there, and to nothing else. -/
theorem own_step (E : Emitter w.Request σ) (server : ModbusServer) (s : ListenedServer ι w σ)
    (event : ι × Buffer) (i : ι) :
    ((E.machine w server).step s event).1.own i =
      s.own i ++ if event.1 = i then
        (E._onData w server ⟨s.connection event.1, ⟨s.listeners, s.heap, []⟩⟩
          event.2).1.serving.own else [] := by
  unfold ListenedServer.own Emitter.machine Serving.own
  dsimp only
  rw [List.filterMap_append, List.filter_append, List.filterMap_map]
  split_ifs with hi
  · have hall : ∀ happened : List (Happening w.Request), happened.filterMap
        ((fun p : ι × Happening w.Request => if p.1 = i then some p.2 else none) ∘
          (event.1, ·)) = happened := by
      intro happened
      simp [hi]
    rw [hall]
  · have hnone : ∀ happened : List (Happening w.Request), happened.filterMap
        ((fun p : ι × Happening w.Request => if p.1 = i then some p.2 else none) ∘
          (event.1, ·)) = [] := by
      intro happened
      simp [hi]
    rw [hnone]
    rfl

/-- Whatever arrives on the connections of a server, in whatever order, and whatever its
listeners do: on every connection the last event of a request comes directly after the
handler has answered that request, and never after a refusal. -/
theorem post_answered (E : Emitter w.Request σ) (server : ModbusServer)
    (connection : ι → ModbusServerRequestHandler w.Request) (listeners : σ) (heap : Heap)
    (events : List (ι × Buffer)) (i : ι) :
    PostAnswered w.responder
      (((E.machine w server).run ⟨connection, listeners, heap, []⟩ events).1.own i) := by
  have hnil : PostAnswered w.responder
      ((⟨connection, listeners, heap, []⟩ : ListenedServer ι w σ).own i) := postAnswered_nil _
  generalize (⟨connection, listeners, heap, []⟩ : ListenedServer ι w σ) = s at hnil ⊢
  induction events generalizing s with
  | nil => exact hnil
  | cons event events ih =>
    rw [Refinement.Machine.run_cons]
    refine ih _ ?_
    rw [own_step]
    refine hnil.append ?_
    split_ifs with hi
    · have hcourses := courses_onData E server
        ⟨s.connection event.1, ⟨s.listeners, s.heap, []⟩⟩ event.2
      split at hcourses
      · rw [hcourses.2]
        exact postAnswered_nil _
      · obtain ⟨l, hl, hcourses⟩ := hcourses
        rw [hl]
        exact hcourses.postAnswered
    · exact postAnswered_nil _

end NodeModbus
