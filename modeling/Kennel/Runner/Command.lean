import Kennel.Runner.Harness

namespace Kennel
namespace Runner

open Python Sdk

/-!
# What `handle_command` does with a decoded command

A command whose text decodes to a JSON object is dispatched on its `type`.  For a `request` or an
`event`, the object's `data` is read by `from_dict`, whose `get` calls take the stored value of
each key, and then by `__init__`, whose `x or default` replaces the falsy values of `params` and
`metadata` (resp. `data`, `metadata` and `timestamp`).  For any other type the `else` branch
calls `logger.warning`, which the SDK's `Logger` lacks: the `AttributeError` it raises is what
the `except` clause reports, so the frame is the same whatever the type was.
-/

/-! ## The frame of one command -/

section

variable {σ α : Type}

/-- The frame `send_error_response` writes for a message. -/
def errorFrame (message : PyStr) : PyStr :=
  text errorTag ++ text ":" ++ text "\x7b" ++ Json.encodeString (text "error") ++ text ": " ++
    Json.encodeString message ++ text "\x7d"

/-- The frame of a branch that reports under `tag`: the encoded result, or the error frame of
what the operation or the encoding raised. -/
def reportFrame (tag : String) : Except PyExc PyStr → PyStr
  | .ok body => text tag ++ text ":" ++ body
  | .error e => errorFrame e.message

theorem commandFailed_run (e : PyExc) (w : World σ) :
    commandFailed (pure ()) e w = some (.ok (), { w with stdout := w.stdout ++ [errorFrame e.message] }) := by
  simp [commandFailed, sendErrorResponse_eq, errorFrame, write, Py.modify]

/-- A branch that calls one operation and reports its result answers with one frame. -/
theorem report_run (op : Op) (act : PyFloat → StateM σ (Except PyExc α)) (tag : String)
    (payload : α → PyVal) (w : World σ) :
    Py.tryExcept (do
        let x ← callOp (pure ()) op act
        emit (pure ()) tag (payload x)) (commandFailed (pure ())) w =
      some (.ok (), { w with
        module := (act w.now w.module).2
        calls := w.calls ++ [.begin op, .finish op]
        stdout := w.stdout ++
          [reportFrame tag ((act w.now w.module).1 >>= fun x => Json.encode (payload x))] }) := by
  simp only [Py.tryExcept, Py.tryCatch, Py.bind_apply, callOp_run]
  cases outcome : (act w.now w.module).1 with
  | error e => simp [Py.throw, commandFailed_run, reportFrame]
  | ok x =>
      simp only [Py.lift_ok, Py.pure_apply, emit_run, except_ok_bind]
      cases encodes : Json.encode (payload x) with
      | error e => simp [commandFailed_run, reportFrame]
      | ok body => simp [reportFrame]

/-- The frame promised for a result that was computed and encoded under `tag`. -/
def reportedFrame (tag : String) (result : Except PyExc PyStr) : Option PyStr :=
  result.toOption.map fun body => text tag ++ text ":" ++ body

/-- The frame the protocol promises a command handled at a module state and a clock reading:
the handler's result under its branch's tag when the command is a JSON object of type
`request`, `event` or `health_check` and building the argument, handling and encoding all
succeed; `none` where a `KENNEL_ERROR` frame is promised. -/
def promisedFrame (plugin : Plugin σ) (module : σ) (now : PyFloat) (commandJson : PyStr) :
    Option PyStr :=
  match Json.loads commandJson with
  | .ok (.dict command) =>
      let commandType := Entries.get command (text "type") (.lit "")
      let data := Entries.get command (text "data") (.dict [])
      if commandType.isStr (text "request") then
        reportedFrame responseTag do
          let request ← Request.fromDict data
          let response ← (plugin.handleRequest request now module).1
          Json.encode response.toDict
      else if commandType.isStr (text "event") then
        reportedFrame eventResponseTag do
          let millis ← (now.scale 1000).toInt
          let event ← Event.fromDict data millis millis
          let success ← (plugin.handleEvent event now module).1
          Json.encode (.dict [(.lit "event_id", event.id), (.lit "success", success)])
      else if commandType.isStr (text "health_check") then
        reportedFrame healthResponseTag do
          let health ← (plugin.checkHealth now module).1
          Json.encode health.toDict
      else none
  | _ => none

/-- A frame answers a promise: it is the promised frame, or an error frame where none is
promised. -/
def Answers (promised : Option PyStr) (frame : PyStr) : Prop :=
  match promised with
  | some promisedFrame => frame = promisedFrame
  | none => ∃ message, frame = errorFrame message

/-- The module operations one command calls: none, or one handler that begins and finishes. -/
def HandlerCalls (calls : List Call) : Prop :=
  calls = [] ∨ ∃ op ∈ [Op.handleRequest, .handleEvent, .checkHealth], calls = [.begin op, .finish op]

/-- From every world holding `module` at the clock reading `now`, `c` writes `frame`, which
answers `promised`, leaves the module `module'`, calls `calls`, and changes nothing else. -/
structure Answering (c : Py σ Unit) (module : σ) (now : PyFloat) (promised : Option PyStr)
    (frame : PyStr) (module' : σ) (calls : List Call) : Prop where
  answers : Answers promised frame
  handlers : HandlerCalls calls
  runs : ∀ w : World σ, w.module = module → w.now = now →
    c w = some (.ok (), { w with
      stdout := w.stdout ++ [frame], module := module', calls := w.calls ++ calls })

/-- `c` answers `promised` with one frame from every world holding `module` at `now`. -/
def AnswersFrom (c : Py σ Unit) (module : σ) (now : PyFloat) (promised : Option PyStr) : Prop :=
  ∃ frame module' calls, Answering c module now promised frame module' calls

theorem answers_reportFrame (tag : String) (result : Except PyExc PyStr) :
    Answers (reportedFrame tag result) (reportFrame tag result) := by
  cases result <;> simp [Answers, reportedFrame, reportFrame, Except.toOption]

/-- A command that raised before its handler was called gets the error frame. -/
theorem answers_error (e : PyExc) (module : σ) (now : PyFloat) :
    AnswersFrom (commandFailed (pure ()) e) module now none :=
  ⟨errorFrame e.message, module, [], ⟨⟨_, rfl⟩, .inl rfl, fun w same _ => by
    simp [commandFailed_run, ← same]⟩⟩

/-- A command whose handler was called is answered by its report. -/
theorem answers_report (op : Op) (handler : op ∈ [Op.handleRequest, .handleEvent, .checkHealth])
    (act : PyFloat → StateM σ (Except PyExc α)) (tag : String) (payload : α → PyVal)
    (module : σ) (now : PyFloat) :
    AnswersFrom (Py.tryExcept (do
        let x ← callOp (pure ()) op act
        emit (pure ()) tag (payload x)) (commandFailed (pure ())))
      module now (reportedFrame tag ((act now module).1 >>= fun x => Json.encode (payload x))) :=
  ⟨_, (act now module).2, _, ⟨answers_reportFrame _ _, .inr ⟨op, handler, rfl⟩, fun w same clock => by
    subst same clock; exact report_run op act tag payload w⟩⟩

theorem tryExcept_millis_bind (f : Int → Py σ Unit) (handler : PyExc → Py σ Unit) (w : World σ) :
    Py.tryExcept (millis >>= f) handler w =
      match (w.now.scale 1000).toInt with
      | .ok now => Py.tryExcept (f now) handler w
      | .error e => handler e w := by
  cases converts : (w.now.scale 1000).toInt <;>
    simp [millis, Py.tryExcept, Py.tryCatch, Py.bind_apply, Py.read, converts, Py.throw]

/-- Reading the clock in milliseconds is a step of the answer. -/
theorem answersFrom_millis_bind {f : Int → Py σ Unit} {handler : PyExc → Py σ Unit} {module : σ}
    {now : PyFloat} {promised : Option PyStr}
    (answers : match (now.scale 1000).toInt with
      | .ok millis => AnswersFrom (Py.tryExcept (f millis) handler) module now promised
      | .error e => AnswersFrom (handler e) module now promised) :
    AnswersFrom (Py.tryExcept (millis >>= f) handler) module now promised := by
  cases converts : (now.scale 1000).toInt <;> rw [converts] at answers <;>
    obtain ⟨frame, module', calls, answered, handlers, runs⟩ := answers <;>
    exact ⟨frame, module', calls, answered, handlers, fun w same clock => by
      have read := converts
      rw [← clock] at read
      rw [tryExcept_millis_bind, read]
      exact runs w same clock⟩

theorem handleRequestCommand_eq (plugin : Plugin σ) (request : Request) :
    handleRequestCommand plugin (pure ()) request = (do
      let response ← callOp (pure ()) .handleRequest (plugin.handleRequest request)
      emit (pure ()) responseTag response.toDict) := by
  simp [handleRequestCommand, sendResponse]

theorem handleEventCommand_eq (plugin : Plugin σ) (event : Event) :
    handleEventCommand plugin (pure ()) event = (do
      let success ← callOp (pure ()) .handleEvent (plugin.handleEvent event)
      emit (pure ()) eventResponseTag
        (.dict [(.lit "event_id", event.id), (.lit "success", success)])) := by
  simp [handleEventCommand, sendEventResponse]

theorem handleHealthCommand_eq (plugin : Plugin σ) :
    handleHealthCommand plugin (pure ()) = (do
      let health ← callOp (pure ()) .checkHealth plugin.checkHealth
      emit (pure ()) healthResponseTag health.toDict) := by
  simp [handleHealthCommand, sendHealthResponse]

/-- Without signals, every command gets exactly one frame, the one `promisedFrame` gives when it
gives one and an error frame otherwise; the command reads nothing, calls at most one handler, and
what it does depends on the world only through the module state and the clock. -/
theorem handleCommand_answers (plugin : Plugin σ) (module : σ) (now : PyFloat)
    (commandJson : PyStr) :
    AnswersFrom (handleCommand plugin (pure ()) commandJson) module now
      (promisedFrame plugin module now commandJson) := by
  unfold handleCommand promisedFrame
  cases decodes : Json.loads commandJson with
  | error e => simpa using answers_error e module now
  | ok command =>
    cases command with
    | dict command =>
        simp only [Py.lift_ok, PyVal.getAttr_dict, Py.pure_bind]
        split_ifs
        · rw [Py.tryExcept_lift_bind]
          cases Request.fromDict (Entries.get command (text "data") (.dict [])) with
          | error e => simpa using answers_error e module now
          | ok request =>
              simpa [handleRequestCommand_eq] using answers_report .handleRequest (by simp)
                (plugin.handleRequest request) responseTag Response.toDict module now
        · apply answersFrom_millis_bind
          cases converts : (now.scale 1000).toInt with
          | error e => simpa [converts] using answers_error e module now
          | ok millis =>
              simp only [converts, except_ok_bind, Py.tryExcept_lift_bind]
              cases built : Event.fromDict (Entries.get command (text "data") (.dict [])) millis millis with
              | error e => simpa using answers_error e module now
              | ok event =>
                  simpa [handleEventCommand_eq] using answers_report .handleEvent (by simp)
                    (plugin.handleEvent event) eventResponseTag
                    (fun success => .dict [(.lit "event_id", event.id), (.lit "success", success)])
                    module now
        · simpa [handleHealthCommand_eq] using answers_report .checkHealth (by simp)
            plugin.checkHealth healthResponseTag HealthStatus.toDict module now
        · simpa [log_warning] using answers_error _ module now
    | _ => simpa using answers_error _ module now

end

/-! ## The request and the event a command builds -/

section

variable {σ : Type} (plugin : Plugin σ) (poll : Py σ Unit)

/-- The request passed to `handle_request` holds, field by field, what `get` finds in `data`
or the field's default, with `or {}` applied to `params` and `metadata`; the event passed to
`handle_event` likewise, with `or` applied to `data`, `metadata` and `timestamp`, whose default
is the clock reading taken just before.  This holds for every plugin and every signal
schedule. -/
theorem handleCommand_passes_fields {commandJson : PyStr} {command data : Entries}
    (decodes : Json.loads commandJson = .ok (.dict command))
    (hasData : Entries.get command (text "data") (.dict []) = .dict data) :
    ((Entries.get command (text "type") (.lit "")).isStr (text "request") →
      handleCommand plugin poll commandJson = Py.tryExcept (do
        poll
        poll
        handleRequestCommand plugin poll
          ⟨Entries.get data (text "id") (.lit ""), Entries.get data (text "action") (.lit ""),
            (Entries.get data (text "params") (.dict [])).orElse (.dict []),
            (Entries.get data (text "metadata") (.dict [])).orElse (.dict []),
            Entries.get data (text "timeout") (.int 30000)⟩)
        (commandFailed poll)) ∧
    ((Entries.get command (text "type") (.lit "")).isStr (text "event") →
      handleCommand plugin poll commandJson = Py.tryExcept (do
        poll
        poll
        let now ← millis
        handleEventCommand plugin poll
          ⟨Entries.get data (text "id") (.lit ""), Entries.get data (text "type") (.lit ""),
            Entries.get data (text "source") (.lit ""),
            (Entries.get data (text "data") (.dict [])).orElse (.dict []),
            (Entries.get data (text "metadata") (.dict [])).orElse (.dict []),
            (Entries.get data (text "timestamp") (.int now)).orElse (.int now)⟩)
        (commandFailed poll)) := by
  constructor
  · intro isRequest
    simp only [handleCommand, decodes, Py.lift_ok, PyVal.getAttr_dict, Py.pure_bind, hasData,
      isRequest, if_true, Request.fromDict_dict]
  · intro isEvent
    have notRequest := PyVal.isStr_eq_false_of_isStr isEvent (t := text "request") (by decide)
    simp only [handleCommand, decodes, Py.lift_ok, PyVal.getAttr_dict, Py.pure_bind, hasData,
      notRequest, isEvent, Bool.false_eq_true, if_false, if_true, Event.fromDict_dict]

end

theorem handleCommand_passes_id_field :
    let data : Entries := [(.lit "id", .lit "7")]
    let requestJson := text "\x7b\"type\": \"request\", \"data\": \x7b\"id\": \"7\"\x7d\x7d"
    let eventJson := text "\x7b\"type\": \"event\", \"data\": \x7b\"id\": \"7\"\x7d\x7d"
    let request : Entries := [(.lit "type", .lit "request"), (.lit "data", .dict data)]
    let event : Entries := [(.lit "type", .lit "event"), (.lit "data", .dict data)]
    Json.loads requestJson = .ok (.dict request) ∧ Json.loads eventJson = .ok (.dict event) ∧
      handleCommand BaseModule.plugin (pure ()) requestJson =
        Py.tryExcept (do
          pure ()
          pure ()
          handleRequestCommand BaseModule.plugin (pure ())
            ⟨.lit "7", .lit "", .dict [], .dict [], .int 30000⟩)
          (commandFailed (pure ())) ∧
      handleCommand BaseModule.plugin (pure ()) eventJson =
        Py.tryExcept (do
          pure ()
          pure ()
          let now ← millis
          handleEventCommand BaseModule.plugin (pure ())
            ⟨.lit "7", .lit "", .lit "", .dict [], .dict [], (PyVal.int now).orElse (.int now)⟩)
          (commandFailed (pure ())) := by
  intro data requestJson eventJson request event
  exact ⟨rfl, rfl,
    (@handleCommand_passes_fields _ BaseModule.plugin (pure ()) requestJson request data rfl rfl).1 rfl,
    (@handleCommand_passes_fields _ BaseModule.plugin (pure ()) eventJson event data rfl rfl).2 rfl⟩

/-- A module that keeps every request it is given. -/
def requestRecorder : Plugin (List Request) where
  init _ _ seen := (.ok (), seen)
  start _ seen := (.ok (), seen)
  stop _ seen := (.ok (), seen)
  getInfo _ seen := (.ok (ModuleInfo.init (.lit "recorder") (.lit "recorder") (.lit "1.0.0")), seen)
  handleRequest request _ seen := (.ok (BaseModule.notImplemented request), seen ++ [request])
  handleEvent _ _ seen := (.ok (.bool true), seen)
  checkHealth _ seen := (.ok (HealthStatus.init (.lit "healthy") .none (.int 1) 1), seen)

theorem handleCommand_replaces_empty_params :
    Json.loads (text "\x7b\"type\": \"request\", \"data\": \x7b\"params\": []\x7d\x7d") =
        .ok (.dict [(.lit "type", .lit "request"), (.lit "data", .dict [(.lit "params", .list [])])]) ∧
      (handleCommand requestRecorder (pure ())
          (text "\x7b\"type\": \"request\", \"data\": \x7b\"params\": []\x7d\x7d")
          (World.fresh [] [] (.zero false))).map (fun run => run.2.module.map Request.params) =
        some [.dict []] :=
  ⟨rfl, rfl⟩

/-! ## Commands of other types -/

/-- Without signals, a command object of any other type gets one frame, and it reports the
`AttributeError` of `logger.warning`, not the type: nothing else of the world changes. -/
theorem handleCommand_unknown_type {σ : Type} (plugin : Plugin σ) (w : World σ)
    {commandJson : PyStr} {command : Entries}
    (decodes : Json.loads commandJson = .ok (.dict command))
    (unknown : ∀ known ∈ [text "request", text "event", text "health_check"],
      (Entries.get command (text "type") (.lit "")).isStr known = false) :
    handleCommand plugin (pure ()) commandJson w =
      some (.ok (), { w with stdout := w.stdout ++
        [text "KENNEL_ERROR:\x7b\"error\": \"'Logger' object has no attribute 'warning'\"\x7d"] }) := by
  simp only [List.mem_cons, List.mem_singleton, forall_eq_or_imp, forall_eq] at unknown
  obtain ⟨notRequest, notEvent, notHealth, -⟩ := unknown
  simp only [handleCommand, decodes, Py.lift_ok, PyVal.getAttr_dict, Py.pure_bind, notRequest,
    notEvent, notHealth, Bool.false_eq_true, if_false, log_warning, Py.tryExcept_throw,
    commandFailed, log_error, sendErrorResponse_eq]
  rfl

set_option maxRecDepth 2000 in
theorem handleCommand_reports_foo :
    let w := World.fresh (BaseModule.new (.lit "m") (.lit "m") (.lit "1.0.0") (.lit "") (.zero false))
      [] (.zero false)
    let frame := text "KENNEL_ERROR:\x7b\"error\": \"'Logger' object has no attribute 'warning'\"\x7d"
    Json.loads (text "\x7b\"type\": \"foo\"\x7d") = .ok (.dict [(.lit "type", .lit "foo")]) ∧
      (∀ known ∈ [text "request", text "event", text "health_check"],
        (Entries.get [(.lit "type", .lit "foo")] (text "type") (.lit "")).isStr known = false) ∧
      handleCommand BaseModule.plugin (pure ()) (text "\x7b\"type\": \"foo\"\x7d") w =
        some (.ok (), { w with stdout := [frame] }) ∧
      ¬ text "foo" <:+: frame := by
  intro w frame
  have decodes : Json.loads (text "\x7b\"type\": \"foo\"\x7d") =
      .ok (.dict [(.lit "type", .lit "foo")]) := rfl
  have unknown : ∀ known ∈ [text "request", text "event", text "health_check"],
      (Entries.get [(.lit "type", .lit "foo")] (text "type") (.lit "")).isStr known = false := by
    decide
  exact ⟨decodes, unknown, handleCommand_unknown_type _ w decodes unknown, by decide⟩

end Runner
end Kennel
