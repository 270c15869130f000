import Kennel.Runner.Py
import Kennel.Json.Decode
import Kennel.Sdk.Logger
import Kennel.Sdk.Module

namespace Kennel
namespace Runner

open Python Sdk

/-!
# `ModuleRunner`

`run`, `command_loop`, `handle_command` and the `send_*` methods of `module.py`, statement by
statement.  The plugin is a `Plugin`: each operation of the `Module` class is a step of the
instance's state that returns a value of the operation's declared class or raises.  A plugin
that returns an object of another class from `handle_request`, `get_info` or `check_health`
behaves, for the harness, as one that raises the `AttributeError` of the missing `to_dict`.

Every statement polls for signals before it runs, a module operation polls once inside, and
`readline` polls while it waits.  Logging calls have no effect on the world but look their
method up first, which is how `logger.warning` fails.
-/

/-- The tags of the frames the harness writes. -/
def readyTag : String := "KENNEL_PLUGIN_READY"
def pluginErrorTag : String := "KENNEL_PLUGIN_ERROR"
def responseTag : String := "KENNEL_RESPONSE"
def eventResponseTag : String := "KENNEL_EVENT_RESPONSE"
def healthResponseTag : String := "KENNEL_HEALTH_RESPONSE"
def errorTag : String := "KENNEL_ERROR"

/-- The prefix of a command line, and the stop line. -/
def commandPrefix : PyStr := text "KENNEL_COMMAND:"
def stopLine : PyStr := text "KENNEL_STOP"

section

variable {σ α : Type} (plugin : Plugin σ) (poll : Py σ Unit)

/-- Append a module-operation event. -/
def record (c : Call) : Py σ Unit :=
  Py.modify fun w => { w with calls := w.calls ++ [c] }

/-- Call a module operation: it begins, a signal may land inside it, then it returns or
raises, having changed the instance's state. -/
def callOp (op : Op) (act : PyFloat → StateM σ (Except PyExc α)) : Py σ α := do
  record (.begin op)
  poll
  let w ← Py.read
  let (outcome, module) := act w.now w.module
  Py.modify fun w => { w with module := module, calls := w.calls ++ [.finish op] }
  Py.lift outcome

/-- `print(line)`.  It always succeeds here: a `print` or `flush` that fails, as with
`BrokenPipeError` once the host has closed the pipe, is not modelled. -/
def write (line : PyStr) : Py σ Unit :=
  Py.modify fun w => { w with stdout := w.stdout ++ [line] }

/-- `print(f"{tag}:{json.dumps(payload)}")` and `sys.stdout.flush()`. -/
def emit (tag : String) (payload : PyVal) : Py σ Unit := do
  let body ← Py.lift (Json.encode payload)
  poll
  write (text tag ++ text ":" ++ body)

/-- A logging statement `self.logger.method(...)`. -/
def log (method : String) : Py σ Unit := do
  poll
  Py.lift (Logger.lookup (text method))

/-- `sys.stdin.readline()`: a signal can arrive while it waits; at the end of the stream it
returns the empty string. -/
def readline : Py σ PyStr := do
  poll
  let w ← Py.read
  match w.stdin with
  | [] => pure []
  | .line s :: rest => do
      Py.modify fun w => { w with stdin := rest }
      pure s
  | .fail e :: rest => do
      Py.modify fun w => { w with stdin := rest }
      Py.throw (.error e)

/-- `int(time.time() * 1000)`. -/
def millis : Py σ Int := do
  let w ← Py.read
  Py.lift (w.now.scale 1000).toInt

/-- `send_response(response)`. -/
def sendResponse (response : Response) : Py σ Unit := do
  poll
  emit poll responseTag response.toDict

/-- `send_event_response(event_id, success)`. -/
def sendEventResponse (eventId success : PyVal) : Py σ Unit := do
  poll
  emit poll eventResponseTag (.dict [(.lit "event_id", eventId), (.lit "success", success)])

/-- `send_health_response(health)`. -/
def sendHealthResponse (health : HealthStatus) : Py σ Unit := do
  poll
  emit poll healthResponseTag health.toDict

/-- `send_error_response(error)`. -/
def sendErrorResponse (error : PyStr) : Py σ Unit := do
  poll
  emit poll errorTag (.dict [(.lit "error", .str error)])

/-- The `request` branch of `handle_command`, once the request is built. -/
def handleRequestCommand (request : Request) : Py σ Unit := do
  log poll "info"
  let response ← callOp poll .handleRequest (plugin.handleRequest request)
  sendResponse poll response

/-- The `event` branch of `handle_command`, once the event is built. -/
def handleEventCommand (event : Event) : Py σ Unit := do
  log poll "info"
  let success ← callOp poll .handleEvent (plugin.handleEvent event)
  sendEventResponse poll event.id success

/-- The `health_check` branch of `handle_command`. -/
def handleHealthCommand : Py σ Unit := do
  log poll "info"
  let health ← callOp poll .checkHealth plugin.checkHealth
  sendHealthResponse poll health

/-- The `except Exception as e` clause of `handle_command`. -/
def commandFailed (e : PyExc) : Py σ Unit := do
  log poll "error"
  log poll "error"
  sendErrorResponse poll e.message

/-- `handle_command(command_json)`. -/
def handleCommand (commandJson : PyStr) : Py σ Unit :=
  Py.tryExcept
    (do
      poll
      let command ← Py.lift (Json.loads commandJson)
      let commandType ← Py.lift (command.getAttr (text "type") (.lit ""))
      let commandData ← Py.lift (command.getAttr (text "data") (.dict []))
      poll
      if commandType.isStr (text "request") then
        let request ← Py.lift (Request.fromDict commandData)
        handleRequestCommand plugin poll request
      else if commandType.isStr (text "event") then
        let now ← millis
        let event ← Py.lift (Event.fromDict commandData now now)
        handleEventCommand plugin poll event
      else if commandType.isStr (text "health_check") then
        handleHealthCommand plugin poll
      else
        log poll "warning")
    (commandFailed poll)

/-- One turn of `command_loop`'s `while True`: whether the loop goes on. -/
def commandStep : Py σ Bool := do
  let line ← readline poll
  let line := strip line
  poll
  if line.isEmpty then pure true
  else if startsWith line commandPrefix then do
    handleCommand plugin poll (line.drop commandPrefix.length)
    pure true
  else if line = stopLine then do
    log poll "info"
    pure false
  else pure true

/-- The `finally` clause of `command_loop`. -/
def stopModule : Py σ Unit := do
  log poll "info"
  Py.tryExcept (callOp poll .stop plugin.stop) fun _ => do
    log poll "error"
    log poll "error"

/-- The `except` clauses of `command_loop`: `KeyboardInterrupt` is logged, an `Exception` is
logged twice, and anything else passes on. -/
def loopFailed : Raised → Py σ Unit
  | .keyboardInterrupt => log poll "info"
  | .error _ => do
      log poll "error"
      log poll "error"
  | r => Py.throw r

/-- `command_loop()`, its `while True` given `fuel` turns. -/
def commandLoop (fuel : Nat) : Py σ Unit := do
  log poll "info"
  Py.tryFinally (Py.tryCatch (Py.loop (commandStep plugin poll) fuel) (loopFailed poll))
    (stopModule plugin poll)

/-- The readiness announcement. -/
def readyInfo (pluginId : PyStr) (info : ModuleInfo) : PyVal :=
  .dict [(.lit "status", .lit "ready"), (.lit "plugin_id", .str pluginId),
    (.lit "info", info.toDict)]

/-- The report of a failed start. -/
def errorInfo (pluginId : PyStr) (e : PyExc) : PyVal :=
  .dict [(.lit "status", .lit "error"), (.lit "plugin_id", .str pluginId),
    (.lit "error", .str e.message)]

/-- The `except Exception as e` clause of `run`: report the failed start and exit with status 1. -/
def runFailed (pluginId : PyStr) (e : PyExc) : Py σ Unit := do
  log poll "error"
  log poll "error"
  poll
  emit poll pluginErrorTag (errorInfo pluginId e)
  poll
  Py.throw (.systemExit 1)

/-- The body of `run`'s `try` up to `command_loop()`: the configuration is parsed, `init`,
`start` and `get_info` are called, and the readiness frame is written. -/
def startModule (pluginId configJson : PyStr) : Py σ Unit := do
  poll
  let config ← Py.lift (Json.loads configJson)
  log poll "info"
  callOp poll .init (plugin.init config)
  log poll "info"
  callOp poll .start plugin.start
  poll
  let info ← callOp poll .getInfo plugin.getInfo
  emit poll readyTag (readyInfo pluginId info)
  poll

/-- `run()`, after the two signal handlers are installed, with the values of
`KENNEL_PLUGIN_ID` and `KENNEL_PLUGIN_CONFIG` (by default `""` and `"{}"`). -/
def run (fuel : Nat) (pluginId configJson : PyStr) : Py σ Unit :=
  Py.tryExcept
    (do
      poll
      let config ← Py.lift (Json.loads configJson)
      log poll "info"
      callOp poll .init (plugin.init config)
      log poll "info"
      callOp poll .start plugin.start
      poll
      let info ← callOp poll .getInfo plugin.getInfo
      emit poll readyTag (readyInfo pluginId info)
      poll
      commandLoop plugin poll fuel)
    (runFailed poll pluginId)

/-- `run` is `startModule`, then `command_loop()`, under its `except` clause. -/
theorem run_eq_startModule (fuel : Nat) (pluginId configJson : PyStr) :
    run plugin poll fuel pluginId configJson =
      Py.tryExcept (startModule plugin poll pluginId configJson >>= fun _ => commandLoop plugin poll fuel)
        (runFailed poll pluginId) := by
  simp only [run, startModule, Py.bind_assoc]

end

/-! ## Steps without signals -/

section

variable {σ α : Type}

theorem callOp_run (op : Op) (act : PyFloat → StateM σ (Except PyExc α)) (w : World σ) :
    callOp (pure ()) op act w = Py.lift (act w.now w.module).1
      { w with module := (act w.now w.module).snd, calls := w.calls ++ [.begin op, .finish op] } := by
  rcases acted : act w.now w.module with ⟨outcome, module⟩
  simp [callOp, record, Py.modify, Py.read, Py.bind_apply, acted]

theorem emit_run (tag : String) (payload : PyVal) (w : World σ) :
    emit (pure ()) tag payload w =
      match Json.encode payload with
      | .ok body => some (.ok (), { w with stdout := w.stdout ++ [text tag ++ text ":" ++ body] })
      | .error e => some (.error (.error e), w) := by
  cases encodes : Json.encode payload <;> simp [emit, encodes, write, Py.modify, Py.throw]

theorem tryExcept_callOp_bind (op : Op) (act : PyFloat → StateM σ (Except PyExc α))
    (f : α → Py σ Unit) (handler : PyExc → Py σ Unit) (w : World σ) :
    Py.tryExcept (callOp (pure ()) op act >>= f) handler w =
      match act w.now w.module with
      | (.ok a, module) => Py.tryExcept (f a) handler
          { w with module := module, calls := w.calls ++ [.begin op, .finish op] }
      | (.error e, module) => handler e
          { w with module := module, calls := w.calls ++ [.begin op, .finish op] } := by
  rcases acted : act w.now w.module with ⟨outcome, module⟩
  cases outcome <;>
    simp [Py.tryExcept, Py.tryCatch, Py.bind_apply, callOp_run, acted, Py.throw]

theorem tryExcept_emit_bind (tag : String) (payload : PyVal) (f : Unit → Py σ Unit)
    (handler : PyExc → Py σ Unit) (w : World σ) :
    Py.tryExcept (emit (pure ()) tag payload >>= f) handler w =
      match Json.encode payload with
      | .ok body => Py.tryExcept (f ()) handler
          { w with stdout := w.stdout ++ [text tag ++ text ":" ++ body] }
      | .error e => handler e w := by
  cases encodes : Json.encode payload <;>
    simp [Py.tryExcept, Py.tryCatch, Py.bind_apply, emit_run, encodes]

@[simp] theorem log_info : log (σ := σ) (pure ()) "info" = pure () := by
  simp [log]

@[simp] theorem log_error : log (σ := σ) (pure ()) "error" = pure () := by
  simp [log]

theorem log_warning : log (σ := σ) (pure ()) "warning" =
    Py.throw (.error ⟨text "AttributeError", text "'Logger' object has no attribute 'warning'"⟩) := by
  simp [log, Logger.lookup_warning]

/-- A frame whose payload encodes is one printed line. -/
theorem emit_of_encode {tag : String} {payload : PyVal} {body : PyStr}
    (encodes : Json.encode payload = .ok body) :
    emit (σ := σ) (pure ()) tag payload = write (text tag ++ text ":" ++ body) := by
  simp [emit, encodes]

/-- The report of `send_error_response` encodes for every message. -/
theorem encode_error_report (message : PyStr) :
    Json.encode (.dict [(.lit "error", .str message)]) =
      .ok (text "\x7b" ++ Json.encodeString (text "error") ++ text ": " ++ Json.encodeString message ++
        text "\x7d") := by
  simp [Json.encode, Json.encodeEntry, Json.encodeEntries, Json.keyText, Json.encodeString,
    PyVal.lit]

theorem sendErrorResponse_eq (message : PyStr) :
    sendErrorResponse (σ := σ) (pure ()) message =
      write (text errorTag ++ text ":" ++ text "\x7b" ++ Json.encodeString (text "error") ++
        text ": " ++ Json.encodeString message ++ text "\x7d") := by
  simp [sendErrorResponse, emit_of_encode (encode_error_report message)]

end

/-- The process's exit status after `run` is left this way: a `SystemExit` gives its code, an
uncaught exception 1, an uncaught `KeyboardInterrupt` the status of death by `SIGINT`. -/
def exitStatus : Except Raised Unit → Int
  | .ok () => 0
  | .error (.systemExit code) => code
  | .error (.error _) => 1
  | .error .keyboardInterrupt => 130

end Runner
end Kennel
