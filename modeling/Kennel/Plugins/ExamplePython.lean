import Kennel.Runner.Command

namespace Kennel
namespace Plugins

open Python Sdk Runner

/-!
# The example plugin

`plugins/example-python/main.py` implements `Module` as `ExamplePythonPlugin`: a request handler
for the actions `hello`, `get_system_info` and `echo`, and an event handler for the types
`system.startup` and `system.shutdown`.  It is modelled as a `Plugin`, as `BaseModule` is: each
method is a step of the instance's state given `time.time()`, and what `platform` reports about
the machine is data of the instance.  Logging calls write to the standard error stream and are
left out, except where the method they name is missing from the SDK's `Logger`: there the lookup
raises before anything is logged.

Two such lookups decide what the plugin does.  Its `__init__` calls `self.logger.setLevel`, so
`ExamplePythonPlugin()` raises `AttributeError` (`new_raises`) and `run_module` is never reached.
Its `handle_event` calls `self.logger.warning` for every type it does not handle, so its
`return False` is never reached: the host gets the error frame of that lookup where it expects
`"success": false` (`handleCommand_example_event`).
-/

/-- What `platform` reports about the machine: the values `_get_system_info` reads. -/
structure SystemFacts where
  platform : PyStr
  system : PyStr
  release : PyStr
  version : PyStr
  architecture : PyStr × PyStr
  machine : PyStr
  processor : PyStr
  pythonVersion : PyStr
  node : PyStr

/-- An `ExamplePythonPlugin` instance: the attributes its methods read and write, and the
machine it runs on. -/
structure ExamplePythonPlugin where
  config : PyVal
  startTime : PyFloat
  system : SystemFacts

namespace ExamplePythonPlugin

/-- `ExamplePythonPlugin()`: `Module.__init__`, then `config` and `start_time` set again at the
clock reading `now`, then `self.logger.setLevel(logging.DEBUG)`. -/
def new (system : SystemFacts) (now : PyFloat) : Except PyExc ExamplePythonPlugin := do
  Logger.lookup (text "setLevel")
  pure ⟨.dict [], now, system⟩

/-- The plugin cannot be made: the SDK's `Logger` has `set_level` but no `setLevel`. -/
theorem new_raises (system : SystemFacts) (now : PyFloat) :
    new system now = .error ⟨text "AttributeError", text "'Logger' object has no attribute 'setLevel'"⟩ := by
  have missing : Logger.lookup (text "setLevel") =
      .error ⟨text "AttributeError", text "'Logger' object has no attribute 'setLevel'"⟩ := by
    decide
  simp only [new, missing]
  rfl

/-- `init(config)`: `self.config = config`, then `json.dumps(config)` for the log line, which
raises on a value it cannot encode. -/
def init (config : PyVal) (m : ExamplePythonPlugin) : Except PyExc Unit × ExamplePythonPlugin :=
  ((Json.encode config).map fun _ => (), { m with config := config })

/-- `get_info()`. -/
def info : ModuleInfo :=
  ModuleInfo.init (.lit "example-python") (.lit "Python示例插件") (.lit "1.0.0")
    (.lit "使用Python实现的示例插件") (.lit "Kennel Team") (.lit "MIT") (.list [.lit "example"])
    (.list [.lit "windows", .lit "linux", .lit "darwin"])

/-- `_get_system_info()`: `uptime` is measured from `start_time`. -/
def getSystemInfo (m : ExamplePythonPlugin) (now : PyFloat) : PyVal :=
  .dict [(.lit "platform", .str m.system.platform), (.lit "system", .str m.system.system),
    (.lit "release", .str m.system.release), (.lit "version", .str m.system.version),
    (.lit "architecture", .tuple [.str m.system.architecture.1, .str m.system.architecture.2]),
    (.lit "machine", .str m.system.machine), (.lit "processor", .str m.system.processor),
    (.lit "python_version", .str m.system.pythonVersion), (.lit "node", .str m.system.node),
    (.lit "uptime", .float (now.sub m.startTime))]

/-- `handle_request(request)`: `echo` reads `params.get("message", "")`, which raises
`AttributeError` when `params` is not a `dict`. -/
def handleRequest (request : Request) (now : PyFloat) (m : ExamplePythonPlugin) :
    Except PyExc Response :=
  if request.action.isStr (text "hello") then
    .ok (Response.init request.id (.bool true)
      (.dict [(.lit "message", .lit "Hello from Python!"), (.lit "timestamp", .float now)]))
  else if request.action.isStr (text "get_system_info") then
    .ok (Response.init request.id (.bool true) (getSystemInfo m now))
  else if request.action.isStr (text "echo") then do
    let message ← request.params.getAttr (text "message") (.lit "")
    pure (Response.init request.id (.bool true)
      (.dict [(.lit "message", message), (.lit "timestamp", .float now)]))
  else
    .ok (Response.init request.id (.bool false) .none
      (.dict [(.lit "code", .lit "unknown_action"),
        (.lit "message", .str (text "未知操作: " ++ request.action.toStr))]))

/-- `handle_event(event)`: the types it does not handle reach `self.logger.warning`. -/
def handleEvent (event : Event) : Except PyExc PyVal :=
  if event.type.isStr (text "system.startup") then .ok (.bool true)
  else if event.type.isStr (text "system.shutdown") then .ok (.bool true)
  else do
    Logger.lookup (text "warning")
    pure (.bool false)

/-- The methods of `ExamplePythonPlugin`, with `check_health` inherited from `Module`. -/
def plugin : Plugin ExamplePythonPlugin where
  init config _ m := init config m
  start now m := (.ok (), { m with startTime := now })
  stop _ m := (.ok (), m)
  getInfo _ m := (.ok info, m)
  handleRequest request now m := (handleRequest request now m, m)
  handleEvent event _ m := (handleEvent event, m)
  checkHealth now m := (Sdk.checkHealth m.startTime now, m)

/-- Whether `handle_event` handles an event type. -/
def handles (type : PyVal) : Bool :=
  type.isStr (text "system.startup") || type.isStr (text "system.shutdown")

/-- `handle_event` answers `True` to the types it handles and raises for every other. -/
theorem handleEvent_eq (event : Event) :
    handleEvent event = if handles event.type then .ok (.bool true)
      else .error ⟨text "AttributeError", text "'Logger' object has no attribute 'warning'"⟩ := by
  unfold handleEvent handles
  cases event.type.isStr (text "system.startup") <;> cases event.type.isStr (text "system.shutdown") <;>
    simp [Logger.lookup_warning]

/-- Without signals, an event command to the example plugin whose clock converts to milliseconds
gets, for `system.startup` and `system.shutdown`, the event response `true` under the event's id,
and for every other type the error frame of `logger.warning`; the plugin never answers `false`.
Its state does not change. -/
theorem handleCommand_example_event (w : World ExamplePythonPlugin) {commandJson : PyStr}
    {command data : Entries} {millis : Int}
    (decodes : Json.loads commandJson = .ok (.dict command))
    (isEvent : (Entries.get command (text "type") (.lit "")).isStr (text "event") = true)
    (hasData : Entries.get command (text "data") (.dict []) = .dict data)
    (clock : (w.now.scale 1000).toInt = .ok millis) :
    handleCommand plugin (pure ()) commandJson w = some (.ok (), { w with
      stdout := w.stdout ++
        [if handles (Entries.get data (text "type") (.lit "")) then
          reportFrame eventResponseTag (Json.encode
            (.dict [(.lit "event_id", Entries.get data (text "id") (.lit "")), (.lit "success", .bool true)]))
        else errorFrame (text "'Logger' object has no attribute 'warning'")]
      calls := w.calls ++ [.begin .handleEvent, .finish .handleEvent] }) := by
  have notRequest := PyVal.isStr_eq_false_of_isStr isEvent (t := text "request") (by decide)
  simp only [handleCommand, decodes, Py.lift_ok, PyVal.getAttr_dict, Py.pure_bind, hasData,
    notRequest, isEvent, Bool.false_eq_true, if_false, if_true, tryExcept_millis_bind, clock,
    Event.fromDict_dict, Py.tryExcept_lift_bind, handleEventCommand_eq, report_run]
  simp only [plugin, handleEvent_eq]
  split <;> simp [reportFrame, PyExc.message]

/-- A `user.login` event, delivered at the clock reading zero to a plugin made then. -/
theorem handleCommand_example_login :
    let w := World.fresh
      (⟨.dict [], .zero false, ⟨[], [], [], [], ([], []), [], [], [], []⟩⟩ : ExamplePythonPlugin)
      [] (.zero false)
    let commandJson :=
      text "\x7b\"type\": \"event\", \"data\": \x7b\"id\": \"e1\", \"type\": \"user.login\"\x7d\x7d"
    let data : Entries := [(.lit "id", .lit "e1"), (.lit "type", .lit "user.login")]
    let command : Entries := [(.lit "type", .lit "event"), (.lit "data", .dict data)]
    Json.loads commandJson = .ok (.dict command) ∧
      (Entries.get command (text "type") (.lit "")).isStr (text "event") = true ∧
      Entries.get command (text "data") (.dict []) = .dict data ∧
      (w.now.scale 1000).toInt = .ok 0 ∧
      handleCommand plugin (pure ()) commandJson w = some (.ok (), { w with
        stdout := [text "KENNEL_ERROR:\x7b\"error\": \"'Logger' object has no attribute 'warning'\"\x7d"]
        calls := [.begin .handleEvent, .finish .handleEvent] }) := by
  intro w commandJson data command
  have decodes : Json.loads commandJson = .ok (.dict command) := rfl
  have isEvent : (Entries.get command (text "type") (.lit "")).isStr (text "event") = true := rfl
  have hasData : Entries.get command (text "data") (.dict []) = .dict data := rfl
  have clock : (w.now.scale 1000).toInt = .ok 0 := PyFloat.toInt_scale_zero false 1000
  exact ⟨decodes, isEvent, hasData, clock,
    (handleCommand_example_event w decodes isEvent hasData clock).trans rfl⟩

end ExamplePythonPlugin

end Plugins
end Kennel
