import Kennel.Sdk.Types

namespace Kennel
namespace Sdk

open Python

/-!
# `Module` and `BaseModule`

The abstract class `Module` is what a plugin implements and the harness calls.  Here it is the
record of its operations: each is a step of the instance's state, given `time.time()`, that
returns a value of the operation's declared class or raises an `Exception`.  `BaseModule` is the
SDK's own implementation, with `Module.check_health` as its health report; its logging calls
write to the standard error stream and are left out.
-/

/-- A plugin: the operations of `Module`, each given `time.time()` when it runs. -/
structure Plugin (σ : Type) where
  init : PyVal → PyFloat → StateM σ (Except PyExc Unit)
  start : PyFloat → StateM σ (Except PyExc Unit)
  stop : PyFloat → StateM σ (Except PyExc Unit)
  getInfo : PyFloat → StateM σ (Except PyExc ModuleInfo)
  handleRequest : Request → PyFloat → StateM σ (Except PyExc Response)
  handleEvent : Event → PyFloat → StateM σ (Except PyExc PyVal)
  checkHealth : PyFloat → StateM σ (Except PyExc HealthStatus)

/-- `Module.check_health()`: `uptime` is measured from `start_time`, and the timestamp is
`int(time.time() * 1000)`. -/
def checkHealth (startTime now : PyFloat) : Except PyExc HealthStatus := do
  let millis ← (now.scale 1000).toInt
  pure (HealthStatus.init (.lit "healthy") (.dict [(.lit "uptime", .float (now.sub startTime))])
    (.int millis) millis)

/-- A `BaseModule` instance. -/
structure BaseModule where
  id : PyVal
  name : PyVal
  version : PyVal
  description : PyVal
  author : PyVal
  license : PyVal
  capabilities : PyVal
  supportedPlatforms : PyVal
  config : PyVal
  startTime : PyFloat

namespace BaseModule

/-- `BaseModule(id, name, version, description)`, constructed at time `now`. -/
def new (id name version : PyVal) (description : PyVal := .lit "") (now : PyFloat) : BaseModule :=
  ⟨id, name, version, description, .lit "", .lit "", .list [],
    .list [.lit "windows", .lit "linux", .lit "darwin"], .dict [], now⟩

/-- The reply of `BaseModule.handle_request`: every action is not implemented. -/
def notImplemented (request : Request) : Response :=
  Response.init request.id (.bool false) .none
    (.dict [(.lit "code", .lit "not_implemented"),
      (.lit "message", .str (text "未实现的操作: " ++ request.action.toStr))])

/-- The operations of `BaseModule`. -/
def plugin : Plugin BaseModule where
  init config _ m := (.ok (), { m with config := config })
  start now m := (.ok (), { m with startTime := now })
  stop _ m := (.ok (), m)
  getInfo _ m := (.ok (ModuleInfo.init m.id m.name m.version m.description m.author m.license
    m.capabilities m.supportedPlatforms), m)
  handleRequest request _ m := (.ok (notImplemented request), m)
  handleEvent _ _ m := (.ok (.bool false), m)
  checkHealth now m := (Sdk.checkHealth m.startTime now, m)

end BaseModule

end Sdk
end Kennel
