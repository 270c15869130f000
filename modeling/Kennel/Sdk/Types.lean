import Kennel.Python.Repr

namespace Kennel
namespace Sdk

open Python

/-!
# The SDK's value classes

`ModuleInfo`, `Request`, `Response`, `Event` and `HealthStatus` of `module.py`, each as the
attributes an instance holds.  Their constructors are the `__init__` methods, including the
`x or default` idiom that replaces a falsy argument; the `from_dict` class methods read a
decoded dictionary with `get` and defaults; the `to_dict` methods build what the harness
encodes.  The attributes hold arbitrary values, as Python does not check the annotations.

`int(time.time() * 1000)` is the caller's clock reading in milliseconds, passed in.
-/

/-- A `ModuleInfo` instance. -/
structure ModuleInfo where
  id : PyVal
  name : PyVal
  version : PyVal
  description : PyVal
  author : PyVal
  license : PyVal
  capabilities : PyVal
  supportedPlatforms : PyVal
  language : PyVal

namespace ModuleInfo

/-- `ModuleInfo(id, name, version, description, author, license, capabilities,
supported_platforms)`. -/
def init (id name version : PyVal) (description author license : PyVal := .lit "")
    (capabilities supportedPlatforms : PyVal := .none) : ModuleInfo :=
  ⟨id, name, version, description, author, license, capabilities.orElse (.list []),
    supportedPlatforms.orElse (.list []), .lit "python"⟩

/-- `ModuleInfo.to_dict()`. -/
def toDict (info : ModuleInfo) : PyVal :=
  .dict [(.lit "id", info.id), (.lit "name", info.name), (.lit "version", info.version),
    (.lit "description", info.description), (.lit "author", info.author),
    (.lit "license", info.license), (.lit "capabilities", info.capabilities),
    (.lit "supported_platforms", info.supportedPlatforms), (.lit "language", info.language)]

end ModuleInfo

/-- A `Request` instance. -/
structure Request where
  id : PyVal
  action : PyVal
  params : PyVal
  metadata : PyVal
  timeout : PyVal

namespace Request

/-- `Request(id, action, params, metadata, timeout)`. -/
def init (id action : PyVal) (params metadata : PyVal := .none)
    (timeout : PyVal := .int 30000) : Request :=
  ⟨id, action, params.orElse (.dict []), metadata.orElse (.dict []), timeout⟩

/-- `Request.from_dict(data)`: the first `get` on a value that is not a `dict` raises. -/
def fromDict (data : PyVal) : Except PyExc Request := do
  let id ← data.getAttr (text "id") (.lit "")
  let action ← data.getAttr (text "action") (.lit "")
  let params ← data.getAttr (text "params") (.dict [])
  let metadata ← data.getAttr (text "metadata") (.dict [])
  let timeout ← data.getAttr (text "timeout") (.int 30000)
  pure (init id action params metadata timeout)

/-- On a dictionary, each field is the stored value or the default of its `get`, and `params`
and `metadata` then go through `or {}`. -/
theorem fromDict_dict (data : Entries) :
    fromDict (.dict data) = .ok
      ⟨Entries.get data (text "id") (.lit ""), Entries.get data (text "action") (.lit ""),
        (Entries.get data (text "params") (.dict [])).orElse (.dict []),
        (Entries.get data (text "metadata") (.dict [])).orElse (.dict []),
        Entries.get data (text "timeout") (.int 30000)⟩ := rfl

end Request

/-- A `Response` instance. -/
structure Response where
  id : PyVal
  success : PyVal
  data : PyVal
  error : PyVal
  metadata : PyVal

namespace Response

/-- `Response(id, success, data, error, metadata)`. -/
def init (id : PyVal) (success : PyVal := .bool true) (data error metadata : PyVal := .none) :
    Response :=
  ⟨id, success, data.orElse (.dict []), error, metadata.orElse (.dict [])⟩

/-- `Response.to_dict()`: `error` is added only when it is truthy. -/
def toDict (r : Response) : PyVal :=
  let result : Entries :=
    [(.lit "id", r.id), (.lit "success", r.success), (.lit "data", r.data),
      (.lit "metadata", r.metadata)]
  .dict (if r.error.truthy then result ++ [(.lit "error", r.error)] else result)

end Response

/-- An `Event` instance. -/
structure Event where
  id : PyVal
  type : PyVal
  source : PyVal
  data : PyVal
  metadata : PyVal
  timestamp : PyVal

namespace Event

/-- `Event(id, type, source, data, metadata, timestamp)`, `now` being the clock reading
`__init__` takes when the timestamp is falsy. -/
def init (id type source : PyVal) (data metadata timestamp : PyVal := .none) (now : Int) :
    Event :=
  ⟨id, type, source, data.orElse (.dict []), metadata.orElse (.dict []),
    timestamp.orElse (.int now)⟩

/-- `Event.from_dict(data)`: `readTime` is the reading `from_dict` takes for the default of
`timestamp`, `initTime` the one `__init__` takes if it needs one. -/
def fromDict (data : PyVal) (readTime initTime : Int) : Except PyExc Event := do
  let id ← data.getAttr (text "id") (.lit "")
  let type ← data.getAttr (text "type") (.lit "")
  let source ← data.getAttr (text "source") (.lit "")
  let payload ← data.getAttr (text "data") (.dict [])
  let metadata ← data.getAttr (text "metadata") (.dict [])
  let timestamp ← data.getAttr (text "timestamp") (.int readTime)
  pure (init id type source payload metadata timestamp initTime)

/-- On a dictionary, each field is the stored value or the default of its `get`; `data`,
`metadata` and `timestamp` then go through `or`. -/
theorem fromDict_dict (data : Entries) (readTime initTime : Int) :
    fromDict (.dict data) readTime initTime = .ok
      ⟨Entries.get data (text "id") (.lit ""), Entries.get data (text "type") (.lit ""),
        Entries.get data (text "source") (.lit ""),
        (Entries.get data (text "data") (.dict [])).orElse (.dict []),
        (Entries.get data (text "metadata") (.dict [])).orElse (.dict []),
        (Entries.get data (text "timestamp") (.int readTime)).orElse (.int initTime)⟩ := rfl

/-- `Event.to_dict()`. -/
def toDict (e : Event) : PyVal :=
  .dict [(.lit "id", e.id), (.lit "type", e.type), (.lit "source", e.source),
    (.lit "data", e.data), (.lit "metadata", e.metadata), (.lit "timestamp", e.timestamp)]

end Event

/-- A `HealthStatus` instance. -/
structure HealthStatus where
  status : PyVal
  details : PyVal
  timestamp : PyVal

namespace HealthStatus

/-- `HealthStatus(status, details, timestamp)`. -/
def init (status : PyVal := .lit "healthy") (details timestamp : PyVal := .none) (now : Int) :
    HealthStatus :=
  ⟨status, details.orElse (.dict []), timestamp.orElse (.int now)⟩

/-- `HealthStatus.to_dict()`. -/
def toDict (h : HealthStatus) : PyVal :=
  .dict [(.lit "status", h.status), (.lit "details", h.details),
    (.lit "timestamp", h.timestamp)]

end HealthStatus

end Sdk
end Kennel
