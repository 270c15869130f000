import Kennel.Python.Str
import Kennel.Python.Float
import Kennel.Python.FloatRepr
import Kennel.Python.Value
import Kennel.Python.Repr
import Kennel.Python.Logging
import Kennel.Python.Hierarchy
import Kennel.Json.Encode
import Kennel.Json.Decode
import Kennel.Json.Printable
import Kennel.Json.Scalars
import Kennel.Json.RoundTrip
import Kennel.Sdk.Types
import Kennel.Sdk.Logger
import Kennel.Sdk.LoggerTree
import Kennel.Sdk.LiveLoggers
import Kennel.Sdk.Config
import Kennel.Sdk.ConfigText
import Kennel.Sdk.Module
import Kennel.Runner.Py
import Kennel.Runner.Harness
import Kennel.Runner.Command
import Kennel.Runner.Loop
import Kennel.Runner.Stdin
import Kennel.Runner.Utf8
import Kennel.Runner.Readline
import Kennel.Runner.Events
import Kennel.Runner.Lifecycle
import Kennel.Runner.Signal
import Kennel.Runner.Frames
import Kennel.Plugins.ExamplePython
