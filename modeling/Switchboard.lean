import Switchboard.Client.RequestBuilder
import Switchboard.Number.Reading
import Switchboard.Proofs.Client.Blocking
import Switchboard.Proofs.Client.Causes
import Switchboard.Proofs.Client.Closing
import Switchboard.Proofs.Client.Closures
import Switchboard.Proofs.Client.Draining
import Switchboard.Proofs.Client.Lines
import Switchboard.Proofs.Client.Progress
import Switchboard.Proofs.Transport.Framing
import Switchboard.Shell.System
import Switchboard.Telemetry.Log
import Switchboard.Transport.Process
import Switchboard.Transport.Scripted
import Switchboard.Proofs.Client.Order
import Switchboard.Proofs.Client.Retired
import Switchboard.Proofs.Json.Tokens
import Switchboard.Proofs.Json.Reading
import Switchboard.Proofs.Json.Members
import Switchboard.Proofs.Json.Shape
import Switchboard.Proofs.Json.Writing
import Switchboard.Proofs.Message.Sorting
import Switchboard.Proofs.Message.Requests
import Switchboard.Proofs.Client.Echo
import Switchboard.Proofs.Client.Sending
import Switchboard.Proofs.Client.Policy
import Switchboard.Proofs.Client.Promises
import Switchboard.Proofs.Transport.Lifecycle
import Switchboard.Proofs.Transport.Ownership
import Switchboard.Proofs.Content.MediaType
import Switchboard.Proofs.Content.Registry
import Switchboard.Proofs.Client.Building
import Switchboard.Proofs.Content.Sessions
import Switchboard.Proofs.Content.Documents
import Switchboard.Proofs.Client.Parameters
import Switchboard.Proofs.Json.Decoding
import Switchboard.Proofs.Message.ErrorObjects
import Switchboard.Proofs.Client.Remote
import Switchboard.Proofs.Config
import Switchboard.Proofs.Client.Sweeping
import Switchboard.Proofs.Content.NonFinite
import Switchboard.Proofs.Transport.ErrorOutput
import Switchboard.Proofs.Content.Keys
import Switchboard.Proofs.Transport.OneLine
