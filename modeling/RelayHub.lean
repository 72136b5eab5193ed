import RelayHub.Connect.Transport
import RelayHub.Main
import RelayHub.Session.Accept
import RelayHub.Proofs.Registry.Reports
import RelayHub.Proofs.Scene.Quiescence
import RelayHub.Proofs.Scene.Delivery
import RelayHub.Proofs.Scene.Shutdown
import RelayHub.Proofs.Hub.Admission
import RelayHub.Proofs.Scene.Registration
import RelayHub.Proofs.Json.RoundTrip
import RelayHub.Proofs.Json.Nesting
import RelayHub.Proofs.Scene.Takeover
import RelayHub.Proofs.Hub.Covering
import RelayHub.Proofs.Hub.Gathering
import RelayHub.Proofs.Scene.Barrier
import RelayHub.Proofs.Hub.Spreading
import RelayHub.Proofs.Hub.Audience
import RelayHub.Proofs.Hub.Relaying
import RelayHub.Proofs.Scene.Relaying
import RelayHub.Proofs.Message.Schema
import RelayHub.Proofs.Message.Codec
import RelayHub.Proofs.Scene.Fidelity
import RelayHub.Proofs.Client.Life
import RelayHub.Proofs.Session.Moving
import RelayHub.Proofs.Scene.Lives
import RelayHub.Proofs.Scene.Settled
import RelayHub.Proofs.Scene.Listening
import RelayHub.Proofs.Scene.Pulse
import RelayHub.Proofs.Scene.Speaking
import RelayHub.Proofs.Scene.Greeting
import RelayHub.Proofs.Scene.Reaching
import RelayHub.Proofs.Scene.Silence
import RelayHub.Proofs.Scene.Breaking
import RelayHub.Proofs.Scene.Setup
import RelayHub.Proofs.Scene.Finality
import RelayHub.Proofs.Scene.Removal
import RelayHub.Proofs.Scene.Disconnecting
import RelayHub.Proofs.Json.Exactness
import RelayHub.Proofs.Message.Inbound
import RelayHub.Proofs.Connect.Limits
import RelayHub.Proofs.Connect.Query
import RelayHub.Proofs.Connect.Origins
import RelayHub.Proofs.Hub.Filing
import RelayHub.Proofs.Hub.Working
import RelayHub.Proofs.Session.Working
import RelayHub.Proofs.Scene.Resting
