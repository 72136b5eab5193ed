import RelayHub.HubConfig
import RelayHub.Settings.Fault

/-! Errors of the hub, its clients and the connections under them. -/
namespace RelayHub

inductive TransportFault where
  | connectionClosed
  | alreadyClosed
  | io (text : String)
  | tooLong (size limit : Nat)
  | attack
  | reset
  | invalidText (text : String)
  deriving DecidableEq, Repr

def TransportFault.message : TransportFault → String
  | .connectionClosed => "Connection closed normally"
  | .alreadyClosed => "Trying to work with closed connection"
  | .io text => "IO error: " ++ text
  | .tooLong size limit =>
    "Space limit exceeded: Message too long: " ++ toString size ++ " > " ++ toString limit
  | .attack => "Attack attempt detected"
  | .reset => "WebSocket protocol error: Connection reset without closing handshake"
  | .invalidText text => "UTF-8 encoding error: " ++ text

def TransportFault.isExpected : TransportFault → Bool
  | .connectionClosed | .alreadyClosed => true
  | _ => false

inductive HubError where
  | serialization (reason : String)
  | transport (fault : TransportFault)
  | writeTimeout (wait : Duration)
  | alreadyStarted (client : String)
  | alreadyRunning
  | hubClosed
  | invalidConfig (reason : String)
  | config (fault : Settings.Fault)
  | io (text : String)
  deriving DecidableEq, Repr

def HubError.message : HubError → String
  | .serialization reason => "failed to serialize message: " ++ reason
  | .transport fault => "transport error: " ++ fault.message
  | .writeTimeout wait => "write deadline of " ++ wait.text ++ " exceeded"
  | .alreadyStarted client => "client " ++ client ++ " has already been started"
  | .alreadyRunning => "hub event loop is already running"
  | .hubClosed => "hub is closed"
  | .invalidConfig reason => "invalid configuration: " ++ reason
  | .config fault => fault.message
  | .io text => text

def HubConfig.checked (c : HubConfig) : Except HubError HubConfig :=
  match c.fault? with
  | some fault => .error (.invalidConfig fault.message)
  | none => .ok c

end RelayHub
