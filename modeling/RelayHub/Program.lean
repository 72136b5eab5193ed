import RelayHub.Connect.Address
import RelayHub.Connect.Origin
import RelayHub.Log.Filter
import RelayHub.Session.Turn
import RelayHub.Settings.Load
import RelayHub.Settings.Preset

/-! The program: it gathers its settings, sets up the log, makes a hub and listens. -/
namespace RelayHub.Program

structure Surroundings where
  files : List (String × Bytes) := []
  preset : Option Bytes := none
  environment : List (String × String) := []

def Surroundings.allVariables (s : Surroundings) : List (String × String) :=
  match s.preset with
  | some content => Settings.Preset.apply content s.environment
  | none => s.environment

inductive Fault where
  | settings (fault : Settings.Fault)
  | filter
  | hub (error : HubError)
  | server (address : String) (error : HubError)
  deriving DecidableEq, Repr

def causedBy (what cause : String) : String :=
  "Error: " ++ what ++ "\n\nCaused by:\n    " ++ cause ++ "\n"

def Fault.report : Fault → String
  | .settings fault => causedBy "failed to load configuration" fault.message
  | .filter => ""
  | .hub error => "Error: " ++ error.message ++ "\n"
  | .server address error => causedBy ("server on " ++ address ++ " stopped") error.message

def Fault.exitCode : Fault → Nat
  | .filter => 101
  | .settings _ | .hub _ | .server .. => 1

structure Plan where
  settings : Settings
  filter : Log.Filter
  hub : Hub
  address : String
  origins : OriginPolicy

def prepare (s : Surroundings) : Except Fault Plan := do
  let vars := s.allVariables
  let settings ← (Settings.load ⟨s.files, vars⟩).mapError Fault.settings
  let some filter := Log.Filter.choose settings.log.level (Settings.Preset.get? "RUST_LOG" vars)
    | .error .filter
  let hub ← (Hub.ofConfig settings.hub.config).mapError Fault.hub
  return {
    settings
    filter
    hub
    address := settings.server.host ++ ":" ++ toString settings.server.port
    origins := .ofOrigins settings.server.allowedOrigins }

def listening (address : String) : Log.Entry :=
  ⟨.info, .server, "WebSocket server listening on ws://" ++ address, []⟩

def signalled : Log.Entry := ⟨.info, .program, "Shutdown signal received", []⟩

def stopped : Log.Entry := ⟨.info, .program, "Hub stopped", []⟩

def begin (plan : Plan) (bound : Except HubError String) :
    Except Fault (List Log.Entry × Session) := do
  let address ← bound.mapError (Fault.server plan.address)
  let (log, s) := (Session.settle { hub := plan.hub.run }).drainLog
  return (log ++ [listening address], s)

def finish (s : Session) : List Log.Entry :=
  let (log, _) := (s.onHub Hub.shutdown).settle.drainLog
  signalled :: log ++ [stopped]

def runUntilSignal (plan : Plan) (bound : Except HubError String) :
    Except Fault (List Log.Entry) := do
  let (log, s) ← begin plan bound
  return log ++ finish s

def shown (plan : Plan) (log : List Log.Entry) : List String :=
  (log.filter plan.filter.shows).map Log.Entry.line

end RelayHub.Program
