import RelayHub.Client
import RelayHub.HubError
import RelayHub.Log.Entry

/-! A hub and everything that belongs to it: its clients by handle, the indexes over them, the queue
of events that its loop applies one at a time, and the calls that wait for an answer. -/
namespace RelayHub

inductive Event where
  | register (client : Handle)
  | unregister (client : Handle)
  | flush (ticket : Nat)
  | shutdown
  deriving DecidableEq, Repr

inductive LoopState where
  | idle
  | serving
  | stopping
  | draining
  | stopped
  deriving DecidableEq, Repr

inductive FlushState where
  | pending
  | done
  | closed
  deriving DecidableEq, Repr

inductive RunState where
  | waiting
  | active
  | returned (result : Except HubError Unit)

structure Hub where
  config : HubConfig
  /- Every client ever built for this hub; a handle is a place in this list. -/
  clients : List Client := []
  registry : Registry := {}
  events : List Event := []
  loop : LoopState := .idle
  flushes : List FlushState := []
  runs : List RunState := []
  owned : Bool := true
  log : List Log.Entry := []

namespace Hub

def ofConfig (c : HubConfig) : Except HubError Hub := do return { config := ← c.checked }

def client? (hub : Hub) (h : Handle) : Option Client := hub.clients[h]?

def update (hub : Hub) (h : Handle) (f : Client → Client) : Hub :=
  { hub with clients := hub.clients.modify h f }

def write (hub : Hub) (e : Log.Entry) : Hub := { hub with log := hub.log ++ [e] }

def accepting (hub : Hub) : Bool :=
  match hub.loop with
  | .idle | .serving | .stopping => true
  | .draining | .stopped => false

def submit (hub : Hub) (e : Event) : Hub := { hub with events := hub.events ++ [e] }

def RunState.unfinished : RunState → Bool
  | .returned _ => false
  | _ => true

/-- Can clients still reach the hub? Calls that have not returned keep it alive. -/
def reachable (hub : Hub) : Bool :=
  hub.owned || hub.runs.any RunState.unfinished || hub.flushes.contains .pending

def release (hub : Hub) : Hub := { hub with owned := false }

def build (hub : Hub) (c : Client) : Handle × Hub :=
  (hub.clients.length, { hub with clients := hub.clients ++ [c] })

def component : Log.Value := .quoted "ws-hub"

def clientComponent : Log.Value := .quoted "ws-client"

def memberFields (c : Client) : List (String × Log.Value) :=
  [("client_id", .plain c.id), ("user_id", .plain c.user), ("tenant_id", .plain c.tenant)]

def idFields (c : Client) : List (String × Log.Value) :=
  [("client_id", .plain c.id), ("user_id", .plain c.user)]

def groupFields (c : Client) (group : String) : List (String × Log.Value) :=
  idFields c ++ [("group_id", .plain group)]

def note (hub : Hub) (h : Handle) (entry : Client → Log.Entry) : Hub :=
  match hub.client? h with
  | some c => hub.write (entry c)
  | none => hub

def isOpen (hub : Hub) (h : Handle) : Bool := (hub.client? h).any Client.isOpen

def describe (hub : Hub) : String :=
  "Hub \x7b users: " ++ toString hub.registry.userCount ++ ", groups: " ++
    toString hub.registry.groupCount ++ " \x7d"

end Hub
end RelayHub
