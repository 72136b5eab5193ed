import RelayHub.HubConfig
import RelayHub.Json.Value
import RelayHub.Registry
import RelayHub.Text.Quoted
import RelayHub.Text.Utf8

/-! One live connection as the hub knows it: who it is, where it stands in its life, and the bounded
queue of messages that wait for its write loop. -/
namespace RelayHub

/- A life only moves forward. `closing` is left for the write loop to finish. -/
inductive ClientState where
  | open
  | closing
  | closed
  deriving DecidableEq, Repr

inductive MessageHandler where
  | relay
  | record
  | reject (reason : String)
  | echo
  | close
  deriving DecidableEq, Repr

def MessageHandler.takesNote : MessageHandler → Bool
  | .record | .reject _ | .close => true
  | .relay | .echo => false

inductive DisconnectHandler where
  | accept
  | reject (reason : String)
  deriving DecidableEq, Repr

structure Client where
  id : String
  user : String
  tenant : String
  token : Option String := none
  metadata : Table Json := .empty
  onMessage : Option MessageHandler := none
  onDisconnect : Option DisconnectHandler := none
  state : ClientState := .open
  sender : Bool := true
  queue : List Bytes := []
  /- Every message that was ever taken into the queue, newest first. -/
  accepted : List Bytes := []
  queueTaken : Bool := false
  started : Bool := false
  cancelled : Bool := false

namespace Client

def isOpen (c : Client) : Bool := c.state = .open

def member (c : Client) (h : Handle) : Member := ⟨h, c.user, c.id, c.tenant⟩

def pending (c : Client) : Nat := if c.sender then c.queue.length else 0

inductive SendResult where
  | accepted
  | full
  | closed
  deriving DecidableEq, Repr

def offer (c : Client) (capacity : Nat) (m : Bytes) : SendResult × Client :=
  if !c.sender then (.closed, c)
  else if c.queue.length < capacity then
    (.accepted, { c with queue := c.queue ++ [m], accepted := m :: c.accepted })
  else (.full, c)

def beginClose (c : Client) : Client :=
  if c.state = .open then
    { c with sender := false, state := if c.started then .closing else .closed }
  else c

def cancel (c : Client) : Client := { c with cancelled := true }

def takeQueue (c : Client) : Option Client :=
  if c.queueTaken then none else some { c with queueTaken := true }

def markStarted (c : Client) : Client := { c with started := true }

def markClosed (c : Client) : Client := { c with state := .closed, queue := [] }

def dequeue (c : Client) : Option (Bytes × Client) :=
  match c.queue with
  | [] => none
  | m :: rest => some (m, { c with queue := rest })

def ClientState.name : ClientState → String
  | .open => "Open"
  | .closing => "Closing"
  | .closed => "Closed"

def describe (c : Client) : String :=
  "Client \x7b id: " ++ Quoted.quote c.id ++ ", user_id: " ++ Quoted.quote c.user ++
    ", tenant_id: " ++ Quoted.quote c.tenant ++ ", state: " ++ ClientState.name c.state ++ " \x7d"

end Client
end RelayHub
