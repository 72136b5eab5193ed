import RelayHub.Hub.Loop
import RelayHub.Hub.Relay
import RelayHub.Session.Link

/-! A hub together with the connections of its clients and a clock. Nothing happens by itself: calls
change the state at once, and the loops move only by the turns of `Session.Turn`. -/
namespace RelayHub

structure Session where
  hub : Hub
  /- By handle; a client that was not started has no connection. -/
  links : List (Option Link) := []
  clock : Nat := 0

namespace Session

def ofConfig (c : HubConfig) : Except HubError Session := do return { hub := ← Hub.ofConfig c }

def config (s : Session) : HubConfig := s.hub.config

def link? (s : Session) (h : Handle) : Option Link := s.links[h]?.join

def setLink (s : Session) (h : Handle) (l : Link) : Session :=
  { s with links := s.links.set h (some l) }

def updateLink (s : Session) (h : Handle) (f : Link → Link) : Session :=
  { s with links := s.links.modify h (Option.map f) }

def onHub (s : Session) (f : Hub → Hub) : Session := { s with hub := f s.hub }

def call {α : Type} (s : Session) (f : Hub → α × Hub) : α × Session :=
  let (x, hub) := f s.hub
  (x, { s with hub })

def build (s : Session) (c : Client) : Handle × Session :=
  let (h, hub) := s.hub.build c
  (h, { s with hub, links := s.links ++ [none] })

def takeQueue (s : Session) (h : Handle) : Except HubError Session :=
  match s.hub.client? h with
  | none => .error .hubClosed
  | some c =>
    match c.takeQueue with
    | none => .error (.alreadyStarted c.id)
    | some c => .ok (s.onHub (·.update h fun _ => c))

def markStarted (s : Session) (h : Handle) : Session := s.onHub (·.update h Client.markStarted)

def attach (s : Session) (h : Handle) (sink : SinkMode) : Session :=
  s.setLink h {
    reading := some (s.clock + s.config.pongWait.nanos)
    nextPing := s.clock + s.config.pingPeriod.nanos
    sink }

def start (s : Session) (h : Handle) (sink : SinkMode) : Except HubError Session := do
  return ((← s.takeQueue h).markStarted h).attach h sink

def receive (s : Session) (h : Handle) (item : Incoming) : Bool × Session :=
  match s.link? h with
  | none => (false, s)
  | some l =>
    if l.readDone then (false, s)
    else (true, s.setLink h { l with incoming := l.incoming ++ [item] })

def setSink (s : Session) (h : Handle) (mode : SinkMode) : Session :=
  s.updateLink h fun l => { l with sink := mode }

def drainWritten (s : Session) (h : Handle) : List (Nat × Written) × Session :=
  (((s.link? h).map (·.history)).getD [], s.updateLink h fun l => { l with written := [] })

def drainHandled (s : Session) (h : Handle) : List Bytes × Session :=
  (((s.link? h).map (·.handled)).getD [], s.updateLink h fun l => { l with handled := [] })

def drainLog (s : Session) : List Log.Entry × Session :=
  (s.hub.log, s.onHub fun hub => { hub with log := [] })

end Session
end RelayHub
