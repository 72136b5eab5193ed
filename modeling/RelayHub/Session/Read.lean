import RelayHub.Session.State

/-! The read loop of a client. It hands every text and binary frame to the message handler, moves its
deadline on a pong, and ends at a close frame, a fault, the end of the stream, the deadline or a close
call. Its end runs the disconnect handler and closes the client. -/
namespace RelayHub.Session

def runHandler (s : Session) (h : Handle) (data : Bytes) : MessageHandler → Session
  | .relay => if s.hub.reachable then s.onHub (·.relay h data) else s
  | .record => s
  | .reject reason => s.onHub fun hub => hub.note h fun c =>
      ⟨.error, .session, "Message handler failed", ("component", Hub.clientComponent) :: Hub.idFields c ++
        [("error", .plain reason)]⟩
  | .echo => s.onHub fun hub => (hub.send h data).2
  | .close => s.onHub (·.close h)

def handle (s : Session) (h : Handle) (data : Bytes) : Session :=
  match (s.hub.client? h).bind (·.onMessage) with
  | none => s
  | some handler =>
    let s := s.updateLink h fun l => { l with handled := l.handled ++ [data] }
    s.runHandler h data handler

def runDisconnect (s : Session) (h : Handle) : Session :=
  match (s.hub.client? h).bind (·.onDisconnect) with
  | none => s
  | some handler =>
    let s := s.updateLink h fun l => { l with disconnects := l.disconnects + 1 }
    match handler with
    | .accept => s
    | .reject reason => s.onHub fun hub => hub.note h fun c =>
        ⟨.error, .session, "Disconnect handler failed", [("component", Hub.clientComponent),
          ("client_id", .plain c.id), ("error", .plain reason)]⟩

def finishRead (s : Session) (h : Handle) : Session :=
  let s := s.updateLink h fun l => { l with reading := none }
  let s := s.onHub fun hub => hub.note h fun c =>
    ⟨.info, .session, "Client disconnected", ("component", Hub.clientComponent) :: Hub.memberFields c⟩
  (s.runDisconnect h).onHub (·.close h)

def isNormalClose (code : Nat) : Bool := code = 1000 || code = 1001

def warnClose (s : Session) (h : Handle) (code : Nat) : Session :=
  s.onHub fun hub => hub.note h fun c =>
    ⟨.warn, .session, "Abnormal close from peer", ("component", Hub.clientComponent) :: Hub.idFields c ++
      [("code", .count code)]⟩

def noteFault (s : Session) (h : Handle) (f : TransportFault) : Session :=
  s.onHub fun hub => hub.note h fun c =>
    if f.isExpected then ⟨.debug, .session, "Connection closed: " ++ f.message,
      [("component", Hub.clientComponent), ("client_id", .plain c.id)]⟩
    else ⟨.error, .session, "WebSocket read error", ("component", Hub.clientComponent) :: Hub.idFields c ++
      [("error", .plain f.message)]⟩

def readItem (s : Session) (h : Handle) : Incoming → Session
  | .text data | .binary data => s.handle h data
  | .ping | .raw => s
  | .pong => s.updateLink h fun l => { l with reading := some (s.clock + s.config.pongWait.nanos) }
  | .close none => s.finishRead h
  | .close (some code) => (if isNormalClose code then s else s.warnClose h code).finishRead h
  | .fault f => (s.noteFault h f).finishRead h
  | .finish => s.finishRead h

def readNext? (s : Session) (h : Handle) : Option Session := do
  let l ← s.link? h
  let _ ← l.reading
  match l.incoming with
  | [] => none
  | item :: rest => some ((s.setLink h { l with incoming := rest }).readItem h item)

def readCancelled? (s : Session) (h : Handle) : Option Session := do
  let l ← s.link? h
  let _ ← l.reading
  let c ← s.hub.client? h
  if c.cancelled then some (s.finishRead h) else none

def readExpired? (s : Session) (h : Handle) : Option Session := do
  let l ← s.link? h
  let deadline ← l.reading
  if l.incoming.isEmpty ∧ deadline ≤ s.clock then
    let s := s.onHub fun hub => hub.note h fun c =>
      ⟨.warn, .session, "No pong within " ++ s.config.pongWait.text ++ ", dropping connection",
        ("component", Hub.clientComponent) :: Hub.idFields c⟩
    some (s.finishRead h)
  else none

end RelayHub.Session
