import RelayHub.Session.State

/-! The write loop of a client. Messages leave the queue in batches, each under one deadline; a ping
goes out every period; the end of the queue is answered with a close frame. A failure, a deadline or
the close frame leads to the end: the outgoing side is closed and the client with it. -/
namespace RelayHub.Session

def moveTo (s : Session) (h : Handle) (p : WritePoint) : Session :=
  s.updateLink h fun l => { l with point := p }

def writeDeadline (s : Session) : Nat := s.clock + s.config.writeWait.nanos

def put (s : Session) (h : Handle) (w : Written) : Session :=
  s.updateLink h fun l => l.record s.clock w

def shut (s : Session) (h : Handle) : Session := s.moveTo h (.shutting s.writeDeadline)

def finishWrite (s : Session) (h : Handle) : Session :=
  (s.onHub fun hub => (hub.close h).update h Client.markClosed).moveTo h .finished

def batchFailed (s : Session) (h : Handle) (e : HubError) : Session :=
  let s := s.onHub fun hub => hub.note h fun c =>
    ⟨.debug, .session, "Write failed", [("component", Hub.clientComponent), ("client_id", .plain c.id),
      ("error", .plain e.message)]⟩
  s.shut h

def pingFailed (s : Session) (h : Handle) : Session :=
  let s := s.onHub fun hub => hub.note h fun c =>
    ⟨.debug, .session, "Ping failed", [("component", Hub.clientComponent), ("client_id", .plain c.id)]⟩
  s.shut h

def dequeue? (s : Session) (h : Handle) : Option (Bytes × Session) := do
  let (m, c) ← (← s.hub.client? h).dequeue
  some (m, s.onHub (·.update h fun _ => c))

def takeMessage? (s : Session) (h : Handle) : Option Session := do
  let l ← s.link? h
  match l.point with
  | .idle =>
    match s.dequeue? h with
    | some (m, s) => some (s.moveTo h (.feeding s.writeDeadline m s.config.sendBufferSize))
    | none =>
      let c ← s.hub.client? h
      if c.sender then none else some (s.moveTo h (.goodbye s.writeDeadline))
  | _ => none

def tick? (s : Session) (h : Handle) : Option Session := do
  let l ← s.link? h
  if l.point = .idle ∧ l.nextPing ≤ s.clock then
    some (s.setLink h { l with
      point := .pinging s.writeDeadline
      nextPing := Link.tickAfter l.nextPing s.clock s.config.pingPeriod.nanos })
  else none

def lost : HubError := .transport .connectionClosed

def nextInBatch (s : Session) (h : Handle) (deadline : Nat) : Nat → Session
  | 0 => s.moveTo h (.flushing deadline)
  | budget + 1 =>
    match s.dequeue? h with
    | some (m, s) => s.moveTo h (.feeding deadline m budget)
    | none => s.moveTo h (.flushing deadline)

def write? (s : Session) (h : Handle) : Option Session := do
  let l ← s.link? h
  match l.point with
  | .idle | .finished => none
  | .feeding deadline m budget =>
    match l.sink.accept with
    | .done => some ((s.put h (.frame (.ofBytes m))).nextInBatch h deadline budget)
    | .failed => some (s.batchFailed h lost)
    | .blocked => none
  | .flushing _ =>
    match l.sink.complete with
    | .done => some (s.moveTo h .idle)
    | .failed => some (s.batchFailed h lost)
    | .blocked => none
  | .pinging deadline =>
    match l.sink.accept with
    | .done => some ((s.put h (.frame (.ping []))).moveTo h (.pingFlushing deadline))
    | .failed => some (s.pingFailed h)
    | .blocked => none
  | .pingFlushing _ =>
    match l.sink.complete with
    | .done => some (s.moveTo h .idle)
    | .failed => some (s.pingFailed h)
    | .blocked => none
  | .goodbye deadline =>
    match l.sink.accept with
    | .done => some ((s.put h (.frame .close)).moveTo h (.goodbyeFlushing deadline))
    | .failed => some (s.shut h)
    | .blocked => none
  | .goodbyeFlushing _ =>
    match l.sink.complete with
    | .blocked => none
    | _ => some (s.shut h)
  | .shutting _ =>
    match l.sink.complete with
    | .done => some ((s.put h .closed).finishWrite h)
    | .failed => some (s.finishWrite h)
    | .blocked => none

def writeExpired? (s : Session) (h : Handle) : Option Session := do
  let l ← s.link? h
  let deadline ← l.point.deadline?
  if s.clock < deadline then none
  else
    match l.point with
    | .idle | .finished => none
    | .feeding .. =>
      if l.sink.accept = .blocked then some (s.batchFailed h (.writeTimeout s.config.writeWait))
      else none
    | .flushing _ =>
      if l.sink.complete = .blocked then some (s.batchFailed h (.writeTimeout s.config.writeWait))
      else none
    | .pinging _ => if l.sink.accept = .blocked then some (s.pingFailed h) else none
    | .pingFlushing _ => if l.sink.complete = .blocked then some (s.pingFailed h) else none
    | .goodbye _ => if l.sink.accept = .blocked then some (s.shut h) else none
    | .goodbyeFlushing _ => if l.sink.complete = .blocked then some (s.shut h) else none
    | .shutting _ => if l.sink.complete = .blocked then some (s.finishWrite h) else none

end RelayHub.Session
