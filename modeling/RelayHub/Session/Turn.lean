import RelayHub.Number.Natural
import RelayHub.Session.Read
import RelayHub.Session.Write

/-! Turns of the loops. Each turn is one step of one loop at the present time; where a loop waits for
several things, each has a turn of its own, so an order of turns is any order in which the loops may
run. `settle` takes turns until none is left, and `advance` moves the clock from timer to timer. -/
namespace RelayHub.Session

inductive Turn where
  | run
  | loop
  | readCancelled (client : Handle)
  | readNext (client : Handle)
  | readExpired (client : Handle)
  | takeMessage (client : Handle)
  | tick (client : Handle)
  | write (client : Handle)
  | writeExpired (client : Handle)
  deriving DecidableEq, Repr

def take? (s : Session) : Turn → Option Session
  | .run => s.hub.beginRun?.map fun hub => { s with hub }
  | .loop => s.hub.loopStep?.map fun hub => { s with hub }
  | .readCancelled h => s.readCancelled? h
  | .readNext h => s.readNext? h
  | .readExpired h => s.readExpired? h
  | .takeMessage h => s.takeMessage? h
  | .tick h => s.tick? h
  | .write h => s.write? h
  | .writeExpired h => s.writeExpired? h

/- Every turn there is, in the order in which `settle` tries them: the hub, then what is read, then
what is written. -/
def turns (s : Session) : List Turn :=
  let handles := List.range s.links.length
  [.run, .loop] ++
    handles.flatMap (fun h => [.readCancelled h, .readNext h, .readExpired h]) ++
    handles.flatMap (fun h => [.write h, .writeExpired h, .takeMessage h, .tick h])

def settled (s : Session) : Bool := s.turns.all fun t => (s.take? t).isNone

def dueTicks (l : Link) (now period : Nat) : Nat :=
  if now < l.nextPing then 0
  else if l.nextPing + Link.tickTolerance < now then 1
  else (now - l.nextPing) / period + 1

def pointWork : WritePoint → Nat
  | .finished => 0
  | .shutting _ => 1
  | .goodbyeFlushing _ => 2
  | .goodbye _ => 3
  | .idle => 4
  | .flushing _ | .pingFlushing _ => 5
  | .feeding .. | .pinging _ => 6

def loopWork : LoopState → Nat
  | .idle => 4
  | .serving => 3
  | .stopping => 2
  | .draining => 1
  | .stopped => 0

def linkWork (s : Session) (l : Link) : Nat :=
  pointWork l.point + 3 * dueTicks l s.clock s.config.pingPeriod.nanos +
    (if l.readDone then 0 else 1 + (3 * s.hub.clients.length + 4) * l.incoming.length)

def clientWork (c : Client) : Nat := 3 * c.queue.length + (if c.isOpen then 2 else 0)

/-- More than the number of turns that are left before the clock has to move. Every turn makes it
smaller: an item weighs more than all the messages it may send, and an open client more than the event
of its end. -/
def work (s : Session) : Nat :=
  ((s.links.filterMap id).map s.linkWork).foldl (· + ·) 0 + (s.hub.clients.map clientWork).foldl (· + ·) 0 +
    s.hub.events.length + loopWork s.hub.loop + (s.hub.runs.filter Hub.RunState.unfinished).length

def settleWith : Nat → Session → Session
  | 0, s => s
  | fuel + 1, s =>
    match s.turns.findSome? s.take? with
    | some next => settleWith fuel next
    | none => s

def settle (s : Session) : Session := settleWith (s.work + 1) s

def timers (l : Link) : List Nat :=
  l.reading.toList ++ l.point.deadline?.toList ++ (if l.point = .idle then [l.nextPing] else [])

def nextTimer? (s : Session) : Option Nat :=
  (((s.links.filterMap id).flatMap timers).filter (s.clock < ·)).min?

def advanceWith (target : Nat) : Nat → Session → Session
  | 0, s => s
  | fuel + 1, s =>
    let s := s.settle
    match s.nextTimer? with
    | some time =>
      if time ≤ target then advanceWith target fuel { s with clock := time }
      else { s with clock := max s.clock target }
    | none => { s with clock := max s.clock target }

def advance (s : Session) (nanos : Nat) : Session :=
  (advanceWith (s.clock + nanos) (nanos + 1) s).settle

end RelayHub.Session
