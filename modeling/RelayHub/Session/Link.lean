import RelayHub.HubError
import RelayHub.Text.Utf8

/-! The connection of one started client: what comes in, where its read and write loops stand, how
its outgoing side behaves, and what was written to it. Times are in nanoseconds. -/
namespace RelayHub

inductive Frame where
  | text (s : String)
  | binary (data : Bytes)
  | ping (data : Bytes)
  | close
  deriving DecidableEq, Repr

def Frame.ofBytes (m : Bytes) : Frame :=
  match Utf8.decode m with
  | some s => .text s
  | none => .binary m

inductive Incoming where
  | text (data : Bytes)
  | binary (data : Bytes)
  | ping
  | pong
  | raw
  | close (code : Option Nat)
  | fault (f : TransportFault)
  | finish
  deriving DecidableEq, Repr

inductive SinkMode where
  | ok
  | stall
  | noFlush
  | fail
  deriving DecidableEq, Repr

inductive SinkResult where
  | done
  | blocked
  | failed
  deriving DecidableEq, Repr

def SinkMode.accept : SinkMode → SinkResult
  | .ok | .noFlush => .done
  | .stall => .blocked
  | .fail => .failed

def SinkMode.complete : SinkMode → SinkResult
  | .ok => .done
  | .stall | .noFlush => .blocked
  | .fail => .failed

inductive Written where
  | frame (f : Frame)
  | closed
  deriving DecidableEq, Repr

/- Where a write loop stands. All but the first and the last wait for the outgoing side until a
deadline. -/
inductive WritePoint where
  | idle
  /- A message of a batch is handed over; `budget` more may follow. -/
  | feeding (deadline : Nat) (current : Bytes) (budget : Nat)
  | flushing (deadline : Nat)
  | pinging (deadline : Nat)
  | pingFlushing (deadline : Nat)
  | goodbye (deadline : Nat)
  | goodbyeFlushing (deadline : Nat)
  | shutting (deadline : Nat)
  | finished
  deriving DecidableEq, Repr

def WritePoint.deadline? : WritePoint → Option Nat
  | .idle | .finished => none
  | .feeding d _ _ | .flushing d | .pinging d | .pingFlushing d | .goodbye d
  | .goodbyeFlushing d | .shutting d => some d

structure Link where
  incoming : List Incoming := []
  /- The deadline of the read loop; nothing once it has ended. -/
  reading : Option Nat
  point : WritePoint := .idle
  nextPing : Nat
  sink : SinkMode := .ok
  /- What was written and when, newest first. -/
  written : List (Nat × Written) := []
  handled : List Bytes := []
  disconnects : Nat := 0

namespace Link

def readDone (l : Link) : Bool := l.reading.isNone

def writeDone (l : Link) : Bool := l.point = .finished

def record (l : Link) (time : Nat) (w : Written) : Link :=
  { l with written := (time, w) :: l.written }

def history (l : Link) : List (Nat × Written) := l.written.reverse

/- A tick may be this late without moving the ones behind it. -/
def tickTolerance : Nat := 5000000

def tickAfter (due now period : Nat) : Nat :=
  if due + tickTolerance < now then now + period else due + period

end Link
end RelayHub
