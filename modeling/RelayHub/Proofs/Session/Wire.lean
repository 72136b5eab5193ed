import RelayHub.Proofs.Hub.Queues
import RelayHub.Proofs.Session.Reading
import RelayHub.Proofs.Text.Utf8

/-! What a write loop puts on the wire: the messages its client accepted, in order and each once, then at
most one close frame. Where the loop stands says how the accepted messages are spread over the wire, the
loop and the queue. -/
namespace RelayHub

namespace Frame

def isData : Frame → Bool
  | .text _ | .binary _ => true
  | .ping _ | .close => false

def Carries (m : Bytes) : Frame → Prop
  | .text s => Utf8.encode s = m
  | .binary data => data = m ∧ ∀ s, Utf8.encode s ≠ m
  | .ping _ | .close => False

theorem ofBytesCarries (m : Bytes) : Carries m (.ofBytes m) := by
  unfold ofBytes
  cases decoded : Utf8.decode m with
  | some s => exact Utf8.decodeIff.mp decoded
  | none =>
    refine ⟨rfl, fun s encoded => ?_⟩
    rw [Utf8.decodeIff.mpr encoded] at decoded
    contradiction

theorem ofBytesData (m : Bytes) : (ofBytes m).isData = true := by
  unfold ofBytes
  split <;> rfl

theorem ofBytesNotClose (m : Bytes) : ofBytes m ≠ .close := by
  unfold ofBytes
  split <;> simp

end Frame

def Written.frame? : Written → Option Frame
  | .frame f => some f
  | .closed => none

namespace Outgoing

def frames (o : Outgoing) : List Frame := o.written.reverse.filterMap (·.2.frame?)

def data (o : Outgoing) : List Frame := o.frames.filter Frame.isData

end Outgoing

namespace WritePoint

def current : WritePoint → List Bytes
  | .feeding _ m _ => [m]
  | _ => []

def isTalking : WritePoint → Bool
  | .idle | .feeding .. | .flushing _ | .pinging _ | .pingFlushing _ => true
  | .goodbye _ | .goodbyeFlushing _ | .shutting _ | .finished => false

def isLeaving : WritePoint → Bool
  | .shutting _ | .finished => true
  | _ => false

theorem leavingSilent {p : WritePoint} (leaving : p.isLeaving = true) : p.isTalking = false := by
  unfold isLeaving at leaving
  split at leaving
  · rfl
  · rfl
  · contradiction

end WritePoint

/-- The accepted messages of a client and its side of the wire. `smooth` says that the outgoing side has
never refused anything. -/
inductive Wire (smooth : Prop) (c : Client) (o : Outgoing) : Prop where
  | talking {sent : List Bytes} (point : o.point.isTalking = true)
      (data : o.data = sent.map .ofBytes) (spread : c.arrived = sent ++ o.point.current ++ c.queue)
      (silent : .close ∉ o.frames)
  | parting {deadline : Nat} (point : o.point = .goodbye deadline)
      (data : o.data = c.arrived.map .ofBytes) (gone : c.sender = false) (silent : .close ∉ o.frames)
  | parted {before : List Frame}
      (point : o.point.isLeaving = true ∨ ∃ deadline, o.point = .goodbyeFlushing deadline)
      (data : o.data = c.arrived.map .ofBytes) (gone : c.sender = false)
      (last : o.frames = before ++ [.close]) (silent : .close ∉ before)
  | broken {sent : List Bytes} (rough : ¬ smooth) (point : o.point.isLeaving = true)
      (data : o.data = sent.map .ofBytes) (part : sent <+: c.arrived) (silent : .close ∉ o.frames)

namespace Wire
variable {smooth : Prop} {c c' : Client} {o : Outgoing}

theorem start (point : o.point = .idle) (written : o.written = []) (waits : c.arrived = c.queue) :
    Wire smooth c o := by
  have frames : o.frames = [] := by simp [Outgoing.frames, written]
  have data : o.data = ([] : List Bytes).map .ofBytes := by simp [Outgoing.data, frames]
  refine .talking ?_ data ?_ ?_
  · rw [point]
    rfl
  · simp [point, WritePoint.current, waits]
  · simp [frames]

theorem later (wire : Wire smooth c o) (later : c.Later c') : Wire smooth c' o := by
  obtain ⟨new, queue, arrived, silence⟩ := later.more
  cases wire with
  | talking point data spread silent =>
    refine .talking point data ?_ silent
    rw [arrived, spread, queue, List.append_assoc]
  | parting point data gone silent =>
    refine .parting point ?_ (later.sender gone) silent
    rw [arrived, silence gone, List.append_nil]
    exact data
  | parted point data gone last silent =>
    refine .parted point ?_ (later.sender gone) last silent
    rw [arrived, silence gone, List.append_nil]
    exact data
  | broken rough point data part silent =>
    refine .broken rough point data ?_ silent
    rw [arrived]
    exact part.trans (List.prefix_append _ _)

theorem withSink (wire : Wire smooth c o) (mode : SinkMode) : Wire smooth c { o with sink := mode } := by
  cases wire with
  | talking point data spread silent => exact .talking point data spread silent
  | parting point data gone silent => exact .parting point data gone silent
  | parted point data gone last silent => exact .parted point data gone last silent
  | broken rough point data part silent => exact .broken rough point data part silent

theorem prefixWritten (wire : Wire smooth c o) : ∃ n, o.data = (c.arrived.take n).map .ofBytes := by
  have taken : ∀ {sent : List Bytes}, sent <+: c.arrived → o.data = sent.map .ofBytes →
      ∃ n, o.data = (c.arrived.take n).map .ofBytes := by
    intro sent part data
    exact ⟨sent.length, by rw [← List.prefix_iff_eq_take.mp part]; exact data⟩
  cases wire with
  | talking _ data spread _ =>
    refine taken ?_ data
    rw [spread, List.append_assoc]
    exact List.prefix_append _ _
  | parting _ data _ _ => exact taken (List.prefix_refl _) data
  | parted _ data _ _ _ => exact taken (List.prefix_refl _) data
  | broken _ _ data part _ => exact taken part data

theorem closeWritten (wire : Wire smooth c o) : .close ∉ o.frames ∨
    (c.sender = false ∧ o.data = c.arrived.map .ofBytes ∧
      ∃ before, o.frames = before ++ [.close] ∧ .close ∉ before) := by
  cases wire with
  | talking _ _ _ silent => exact .inl silent
  | parting _ _ _ silent => exact .inl silent
  | parted _ data gone last silent => exact .inr ⟨gone, data, _, last, silent⟩
  | broken _ _ _ _ silent => exact .inl silent

theorem finished (wire : Wire smooth c o) (unbroken : smooth) (point : o.point = .finished) :
    .close ∈ o.frames := by
  cases wire with
  | talking point' => simp [point, WritePoint.isTalking] at point'
  | parting point' => simp [point] at point'
  | parted _ _ _ last _ => simp [last]
  | broken rough => exact absurd unbroken rough

theorem whenTalking (wire : Wire smooth c o) (point : o.point.isTalking = true) :
    ∃ sent, o.data = sent.map .ofBytes ∧ c.arrived = sent ++ o.point.current ++ c.queue ∧
      .close ∉ o.frames := by
  cases wire with
  | talking _ data spread silent => exact ⟨_, data, spread, silent⟩
  | parting point' => simp [point', WritePoint.isTalking] at point
  | parted point' =>
    rcases point' with leaving | ⟨_, flushing⟩
    · simp [WritePoint.leavingSilent leaving] at point
    · simp [flushing, WritePoint.isTalking] at point
  | broken _ leaving => simp [WritePoint.leavingSilent leaving] at point

theorem whenParting {deadline : Nat} (wire : Wire smooth c o) (point : o.point = .goodbye deadline) :
    o.data = c.arrived.map .ofBytes ∧ c.sender = false ∧ .close ∉ o.frames := by
  cases wire with
  | talking point' => simp [point, WritePoint.isTalking] at point'
  | parting _ data gone silent => exact ⟨data, gone, silent⟩
  | parted point' => simp [point, WritePoint.isLeaving] at point'
  | broken _ point' => simp [point, WritePoint.isLeaving] at point'

theorem whenLeaving (wire : Wire smooth c o) (point : o.point.isTalking = false)
    (begun : ∀ deadline, o.point ≠ .goodbye deadline) {o' : Outgoing} (written : o'.frames = o.frames)
    (left : o'.point.isLeaving = true) (arrived : c'.arrived = c.arrived)
    (sender : c.sender = false → c'.sender = false) : Wire smooth c' o' := by
  have data : o'.data = o.data := by rw [Outgoing.data, Outgoing.data, written]
  cases wire with
  | talking point' => simp [point] at point'
  | parting point' => exact absurd point' (begun _)
  | parted _ carried gone last silent =>
    refine .parted (.inl left) ?_ (sender gone) (written.trans last) silent
    rw [data, arrived]
    exact carried
  | broken rough _ carried part silent =>
    exact .broken rough left (data.trans carried) (arrived ▸ part) (written ▸ silent)

end Wire

namespace Outgoing
variable {o o' : Outgoing} {time : Nat} {f : Frame}
  (wrote : o'.written = (time, .frame f) :: o.written)
include wrote

theorem framesWrote : o'.frames = o.frames ++ [f] := by simp [frames, wrote, Written.frame?]

theorem dataWrote : o'.data = if f.isData then o.data ++ [f] else o.data := by
  rw [data, framesWrote wrote, List.filter_append]
  cases carries : f.isData <;> simp [carries, data]

theorem closeUnwritten (other : f ≠ .close) (silent : .close ∉ o.frames) : .close ∉ o'.frames := by
  rw [framesWrote wrote]
  simp [silent, other.symm]

omit wrote in
theorem framesClosed (closed : o'.written = (time, .closed) :: o.written) : o'.frames = o.frames := by
  simp [frames, closed, Written.frame?]

end Outgoing

end RelayHub
