import RelayHub.Proofs.Session.Moving

/-! The ticker of a write loop whose outgoing side accepts everything: a ping for every tick, and ticks a period
apart, whatever is written in between. -/
namespace RelayHub

def WritePoint.isPinging : WritePoint → Bool
  | .pinging _ => true
  | _ => false

def Written.isPing : Written → Bool
  | .frame (.ping _) => true
  | _ => false

theorem Frame.ofBytesNotPing (m : Bytes) : (Written.frame (.ofBytes m)).isPing = false := by
  unfold ofBytes
  split
  · rfl
  · rfl

namespace Link

def pings (l : Link) : List Nat := (l.history.filter (·.2.isPing)).map (·.1)

theorem pingsRecord (l : Link) (time : Nat) (w : Written) :
    (l.record time w).pings = l.pings ++ if w.isPing then [time] else [] := by
  simp only [pings, history, record, List.reverse_cons, List.filter_append, List.map_append]
  cases ping : w.isPing with
  | true => simp [ping]
  | false => simp [ping]

end Link

namespace Session
variable {s s' : Session} {h : Handle} {l : Link} {c : Client}

/- What one turn means for the ticker: a tick is taken, its ping is written, or neither. -/
inductive Beat (s : Session) (l l' : Link) : Prop where
  | ticked (point : l.point.isPinging = false) (due : l.nextPing ≤ s.clock) (point' : l'.point.isPinging = true)
      (next : l'.nextPing = Link.tickAfter l.nextPing s.clock s.config.pingPeriod.nanos) (pings : l'.pings = l.pings)
  | pinged (point : l.point.isPinging = true) (point' : l'.point.isPinging = false) (next : l'.nextPing = l.nextPing)
      (pings : l'.pings = l.pings ++ [s.clock])
  | aside (point : l'.point.isPinging = l.point.isPinging) (next : l'.nextPing = l.nextPing)
      (pings : l'.pings = l.pings)

def Talks (s : Session) (h : Handle) (l : Link) (s' : Session) : Prop :=
  ∃ l', s'.link? h = some l' ∧ l'.sink = .ok ∧ l'.point.isTalking = true ∧ Beat s l l'

section Talking
variable (found : s.link? h = some l) (sink : l.sink = .ok)
include found sink

theorem fedTalks {deadline budget : Nat} {m : Bytes} (point : l.point = .feeding deadline m budget) :
    Talks s h l ((s.put h (.frame (.ofBytes m))).nextInBatch h deadline budget) := by
  have put := putLink found (.frame (.ofBytes m))
  have quiet : (l.record s.clock (.frame (.ofBytes m))).pings = l.pings := by
    rw [Link.pingsRecord, Frame.ofBytesNotPing]
    exact List.append_nil _
  have working : l.point.isPinging = false := by rw [point]; rfl
  cases budget with
  | zero => exact ⟨_, moveToLink put _, sink, rfl, .aside working.symm rfl quiet⟩
  | succ budget =>
    simp only [nextInBatch]
    split
    · rename_i m' s' taken
      obtain ⟨c, rest, -, -, rfl⟩ := dequeued taken
      exact ⟨_, moveToLink put _, sink, rfl, .aside working.symm rfl quiet⟩
    · exact ⟨_, moveToLink put _, sink, rfl, .aside working.symm rfl quiet⟩

theorem tickedTalks (point : l.point = .idle) (due : l.nextPing ≤ s.clock) :
    Talks s h l (s.setLink h { l with
      point := .pinging s.writeDeadline
      nextPing := Link.tickAfter l.nextPing s.clock s.config.pingPeriod.nanos }) := by
  refine ⟨_, (linkSet ..).trans (if_pos ⟨rfl, linkInside found⟩), sink, rfl, .ticked ?_ due rfl rfl rfl⟩
  rw [point]
  rfl

theorem pingedTalks {deadline : Nat} (point : l.point = .pinging deadline) :
    Talks s h l ((s.put h (.frame (.ping []))).moveTo h (.pingFlushing deadline)) := by
  refine ⟨_, moveToLink (putLink found _) _, sink, rfl, .pinged ?_ rfl rfl ?_⟩
  · rw [point]
    rfl
  · exact Link.pingsRecord l s.clock (.frame (.ping []))

theorem writeTalks (held : s.hub.client? h = some c) (talking : l.point.isTalking = true)
    (sending : c.sender = true) (step : WriteStep s h l s') : Talks s h l s' := by
  have accepts : l.sink.accept = .done := by rw [sink]; rfl
  have completes : l.sink.complete = .done := by rw [sink]; rfl
  cases step with
  | took point taken =>
    obtain ⟨c', rest, -, -, rfl⟩ := dequeued taken
    exact ⟨_, moveToLink found _, sink, rfl, .aside (by rw [point]; rfl) rfl rfl⟩
  | fed point => exact fedTalks found sink point
  | ticked point due => exact tickedTalks found sink point due
  | pinged point => exact pingedTalks found sink point
  | flushed point =>
    have working : l.point.isPinging = false := by
      rcases point with point | point
      · rw [point]; rfl
      · rw [point]; rfl
    exact ⟨_, moveToLink found _, sink, rfl, .aside working.symm rfl rfl⟩
  | ended _ held' _ gone =>
    cases held.symm.trans held'
    exact absurd (sending.symm.trans gone) (by simp)
  | batchLost _ lost =>
    rcases lost with ⟨_, _, _, -, refused⟩ | ⟨_, -, refused⟩
    · exact absurd accepts refused
    · exact absurd completes refused
  | pingLost lost =>
    rcases lost with ⟨_, -, refused⟩ | ⟨_, -, refused⟩
    · exact absurd accepts refused
    · exact absurd completes refused
  | parted point | partingLost point | partingFlushed point | shutDown point | abandoned point =>
    simp [point, WritePoint.isTalking] at talking

end Talking

theorem writeClock (step : WriteStep s h l s') : s'.clock = s.clock := by
  cases step with
  | took _ taken =>
    obtain ⟨c, rest, -, -, rfl⟩ := dequeued taken
    rfl
  | @fed deadline budget m _ _ =>
    cases budget with
    | zero => rfl
    | succ budget =>
      simp only [nextInBatch]
      split
      · rename_i m' s' taken
        obtain ⟨c, rest, -, -, rfl⟩ := dequeued taken
        rfl
      · rfl
  | _ => rfl

theorem writeOpen (found : s.link? h = some l) (held : s.hub.client? h = some c) (step : WriteStep s h l s')
    {l' : Link} (found' : s'.link? h = some l') (working : l'.point ≠ .finished) :
    s'.hub.isOpen h = s.hub.isOpen h := by
  obtain ⟨c', l'', held', found'', -, -, moved⟩ := writeMoves found held step
  cases found'.symm.trans found''
  have isOpen : s'.hub.isOpen h = c'.isOpen := by simp [Hub.isOpen, held']
  have was : s.hub.isOpen h = c.isOpen := by simp [Hub.isOpen, held]
  rw [isOpen, was]
  generalize l'.point = p at moved working
  cases moved with
  | on => rfl
  | took _ taken =>
    obtain ⟨rest, -, rfl⟩ := Client.dequeueTaken taken
    rfl
  | through => exact absurd rfl working

end Session
end RelayHub
