import RelayHub.Proofs.Session.Moving
import RelayHub.Session.Turn

/-! How a write loop breaks off. A batch or a ping that is refused, or blocked until its deadline, is lost; the loop
then closes the outgoing side and waits for that once more before it ends. -/
namespace RelayHub

def Link.answer? (l : Link) : Option SinkResult :=
  match l.point with
  | .feeding .. | .pinging _ => some l.sink.accept
  | .flushing _ | .pingFlushing _ => some l.sink.complete
  | _ => none

namespace Session
variable {s s' : Session} {h : Handle} {l : Link}

inductive Loses (s : Session) (h : Handle) (l : Link) : Turn → Prop where
  | failed (answer : l.answer? = some .failed) : Loses s h l (.write h)
  | late {deadline : Nat} (answer : l.answer? = some .blocked) (limit : l.point.deadline? = some deadline)
      (due : deadline ≤ s.clock) : Loses s h l (.writeExpired h)

structure Lost (s : Session) (h : Handle) (l : Link) (s' : Session) : Prop where
  link : s'.link? h = some { l with point := .shutting s.writeDeadline }
  clients : s'.hub.clients = s.hub.clients

theorem notedShutLost (found : s.link? h = some l) (entry : Client → Log.Entry) :
    Lost s h l ((s.onHub (·.note h entry)).shut h) := by
  have config : (s.hub.note h entry).config = s.hub.config := congrArg Outline.config (Hub.outlineNote s.hub h entry)
  have deadline : (s.onHub (·.note h entry)).writeDeadline = s.writeDeadline := by
    simp [writeDeadline, Session.config, onHub, config]
  refine ⟨?_, ?_⟩
  · rw [← deadline]
    exact moveToLink (s := s.onHub (·.note h entry)) found _
  · show (s.hub.note h entry).clients = s.hub.clients
    unfold Hub.note
    split
    · rfl
    · rfl

theorem refusedLost (found : s.link? h = some l) {r : SinkResult} (answer : l.answer? = some r) (refused : r ≠ .done)
    (step : WriteStep s h l s') : Lost s h l s' := by
  cases step with
  | batchLost | pingLost => exact notedShutLost found _
  | fed point done | pinged point done =>
    simp only [Link.answer?, point, Option.some.injEq] at answer
    exact absurd (answer.symm.trans done) refused
  | flushed point done =>
    rcases point with point | point
    all_goals
      simp only [Link.answer?, point, Option.some.injEq] at answer
      exact absurd (answer.symm.trans done) refused
  | took point | ended point | ticked point | parted point | partingLost point | partingFlushed point
  | shutDown point | abandoned point => simp [Link.answer?, point] at answer

theorem losesShuts (found : s.link? h = some l) {t : Turn} (loses : s.Loses h l t) :
    ∃ s', s.take? t = some s' ∧ Lost s h l s' := by
  cases loses with
  | failed answer =>
    have turns : (s.write? h).isSome = true := by
      cases point : l.point with
      | feeding | flushing | pinging | pingFlushing =>
        simp only [Link.answer?, point, Option.some.injEq] at answer
        simp [write?, found, point, answer]
      | _ => simp [Link.answer?, point] at answer
    obtain ⟨s', took⟩ := Option.isSome_iff_exists.mp turns
    obtain ⟨l', found', step⟩ := writeStep took
    cases found.symm.trans found'
    exact ⟨s', took, refusedLost found answer (by simp) step⟩
  | @late deadline answer limit due =>
    have turns : (s.writeExpired? h).isSome = true := by
      cases point : l.point with
      | feeding | flushing | pinging | pingFlushing =>
        simp only [Link.answer?, point, Option.some.injEq] at answer
        simp only [WritePoint.deadline?, point, Option.some.injEq] at limit
        simp [writeExpired?, found, point, answer, WritePoint.deadline?, limit, Nat.not_lt.mpr due]
      | _ => simp [Link.answer?, point] at answer
    obtain ⟨s', took⟩ := Option.isSome_iff_exists.mp turns
    obtain ⟨l', found', step⟩ := writeExpiredStep took
    cases found.symm.trans found'
    exact ⟨s', took, refusedLost found answer (by simp) step⟩

theorem shuttingEnds (found : s.link? h = some l) {deadline : Nat} (shutting : l.point = .shutting deadline)
    (step : WriteStep s h l s') :
    ∃ l', s'.link? h = some l' ∧ l'.point = .finished ∧ l'.outgoing.data = l.outgoing.data := by
  cases step with
  | shutDown =>
    have closed : ({ l.record s.clock .closed with point := .finished } : Link).outgoing.written =
      (s.clock, .closed) :: l.outgoing.written := rfl
    refine ⟨_, moveToLink (putLink found .closed) _, rfl, ?_⟩
    rw [Outgoing.data, Outgoing.framesClosed closed, Outgoing.data]
  | abandoned => exact ⟨_, moveToLink found _, rfl, rfl⟩
  | batchLost _ lost =>
    rcases lost with ⟨_, _, _, point, -⟩ | ⟨_, point, -⟩
    all_goals simp [shutting] at point
  | pingLost lost =>
    rcases lost with ⟨_, point, -⟩ | ⟨_, point, -⟩
    all_goals simp [shutting] at point
  | flushed point => simp [shutting] at point
  | took point | ended point | ticked point | fed point | pinged point | parted point | partingLost point
  | partingFlushed point => simp [shutting] at point

end Session
end RelayHub
