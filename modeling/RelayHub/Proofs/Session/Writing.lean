import RelayHub.Proofs.Hub.Closing
import RelayHub.Session.Write

/-! All that one turn of a write loop can do, with the condition under which it does it. A call on the
outgoing side that does not complete, be it failed or still blocked at its deadline, ends the loop. -/
namespace RelayHub.Session

inductive WriteStep (s : Session) (h : Handle) (l : Link) : Session → Prop where
  | took {m : Bytes} {s' : Session} (point : l.point = .idle) (taken : s.dequeue? h = some (m, s')) :
      WriteStep s h l (s'.moveTo h (.feeding s'.writeDeadline m s'.config.sendBufferSize))
  | ended {c : Client} (point : l.point = .idle) (found : s.hub.client? h = some c)
      (empty : c.queue = []) (gone : c.sender = false) :
      WriteStep s h l (s.moveTo h (.goodbye s.writeDeadline))
  | ticked (point : l.point = .idle) (due : l.nextPing ≤ s.clock) :
      WriteStep s h l (s.setLink h { l with
        point := .pinging s.writeDeadline
        nextPing := Link.tickAfter l.nextPing s.clock s.config.pingPeriod.nanos })
  | fed {deadline budget : Nat} {m : Bytes} (point : l.point = .feeding deadline m budget)
      (done : l.sink.accept = .done) :
      WriteStep s h l ((s.put h (.frame (.ofBytes m))).nextInBatch h deadline budget)
  | batchLost (e : HubError)
      (lost : (∃ deadline m budget, l.point = .feeding deadline m budget ∧ l.sink.accept ≠ .done) ∨
        (∃ deadline, l.point = .flushing deadline ∧ l.sink.complete ≠ .done)) :
      WriteStep s h l (s.batchFailed h e)
  | flushed {deadline : Nat} (point : l.point = .flushing deadline ∨ l.point = .pingFlushing deadline)
      (done : l.sink.complete = .done) : WriteStep s h l (s.moveTo h .idle)
  | pinged {deadline : Nat} (point : l.point = .pinging deadline) (done : l.sink.accept = .done) :
      WriteStep s h l ((s.put h (.frame (.ping []))).moveTo h (.pingFlushing deadline))
  | pingLost (lost : (∃ deadline, l.point = .pinging deadline ∧ l.sink.accept ≠ .done) ∨
        (∃ deadline, l.point = .pingFlushing deadline ∧ l.sink.complete ≠ .done)) :
      WriteStep s h l (s.pingFailed h)
  | parted {deadline : Nat} (point : l.point = .goodbye deadline) (done : l.sink.accept = .done) :
      WriteStep s h l ((s.put h (.frame .close)).moveTo h (.goodbyeFlushing deadline))
  | partingLost {deadline : Nat} (point : l.point = .goodbye deadline) (lost : l.sink.accept ≠ .done) :
      WriteStep s h l (s.shut h)
  | partingFlushed {deadline : Nat} (point : l.point = .goodbyeFlushing deadline) :
      WriteStep s h l (s.shut h)
  | shutDown {deadline : Nat} (point : l.point = .shutting deadline) (done : l.sink.complete = .done) :
      WriteStep s h l ((s.put h .closed).finishWrite h)
  | abandoned {deadline : Nat} (point : l.point = .shutting deadline)
      (lost : l.sink.complete ≠ .done) : WriteStep s h l (s.finishWrite h)

variable {s s' : Session} {h : Handle}

theorem takeMessageStep (taken : s.takeMessage? h = some s') :
    ∃ l, s.link? h = some l ∧ WriteStep s h l s' := by
  obtain ⟨l, found, taken⟩ := Option.bind_eq_some_iff.mp taken
  refine ⟨l, found, ?_⟩
  split at taken
  · rename_i point
    split at taken
    · rename_i m next dequeued
      cases Option.some.inj taken
      exact .took point dequeued
    · rename_i nothing
      obtain ⟨c, held, taken⟩ := Option.bind_eq_some_iff.mp taken
      split at taken
      · contradiction
      · rename_i gone
        cases Option.some.inj taken
        refine .ended point held ?_ (by simpa using gone)
        cases waiting : c.queue with
        | nil => rfl
        | cons m rest => simp [dequeue?, held, Client.dequeue, waiting] at nothing
  · contradiction

theorem tickStep (ticked : s.tick? h = some s') : ∃ l, s.link? h = some l ∧ WriteStep s h l s' := by
  obtain ⟨l, found, ticked⟩ := Option.bind_eq_some_iff.mp ticked
  refine ⟨l, found, ?_⟩
  split at ticked
  · rename_i due
    cases Option.some.inj ticked
    exact .ticked due.1 due.2
  · contradiction

theorem writeStep (wrote : s.write? h = some s') : ∃ l, s.link? h = some l ∧ WriteStep s h l s' := by
  obtain ⟨l, found, wrote⟩ := Option.bind_eq_some_iff.mp wrote
  refine ⟨l, found, ?_⟩
  split at wrote
  · contradiction
  · contradiction
  · rename_i deadline m budget point
    split at wrote
    · cases Option.some.inj wrote
      exact .fed point (by assumption)
    · rename_i failed
      cases Option.some.inj wrote
      exact .batchLost lost (.inl ⟨deadline, m, budget, point, by simp [failed]⟩)
    · contradiction
  · rename_i deadline point
    split at wrote
    · cases Option.some.inj wrote
      exact .flushed (.inl point) (by assumption)
    · rename_i failed
      cases Option.some.inj wrote
      exact .batchLost lost (.inr ⟨deadline, point, by simp [failed]⟩)
    · contradiction
  · rename_i deadline point
    split at wrote
    · cases Option.some.inj wrote
      exact .pinged point (by assumption)
    · rename_i failed
      cases Option.some.inj wrote
      exact .pingLost (.inl ⟨deadline, point, by simp [failed]⟩)
    · contradiction
  · rename_i deadline point
    split at wrote
    · cases Option.some.inj wrote
      exact .flushed (.inr point) (by assumption)
    · rename_i failed
      cases Option.some.inj wrote
      exact .pingLost (.inr ⟨deadline, point, by simp [failed]⟩)
    · contradiction
  · rename_i deadline point
    split at wrote
    · cases Option.some.inj wrote
      exact .parted point (by assumption)
    · rename_i failed
      cases Option.some.inj wrote
      exact .partingLost point (by simp [failed])
    · contradiction
  · rename_i deadline point
    split at wrote
    · contradiction
    · cases Option.some.inj wrote
      exact .partingFlushed point
  · rename_i deadline point
    split at wrote
    · cases Option.some.inj wrote
      exact .shutDown point (by assumption)
    · rename_i failed
      cases Option.some.inj wrote
      exact .abandoned point (by simp [failed])
    · contradiction

theorem whenBlocked {blocked done : Prop} [Decidable blocked] {t : Session}
    (ran : (if blocked then some t else none) = some s') (apart : blocked → ¬ done) :
    s' = t ∧ ¬ done := by
  split at ran
  · exact ⟨(Option.some.inj ran).symm, apart (by assumption)⟩
  · contradiction

theorem writeExpiredStep (expired : s.writeExpired? h = some s') :
    ∃ l, s.link? h = some l ∧ WriteStep s h l s' := by
  obtain ⟨l, found, expired⟩ := Option.bind_eq_some_iff.mp expired
  obtain ⟨deadline, _, expired⟩ := Option.bind_eq_some_iff.mp expired
  refine ⟨l, found, ?_⟩
  have accept : l.sink.accept = .blocked → l.sink.accept ≠ .done := by
    intro blocked
    simp [blocked]
  have complete : l.sink.complete = .blocked → l.sink.complete ≠ .done := by
    intro blocked
    simp [blocked]
  split at expired
  · contradiction
  · split at expired
    · contradiction
    · contradiction
    · rename_i deadline m budget point
      obtain ⟨rfl, lost⟩ := whenBlocked expired accept
      exact .batchLost _ (.inl ⟨deadline, m, budget, point, lost⟩)
    · rename_i deadline point
      obtain ⟨rfl, lost⟩ := whenBlocked expired complete
      exact .batchLost _ (.inr ⟨deadline, point, lost⟩)
    · rename_i deadline point
      obtain ⟨rfl, lost⟩ := whenBlocked expired accept
      exact .pingLost (.inl ⟨deadline, point, lost⟩)
    · rename_i deadline point
      obtain ⟨rfl, lost⟩ := whenBlocked expired complete
      exact .pingLost (.inr ⟨deadline, point, lost⟩)
    · rename_i deadline point
      obtain ⟨rfl, lost⟩ := whenBlocked expired accept
      exact .partingLost point lost
    · rename_i deadline point
      obtain ⟨rfl, -⟩ := whenBlocked expired complete
      exact .partingFlushed point
    · rename_i deadline point
      obtain ⟨rfl, lost⟩ := whenBlocked expired complete
      exact .abandoned point lost

theorem dequeueOutline {m : Bytes} (taken : s.dequeue? h = some (m, s')) :
    s'.hub.outline = s.hub.outline := by
  obtain ⟨c, found, taken⟩ := Option.bind_eq_some_iff.mp taken
  obtain ⟨⟨m', c'⟩, dequeued, taken⟩ := Option.bind_eq_some_iff.mp taken
  cases Option.some.inj taken
  refine Hub.outlineUpdate fun x held => ?_
  rw [found] at held
  cases held
  obtain ⟨rest, -, rfl⟩ := Client.dequeueTaken dequeued
  rfl

theorem finishWriteOutline (s : Session) (h : Handle) :
    (s.finishWrite h).hub.outline = (s.hub.close h).outline := by
  have shut : (s.hub.close h).isOpen h = false := by simp [Hub.closeOpen]
  refine Hub.outlineUpdate fun c found => ?_
  have closed : c.isOpen = false := by simpa [Hub.isOpen, found] using shut
  have marked : c.markClosed.face = ⟨c.user, c.id, c.tenant, false⟩ := rfl
  rw [marked, Client.face, closed]

theorem writeOutline {l : Link} (step : WriteStep s h l s') :
    s'.hub.outline = s.hub.outline ∨ s'.hub.outline = (s.hub.close h).outline := by
  have noted : ∀ entry, (s.hub.note h entry).outline = s.hub.outline := Hub.outlineNote s.hub h
  cases step with
  | took _ taken =>
    have same := dequeueOutline taken
    exact .inl same
  | @fed deadline budget m _ _ =>
    left
    cases budget with
    | zero => rfl
    | succ budget =>
      simp only [nextInBatch]
      split
      · rename_i taken
        have same := dequeueOutline taken
        exact same
      · rfl
  | batchLost => exact .inl (noted _)
  | pingLost => exact .inl (noted _)
  | shutDown => exact .inr (finishWriteOutline _ h)
  | abandoned => exact .inr (finishWriteOutline s h)
  | ended | ticked | flushed | pinged | parted | partingLost | partingFlushed => exact .inl rfl

end RelayHub.Session
