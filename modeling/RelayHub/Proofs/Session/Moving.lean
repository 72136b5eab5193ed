import RelayHub.Proofs.Session.Reading
import RelayHub.Proofs.Session.Sending

/-! How turns move the two loops of a client along. A write loop that ends closes its client and marks it; a read
loop that ends has its client closed. -/
namespace RelayHub.Session

section Write
variable {s s' : Session} {h : Handle} {l : Link} {c : Client}

/- A client and the place of its write loop after a turn: the loop only goes on, or takes a message off the queue,
or is through. -/
inductive Moved (hub : Hub) (h : Handle) (c : Client) : Client → WritePoint → Prop where
  | on {p : WritePoint} (working : p ≠ .finished) : Moved hub h c c p
  | took {p : WritePoint} {m : Bytes} {c' : Client} (working : p ≠ .finished) (taken : c.dequeue = some (m, c')) :
      Moved hub h c c' p
  | through {c' : Client} (closed : (hub.close h).client? h = some c') : Moved hub h c c'.markClosed .finished

def Moves (hub : Hub) (h : Handle) (c : Client) (l : Link) (s' : Session) : Prop :=
  ∃ c' l', s'.hub.client? h = some c' ∧ s'.link? h = some l' ∧ l'.reading = l.reading ∧ l'.sink = l.sink ∧
    Moved hub h c c' l'.point

theorem movesOn {hub : Hub} {l' : Link} (held : s'.hub.client? h = some c) (found : s'.link? h = some l')
    (reading : l'.reading = l.reading) (sink : l'.sink = l.sink) (working : l'.point ≠ .finished) :
    Moves hub h c l s' := ⟨c, l', held, found, reading, sink, .on working⟩

theorem writeWorking (step : WriteStep s h l s') : l.point ≠ .finished := by
  intro finished
  cases step with
  | took point | ended point | ticked point | fed point | pinged point | parted point | partingLost point
  | partingFlushed point | shutDown point | abandoned point => cases finished.symm.trans point
  | flushed point =>
    rcases point with point | point
    · cases finished.symm.trans point
    · cases finished.symm.trans point
  | batchLost _ lost =>
    rcases lost with ⟨_, _, _, point, -⟩ | ⟨_, point, -⟩
    · cases finished.symm.trans point
    · cases finished.symm.trans point
  | pingLost lost =>
    rcases lost with ⟨_, point, -⟩ | ⟨_, point, -⟩
    · cases finished.symm.trans point
    · cases finished.symm.trans point

variable (found : s.link? h = some l) (held : s.hub.client? h = some c)
include found held

theorem tookMoves {m : Bytes} {p : WritePoint} (working : p ≠ .finished) (taken : s.dequeue? h = some (m, s')) :
    Moves s.hub h c l (s'.moveTo h p) := by
  obtain ⟨c', rest, held', waits, rfl⟩ := dequeued taken
  cases held.symm.trans held'
  have dequeued : c.dequeue = some (m, { c with queue := rest }) := by rw [Client.dequeue, waits]
  refine ⟨{ c with queue := rest }, _, ?_, moveToLink found _, rfl, rfl, .took working dequeued⟩
  simp [moveTo, Session.updateLink, onHub, Hub.clientUpdate, held]

theorem finishMoves {l' : Link} (reading : l.reading = l'.reading) (sink : l.sink = l'.sink) :
    Moves s.hub h c l' (s.finishWrite h) := by
  obtain ⟨c', held', -⟩ := (Hub.Dealt.close s.hub h).client h c held
  refine ⟨c'.markClosed, { l with point := .finished }, ?_, moveToLink found _, reading, sink, .through held'⟩
  simp [finishWrite, moveTo, Session.updateLink, onHub, Hub.clientUpdate, held']

theorem writeMoves (step : WriteStep s h l s') : Moves s.hub h c l s' := by
  have noted : ∀ entry, (s.hub.note h entry).client? h = some c := fun entry =>
    (noteClient s.hub h h entry).trans held
  cases step with
  | took _ taken => exact tookMoves found held (by simp) taken
  | @fed deadline budget m _ _ =>
    have wrote := putLink found (.frame (.ofBytes m))
    cases budget with
    | zero => exact movesOn held (moveToLink wrote _) rfl rfl (by simp)
    | succ budget =>
      simp only [nextInBatch]
      split
      · rename_i m' s' taken
        have working : WritePoint.feeding deadline m' budget ≠ .finished := by simp
        exact tookMoves wrote held working taken
      · exact movesOn held (moveToLink wrote _) rfl rfl (by simp)
  | ended | flushed | partingLost | partingFlushed => exact movesOn held (moveToLink found _) rfl rfl (by simp)
  | ticked =>
    have set := linkSet s h h { l with
      point := .pinging s.writeDeadline
      nextPing := Link.tickAfter l.nextPing s.clock s.config.pingPeriod.nanos }
    rw [if_pos ⟨rfl, linkInside found⟩] at set
    exact movesOn held set rfl rfl (by simp)
  | batchLost | pingLost => exact movesOn (noted _) (moveToLink found _) rfl rfl (by simp)
  | pinged | parted => exact movesOn held (moveToLink (putLink found _) _) rfl rfl (by simp)
  | shutDown => exact finishMoves (putLink found .closed) held rfl rfl
  | abandoned => exact finishMoves found held rfl rfl

end Write

section Read

def reads? (s : Session) (k : Handle) : Option Bool := (s.link? k).map fun l => l.reading.isSome

def Halts (s s' : Session) : Prop :=
  ∀ k, s'.reads? k = some false → s.reads? k = some false ∨ s'.hub.isOpen k = false

theorem readsUpdate (s : Session) (h k : Handle) {f : Link → Link}
    (kept : ∀ l, (f l).reading.isSome = l.reading.isSome) : (s.updateLink h f).reads? k = s.reads? k := by
  simp only [reads?, linkUpdate]
  split
  · rw [Option.map_map]
    exact Option.map_congr fun l _ => kept l
  · rfl

theorem readsSet {s : Session} {h : Handle} {l l' : Link} (found : s.link? h = some l)
    (kept : l'.reading.isSome = l.reading.isSome) (k : Handle) : (s.setLink h l').reads? k = s.reads? k := by
  simp only [reads?, linkSet]
  split
  · rename_i here
    rw [here.1, found, Option.map_some, Option.map_some, kept]
  · rfl

theorem haltsSame {s s' : Session} (same : ∀ k, s'.reads? k = s.reads? k) : Halts s s' :=
  fun k halted => .inl ((same k).symm.trans halted)

variable (s : Session) (h : Handle)

theorem runHandlerReads (data : Bytes) (handler : MessageHandler) (k : Handle) :
    (s.runHandler h data handler).reads? k = s.reads? k := by
  cases handler with
  | relay =>
    simp only [runHandler]
    split
    · rfl
    · rfl
  | record | reject | echo | close => rfl

theorem handleReads (data : Bytes) (k : Handle) : (s.handle h data).reads? k = s.reads? k := by
  unfold handle
  split
  · rfl
  · exact (runHandlerReads _ h data _ k).trans (readsUpdate s h k fun _ => rfl)

theorem runDisconnectReads (k : Handle) : (s.runDisconnect h).reads? k = s.reads? k := by
  unfold runDisconnect
  split
  · rfl
  · rename_i handler _
    cases handler with
    | accept => exact readsUpdate s h k fun _ => rfl
    | reject reason => exact readsUpdate s h k fun _ => rfl

theorem finishReadHalts : Halts s (s.finishRead h) := by
  intro k halted
  by_cases here : k = h
  · subst here
    right
    simp [finishRead, onHub, Hub.closeOpen]
  · left
    have reads : (s.finishRead h).reads? k = (s.updateLink h fun l => { l with reading := none }).reads? k :=
      runDisconnectReads _ h k
    rw [← halted, reads, reads?, reads?, linkUpdate, if_neg here]

variable {s h} {t s' : Session}

theorem haltsFinish (same : ∀ k, t.reads? k = s.reads? k) : Halts s (t.finishRead h) :=
  fun k halted => (finishReadHalts t h k halted).imp_left (same k).symm.trans

theorem readHalts {l : Link} {t : Turn} (found : s.link? h = some l) (step : ReadStep s h l t s') : Halts s s' := by
  have popped : ∀ rest k, (s.setLink h { l with incoming := rest }).reads? k = s.reads? k :=
    fun _ => readsSet found rfl
  have noted : ∀ {t t' : Session}, Noted t h t' → ∀ k, t'.reads? k = t.reads? k := fun noted k => by
    rw [reads?, noted.link, reads?]
  cases step with
  | heard => exact haltsSame fun k => (handleReads _ h _ k).trans (popped _ k)
  | ignored => exact haltsSame (popped _)
  | @pong rest =>
    intro k halted
    left
    by_cases here : k = h
    · subst here
      simp [reads?, linkUpdate] at halted
    · rw [← popped rest k, ← halted, reads?, reads?, linkUpdate, if_neg here]
  | ended _ _ line => exact haltsFinish fun k => (noted line k).trans (popped _ k)
  | cancelled => exact finishReadHalts s h
  | expired _ _ _ line => exact haltsFinish (noted line)

end Read
end RelayHub.Session
