import RelayHub.Proofs.Session.Wire
import RelayHub.Proofs.Session.Writing

/-! The turns of a write loop, one by one: each leaves all other clients and connections alone, and keeps
account of the messages its own client accepted. -/
namespace RelayHub

namespace Session
variable {s s' : Session} {h : Handle} {l : Link}

theorem dequeued {m : Bytes} (taken : s.dequeue? h = some (m, s')) : ∃ c rest,
    s.hub.client? h = some c ∧ c.queue = m :: rest ∧
      s' = s.onHub (·.update h fun _ => { c with queue := rest }) := by
  obtain ⟨c, found, taken⟩ := Option.bind_eq_some_iff.mp taken
  obtain ⟨⟨m', c'⟩, dequeued, taken⟩ := Option.bind_eq_some_iff.mp taken
  cases Option.some.inj taken
  obtain ⟨rest, waits, rfl⟩ := Client.dequeueTaken dequeued
  exact ⟨c, rest, found, waits, rfl⟩

theorem moveToLink (found : s.link? h = some l) (p : WritePoint) :
    (s.moveTo h p).link? h = some { l with point := p } := by
  simp [moveTo, linkUpdate, found]

theorem putLink (found : s.link? h = some l) (w : Written) :
    (s.put h w).link? h = some (l.record s.clock w) := by
  simp [put, linkUpdate, found]

structure Apart (h : Handle) (s s' : Session) : Prop where
  clients : s'.hub.clients.length = s.hub.clients.length
  links : s'.links.length = s.links.length
  client : ∀ k, k ≠ h → s'.hub.client? k = s.hub.client? k
  link : ∀ k, k ≠ h → s'.link? k = s.link? k

namespace Apart

theorem trans {a b c : Session} (first : Apart h a b) (second : Apart h b c) : Apart h a c where
  clients := second.clients.trans first.clients
  links := second.links.trans first.links
  client k other := (second.client k other).trans (first.client k other)
  link k other := (second.link k other).trans (first.link k other)

theorem updateLink (s : Session) (h : Handle) (f : Link → Link) : Apart h s (s.updateLink h f) where
  clients := rfl
  links := by simp [Session.updateLink]
  client _ _ := rfl
  link k other := by simp [linkUpdate, other]

theorem setLink (s : Session) (h : Handle) (l : Link) : Apart h s (s.setLink h l) where
  clients := rfl
  links := by simp [Session.setLink]
  client _ _ := rfl
  link k other := by simp [linkSet, other]

theorem update (s : Session) (h : Handle) (f : Client → Client) :
    Apart h s (s.onHub (·.update h f)) where
  clients := by simp [onHub, Hub.update]
  links := rfl
  client k other := by simp [onHub, Hub.clientUpdate, other]
  link _ _ := rfl

theorem sameClients (s : Session) (h : Handle) {f : Hub → Hub} (same : (f s.hub).clients = s.hub.clients) :
    Apart h s (s.onHub f) where
  clients := congrArg List.length same
  links := rfl
  client k _ := congrArg (·[k]?) same
  link _ _ := rfl

theorem note (s : Session) (h : Handle) (entry : Client → Log.Entry) :
    Apart h s (s.onHub (·.note h entry)) := .sameClients s h (Hub.noteClients s.hub h entry)

theorem close (s : Session) (h : Handle) : Apart h s (s.onHub (·.close h)) := by
  cases isOpen : s.hub.isOpen h with
  | false => exact .sameClients s h (congrArg Hub.clients (Hub.closeOfShut isOpen))
  | true =>
    have clients : (s.hub.close h).clients =
        ((s.hub.update h Client.beginClose).update h Client.cancel).clients := by
      rw [Hub.closeOfOpen isOpen]
      exact Hub.finishCloseClients _ h
    have changed := (update s h Client.beginClose).trans (update _ h Client.cancel)
    exact ⟨(congrArg List.length clients).trans changed.clients, rfl,
      fun k other => (congrArg (·[k]?) clients).trans (changed.client k other), fun _ _ => rfl⟩

end Apart

theorem nextApart (s : Session) (h : Handle) (deadline budget : Nat) :
    Apart h s (s.nextInBatch h deadline budget) := by
  cases budget with
  | zero => exact .updateLink s h _
  | succ budget =>
    simp only [nextInBatch]
    split
    · rename_i m s' taken
      obtain ⟨c, rest, -, -, rfl⟩ := dequeued taken
      exact (Apart.update s h _).trans (.updateLink _ h _)
    · exact .updateLink s h _

theorem finishApart (s : Session) (h : Handle) : Apart h s (s.finishWrite h) :=
  ((Apart.close s h).trans (.update _ h Client.markClosed)).trans (.updateLink _ h _)

theorem writeApart (step : WriteStep s h l s') : Apart h s s' := by
  cases step with
  | took _ taken =>
    obtain ⟨c, rest, -, -, rfl⟩ := dequeued taken
    exact (Apart.update s h _).trans (.updateLink _ h _)
  | ended => exact .updateLink s h _
  | ticked => exact .setLink s h _
  | fed => exact (Apart.updateLink s h _).trans (nextApart _ h _ _)
  | batchLost => exact (Apart.note s h _).trans (.updateLink _ h _)
  | flushed => exact .updateLink s h _
  | pinged => exact (Apart.updateLink s h _).trans (.updateLink _ h _)
  | pingLost => exact (Apart.note s h _).trans (.updateLink _ h _)
  | parted => exact (Apart.updateLink s h _).trans (.updateLink _ h _)
  | partingLost => exact .updateLink s h _
  | partingFlushed => exact .updateLink s h _
  | shutDown => exact (Apart.updateLink s h _).trans (finishApart _ h)
  | abandoned => exact finishApart s h

def Turned (smooth : Prop) (h : Handle) (c : Client) (l : Link) (s' : Session) : Prop :=
  ∃ c' l', s'.hub.client? h = some c' ∧ s'.link? h = some l' ∧ l'.sink = l.sink ∧
    (c.queueTaken = true → c'.queueTaken = true) ∧ Wire smooth c' l'.outgoing

theorem turned {smooth : Prop} {c : Client} {l' : Link} (held : s'.hub.client? h = some c)
    (found : s'.link? h = some l') (sink : l'.sink = l.sink) (wire : Wire smooth c l'.outgoing) :
    Turned smooth h c l s' := ⟨c, l', held, found, sink, fun given => given, wire⟩

theorem noteClient (hub : Hub) (h k : Handle) (entry : Client → Log.Entry) :
    (hub.note h entry).client? k = hub.client? k := congrArg (·[k]?) (Hub.noteClients hub h entry)

section Turns
variable {smooth : Prop} {c : Client} (wire : Wire smooth c l.outgoing)
include wire

theorem emptyHandedTurn {l' : Link} (was : l.point.isTalking = true) (bare : l.point.current = [])
    (held' : s'.hub.client? h = some c) (found' : s'.link? h = some l') (sink : l'.sink = l.sink)
    (point : l'.point.isTalking = true) (bare' : l'.point.current = [])
    (data' : l'.outgoing.data = l.outgoing.data)
    (silent' : .close ∉ l.outgoing.frames → .close ∉ l'.outgoing.frames) : Turned smooth h c l s' := by
  obtain ⟨sent, data, spread, silent⟩ := wire.whenTalking was
  refine turned held' found' sink (.talking point (data'.trans data) ?_ (silent' silent))
  have bareHere : l.outgoing.point.current = [] := bare
  have bareThere : l'.outgoing.point.current = [] := bare'
  rw [spread, bareHere, bareThere]

theorem refusedTurn {deadline : Nat} (rough : ¬ smooth)
    (point : l.point.isTalking = true ∨ ∃ deadline, l.point = .goodbye deadline)
    (held' : s'.hub.client? h = some c) (found' : s'.link? h = some { l with point := .shutting deadline }) :
    Turned smooth h c l s' := by
  rcases point with talking | ⟨deadline, parting⟩
  · obtain ⟨sent, data, spread, silent⟩ := wire.whenTalking talking
    refine turned held' found' rfl (.broken rough rfl data ?_ silent)
    rw [spread, List.append_assoc]
    exact List.prefix_append _ _
  · obtain ⟨data, -, silent⟩ := wire.whenParting parting
    exact turned held' found' rfl (.broken rough rfl data (List.prefix_refl _) silent)

variable (found : s.link? h = some l) (held : s.hub.client? h = some c)
include found held

theorem tookTurn {m : Bytes} {budget : Nat} (point : l.point = .idle)
    (taken : s.dequeue? h = some (m, s')) :
    Turned smooth h c l (s'.moveTo h (.feeding s'.writeDeadline m budget)) := by
  obtain ⟨c', rest, held', waits, rfl⟩ := dequeued taken
  cases held.symm.trans held'
  obtain ⟨sent, data, spread, silent⟩ :=
    wire.whenTalking (by simp [Link.outgoing, point, WritePoint.isTalking])
  refine ⟨{ c with queue := rest }, _, ?_, moveToLink found _, rfl, fun given => given, ?_⟩
  · simp [moveTo, Session.updateLink, onHub, Hub.clientUpdate, held]
  · refine .talking rfl data ?_ silent
    simpa [Link.outgoing, point, WritePoint.current, waits, Client.arrived] using spread

theorem endedTurn {deadline : Nat} (point : l.point = .idle) (empty : c.queue = [])
    (gone : c.sender = false) : Turned smooth h c l (s.moveTo h (.goodbye deadline)) := by
  obtain ⟨sent, data, spread, silent⟩ :=
    wire.whenTalking (by simp [Link.outgoing, point, WritePoint.isTalking])
  have all : c.arrived = sent := by simpa [Link.outgoing, point, WritePoint.current, empty] using spread
  exact turned held (moveToLink found _) rfl (.parting rfl (all ▸ data) gone silent)

theorem fedTurn {deadline budget : Nat} {m : Bytes} (point : l.point = .feeding deadline m budget) :
    Turned smooth h c l ((s.put h (.frame (.ofBytes m))).nextInBatch h deadline budget) := by
  obtain ⟨sent, data, spread, silent⟩ :=
    wire.whenTalking (by simp [Link.outgoing, point, WritePoint.isTalking])
  have inHand : l.outgoing.point.current = [m] := by simp [Link.outgoing, point, WritePoint.current]
  rw [inHand] at spread
  have wrote := putLink found (.frame (.ofBytes m))
  -- the message is on the wire now, whatever the loop takes in hand next
  have after : ∀ o : Outgoing, o.written = (s.clock, .frame (.ofBytes m)) :: l.outgoing.written →
      o.data = (sent ++ [m]).map .ofBytes ∧ .close ∉ o.frames := by
    intro o written
    have data' := Outgoing.dataWrote written
    rw [Frame.ofBytesData, if_pos rfl, data] at data'
    exact ⟨by rw [data', List.map_append]; rfl,
      Outgoing.closeUnwritten written (Frame.ofBytesNotClose m) silent⟩
  have flushed : Turned smooth h c l ((s.put h (.frame (.ofBytes m))).moveTo h (.flushing deadline)) := by
    refine turned held (moveToLink wrote _) rfl (.talking rfl (after _ rfl).1 ?_ (after _ rfl).2)
    simpa [Link.outgoing, WritePoint.current] using spread
  cases budget with
  | zero => exact flushed
  | succ budget =>
    simp only [nextInBatch]
    split
    · rename_i m' s' taken
      obtain ⟨c', rest, held', waits, rfl⟩ := dequeued taken
      cases held.symm.trans held'
      refine ⟨{ c with queue := rest }, _, ?_, moveToLink wrote _, rfl, fun given => given, ?_⟩
      · simp [moveTo, put, Session.updateLink, onHub, Hub.clientUpdate, held]
      · refine .talking rfl (after _ rfl).1 ?_ (after _ rfl).2
        simpa [Link.outgoing, WritePoint.current, waits, Client.arrived] using spread
    · exact flushed

theorem partedTurn {deadline : Nat} (point : l.point = .goodbye deadline) :
    Turned smooth h c l ((s.put h (.frame .close)).moveTo h (.goodbyeFlushing deadline)) := by
  obtain ⟨data, gone, silent⟩ := wire.whenParting point
  have wrote := putLink found (.frame .close)
  refine turned held (moveToLink wrote _) rfl (.parted (.inr ⟨deadline, rfl⟩) ?_ gone ?_ silent)
  · exact (Outgoing.dataWrote (o := l.outgoing) (f := .close) rfl).trans data
  · exact Outgoing.framesWrote (o := l.outgoing) rfl

theorem partingFlushedTurn {deadline deadline' : Nat} (point : l.point = .goodbyeFlushing deadline) :
    Turned smooth h c l (s.moveTo h (.shutting deadline')) := by
  refine turned held (moveToLink found _) rfl ?_
  refine wire.whenLeaving ?_ ?_ rfl rfl rfl (fun gone => gone)
  · simp [Link.outgoing, point, WritePoint.isTalking]
  · simp [Link.outgoing, point]

theorem finishTurn {deadline : Nat} (point : l.point = .shutting deadline) :
    Turned smooth h c l (s.finishWrite h) := by
  obtain ⟨c', held', later⟩ := (Hub.Later.dealt (.close s.hub h)).client h c held
  refine ⟨c'.markClosed, { l with point := .finished }, ?_, moveToLink found _, rfl, later.taken, ?_⟩
  · simp [finishWrite, moveTo, Session.updateLink, onHub, Hub.clientUpdate, held']
  · refine (wire.later later).whenLeaving ?_ ?_ rfl rfl rfl (fun gone => gone)
    · simp [Link.outgoing, point, WritePoint.isTalking]
    · simp [Link.outgoing, point]

theorem flushedTurn {deadline : Nat}
    (point : l.point = .flushing deadline ∨ l.point = .pingFlushing deadline) :
    Turned smooth h c l (s.moveTo h .idle) := by
  have was : l.point.isTalking = true ∧ l.point.current = [] := by
    rcases point with point | point <;> simp [point, WritePoint.isTalking, WritePoint.current]
  exact emptyHandedTurn wire was.1 was.2 held (moveToLink found _) rfl rfl rfl rfl (fun silent => silent)

theorem tickedTurn {deadline next : Nat} (point : l.point = .idle) :
    Turned smooth h c l (s.setLink h { l with point := .pinging deadline, nextPing := next }) := by
  have was : l.point.isTalking = true ∧ l.point.current = [] := by
    simp [point, WritePoint.isTalking, WritePoint.current]
  have found' : (s.setLink h { l with point := .pinging deadline, nextPing := next }).link? h =
      some { l with point := .pinging deadline, nextPing := next } := by
    simp [linkSet, linkInside found]
  exact emptyHandedTurn wire was.1 was.2 held found' rfl rfl rfl rfl (fun silent => silent)

theorem pingedTurn {deadline : Nat} (point : l.point = .pinging deadline) :
    Turned smooth h c l ((s.put h (.frame (.ping []))).moveTo h (.pingFlushing deadline)) := by
  have was : l.point.isTalking = true ∧ l.point.current = [] := by
    simp [point, WritePoint.isTalking, WritePoint.current]
  have wrote := putLink found (.frame (.ping []))
  refine emptyHandedTurn wire was.1 was.2 held (moveToLink wrote _) rfl rfl rfl ?_ ?_
  · exact Outgoing.dataWrote (o := l.outgoing) (f := .ping []) rfl
  · exact Outgoing.closeUnwritten (o := l.outgoing) (f := .ping []) rfl (by simp)

theorem wireTurn (calm : smooth → l.sink = .ok) (step : WriteStep s h l s') : Turned smooth h c l s' := by
  have refused : l.sink.accept ≠ .done → ¬ smooth := by
    intro lost smooth
    simp [calm smooth, SinkMode.accept] at lost
  have incomplete : l.sink.complete ≠ .done → ¬ smooth := by
    intro lost smooth
    simp [calm smooth, SinkMode.complete] at lost
  have lost : ∀ {entry deadline}, ¬ smooth → l.point.isTalking = true →
      Turned smooth h c l ((s.onHub (·.note h entry)).moveTo h (.shutting deadline)) :=
    fun rough talking =>
      refusedTurn wire rough (.inl talking) ((noteClient s.hub h h _).trans held) (moveToLink found _)
  cases step with
  | took point taken => exact tookTurn wire found held point taken
  | ended point held' empty gone =>
    cases held.symm.trans held'
    exact endedTurn wire found held point empty gone
  | ticked point _ => exact tickedTurn wire found held point
  | fed point _ => exact fedTurn wire found held point
  | batchLost e cause =>
    rcases cause with ⟨_, _, _, point, failed⟩ | ⟨_, point, failed⟩
    · exact lost (refused failed) (by simp [point, WritePoint.isTalking])
    · exact lost (incomplete failed) (by simp [point, WritePoint.isTalking])
  | flushed point _ => exact flushedTurn wire found held point
  | pinged point _ => exact pingedTurn wire found held point
  | pingLost cause =>
    rcases cause with ⟨_, point, failed⟩ | ⟨_, point, failed⟩
    · exact lost (refused failed) (by simp [point, WritePoint.isTalking])
    · exact lost (incomplete failed) (by simp [point, WritePoint.isTalking])
  | parted point _ => exact partedTurn wire found held point
  | partingLost point failed =>
    exact refusedTurn wire (refused failed) (.inr ⟨_, point⟩) held (moveToLink found _)
  | partingFlushed point => exact partingFlushedTurn wire found held point
  | shutDown point _ =>
    have closed : Wire smooth c (l.record s.clock .closed).outgoing := by
      refine wire.whenLeaving ?_ ?_ (Outgoing.framesClosed rfl) ?_ rfl (fun gone => gone)
      · simp [Link.outgoing, point, WritePoint.isTalking]
      · simp [Link.outgoing, point]
      · simp [Link.outgoing, Link.record, point, WritePoint.isLeaving]
    have finished := finishTurn closed (putLink found .closed) held point
    exact finished
  | abandoned point _ => exact finishTurn wire found held point

end Turns

end Session
end RelayHub
