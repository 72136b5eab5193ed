import RelayHub.Proofs.Hub.Dealing
import RelayHub.Session.Turn

/-! All that one turn of a read loop can do, with the condition under which it does it. Beside the outgoing sides of
all connections it only makes calls on the hub. -/
namespace RelayHub

def Incoming.ends : Incoming → Bool
  | .close _ | .fault _ | .finish => true
  | .text _ | .binary _ | .ping | .pong | .raw => false

def Incoming.payload? : Incoming → Option Bytes
  | .text data | .binary data => some data
  | _ => none

structure Outgoing where
  point : WritePoint
  nextPing : Nat
  sink : SinkMode
  written : List (Nat × Written)

def Link.outgoing (l : Link) : Outgoing := ⟨l.point, l.nextPing, l.sink, l.written⟩

namespace Session
open Hub (Calls)

def outgoing? (s : Session) (h : Handle) : Option Outgoing := (s.link? h).map Link.outgoing

structure Aside (asked : List Handle) (s s' : Session) : Prop where
  hub : Calls asked s.hub s'.hub
  outgoing : ∀ k, s'.outgoing? k = s.outgoing? k
  links : s'.links.length = s.links.length
  clock : s'.clock = s.clock

theorem Aside.refl (s : Session) : Aside [] s s := ⟨.refl s.hub, fun _ => rfl, rfl, rfl⟩

theorem Aside.trans {a b c : Session} (first : Aside [] a b) (second : Aside [] b c) : Aside [] a c :=
  ⟨first.hub.trans second.hub, fun k => (second.outgoing k).trans (first.outgoing k),
    second.links.trans first.links, second.clock.trans first.clock⟩

theorem Aside.onHub (s : Session) {asked : List Handle} {f : Hub → Hub} (calls : Calls asked s.hub (f s.hub)) :
    Aside asked s (s.onHub f) := ⟨calls, fun _ => rfl, rfl, rfl⟩

theorem linkUpdate (s : Session) (h k : Handle) (f : Link → Link) :
    (s.updateLink h f).link? k = if k = h then (s.link? k).map f else s.link? k := by
  simp only [updateLink, link?, List.getElem?_modify]
  by_cases e : h = k
  · subst e
    cases s.links[h]? with
    | none => simp
    | some l => cases l <;> simp
  · have e' : ¬ k = h := fun x => e x.symm
    simp [e, e']

theorem linkSet (s : Session) (h k : Handle) (l : Link) :
    (s.setLink h l).link? k =
      if k = h ∧ h < s.links.length then some l else s.link? k := by
  simp only [setLink, link?, List.getElem?_set]
  by_cases e : h = k
  · subst e
    by_cases inside : h < s.links.length
    · simp [inside]
    · simp [inside]
  · have e' : ¬ k = h := fun x => e x.symm
    simp [e, e']

theorem linkBuild (s : Session) (c : Client) (k : Handle) : (s.build c).2.link? k = s.link? k := by
  simp only [build, link?, List.getElem?_append]
  split
  · rfl
  · rename_i outside
    rw [List.getElem?_eq_none (Nat.le_of_not_lt outside)]
    cases k - s.links.length <;> rfl

theorem linkInside {s : Session} {h : Handle} {l : Link} (found : s.link? h = some l) :
    h < s.links.length := by
  obtain ⟨held, there, -⟩ := Option.bind_eq_some_iff.mp found
  exact (List.getElem?_eq_some_iff.mp there).1

theorem Aside.updateLink (s : Session) (h : Handle) {f : Link → Link}
    (kept : ∀ l, (f l).outgoing = l.outgoing) : Aside [] s (s.updateLink h f) where
  hub := .refl s.hub
  outgoing k := by
    simp only [outgoing?, linkUpdate]
    split
    · cases s.link? k <;> simp [kept]
    · rfl
  links := by simp [Session.updateLink]
  clock := rfl

theorem Aside.setLink {s : Session} {h : Handle} {l l' : Link} (found : s.link? h = some l)
    (kept : l'.outgoing = l.outgoing) : Aside [] s (s.setLink h l') where
  hub := .refl s.hub
  outgoing k := by
    simp only [outgoing?, linkSet]
    split
    · rename_i here
      rw [here.1, found]
      simp [kept]
    · rfl
  links := by simp [Session.setLink]
  clock := rfl

section Aside
variable (s : Session) (h : Handle)

theorem asideNote (entry : Client → Log.Entry) : Aside [] s (s.onHub (·.note h entry)) :=
  .onHub s (Calls.note s.hub h entry)

theorem asideRunHandler (data : Bytes) (handler : MessageHandler) :
    Aside [] s (s.runHandler h data handler) := by
  cases handler with
  | relay =>
    simp only [runHandler]
    split
    · exact .onHub s (Calls.relay s.hub h data)
    · exact .refl s
  | record => exact .refl s
  | reject reason => exact asideNote s h _
  | echo =>
    simp only [runHandler]
    exact .onHub s (Calls.send s.hub h data)
  | close =>
    simp only [runHandler]
    exact .onHub s (Calls.close s.hub h)

theorem asideHandle (data : Bytes) : Aside [] s (s.handle h data) := by
  unfold handle
  split
  · exact .refl s
  · refine Aside.trans ?_ (asideRunHandler _ h data _)
    exact .updateLink s h fun _ => rfl

theorem asideRunDisconnect : Aside [] s (s.runDisconnect h) := by
  unfold runDisconnect
  split
  · exact .refl s
  · rename_i handler _
    cases handler with
    | accept => exact .updateLink s h fun _ => rfl
    | reject reason =>
      refine Aside.trans ?_ (asideNote _ h _)
      exact .updateLink s h fun _ => rfl

theorem asideFinishRead : Aside [] s (s.finishRead h) := by
  unfold finishRead
  refine Aside.trans ?_ (.onHub _ (Calls.close _ h))
  refine Aside.trans ?_ (asideRunDisconnect _ h)
  refine Aside.trans ?_ (asideNote _ h _)
  exact .updateLink s h fun _ => rfl

end Aside

section Step
variable {s s' : Session} {h : Handle} {l : Link}

def readDeadline (s : Session) : Nat := s.clock + s.config.pongWait.nanos

def Turn.reader? : Turn → Option Handle
  | .readCancelled h | .readNext h | .readExpired h => some h
  | _ => none

inductive Noted (s : Session) (h : Handle) : Session → Prop where
  | silent : Noted s h s
  | line (entry : Client → Log.Entry) : Noted s h (s.onHub (·.note h entry))

inductive ReadStep (s : Session) (h : Handle) (l : Link) : Turn → Session → Prop where
  | heard {item : Incoming} {rest : List Incoming} {data : Bytes} (waits : l.incoming = item :: rest)
      (payload : item.payload? = some data) :
      ReadStep s h l (.readNext h) ((s.setLink h { l with incoming := rest }).handle h data)
  | ignored {item : Incoming} {rest : List Incoming} (waits : l.incoming = item :: rest)
      (plain : item = .ping ∨ item = .raw) : ReadStep s h l (.readNext h) (s.setLink h { l with incoming := rest })
  | pong {rest : List Incoming} (waits : l.incoming = .pong :: rest) :
      ReadStep s h l (.readNext h)
        ((s.setLink h { l with incoming := rest }).updateLink h fun l => { l with reading := some s.readDeadline })
  | ended {item : Incoming} {rest : List Incoming} {t : Session} (waits : l.incoming = item :: rest)
      (ends : item.ends = true) (noted : Noted (s.setLink h { l with incoming := rest }) h t) :
      ReadStep s h l (.readNext h) (t.finishRead h)
  | cancelled {c : Client} (held : s.hub.client? h = some c) (cancelled : c.cancelled = true) :
      ReadStep s h l (.readCancelled h) (s.finishRead h)
  | expired {deadline : Nat} {t : Session} (reading : l.reading = some deadline) (idle : l.incoming = [])
      (due : deadline ≤ s.clock) (noted : Noted s h t) : ReadStep s h l (.readExpired h) (t.finishRead h)

theorem itemStep {item : Incoming} {rest : List Incoming} (waits : l.incoming = item :: rest) :
    ReadStep s h l (.readNext h) ((s.setLink h { l with incoming := rest }).readItem h item) := by
  cases item with
  | text data | binary data => exact .heard waits rfl
  | ping => exact .ignored waits (.inl rfl)
  | raw => exact .ignored waits (.inr rfl)
  | pong => exact .pong waits
  | fault f => exact .ended waits rfl (.line _)
  | finish => exact .ended waits rfl .silent
  | close code =>
    cases code with
    | none => exact .ended waits rfl .silent
    | some code =>
      simp only [readItem]
      split
      · exact .ended waits rfl .silent
      · exact .ended waits rfl (.line _)

theorem readNextStep (read : s.readNext? h = some s') :
    ∃ l, s.link? h = some l ∧ l.readDone = false ∧ ReadStep s h l (.readNext h) s' := by
  obtain ⟨l, found, read⟩ := Option.bind_eq_some_iff.mp read
  obtain ⟨deadline, reading, read⟩ := Option.bind_eq_some_iff.mp read
  refine ⟨l, found, by simp [Link.readDone, reading], ?_⟩
  split at read
  · contradiction
  · rename_i waits
    cases Option.some.inj read
    exact itemStep waits

theorem readCancelledStep (read : s.readCancelled? h = some s') :
    ∃ l, s.link? h = some l ∧ l.readDone = false ∧ ReadStep s h l (.readCancelled h) s' := by
  obtain ⟨l, found, read⟩ := Option.bind_eq_some_iff.mp read
  obtain ⟨deadline, reading, read⟩ := Option.bind_eq_some_iff.mp read
  obtain ⟨c, held, read⟩ := Option.bind_eq_some_iff.mp read
  refine ⟨l, found, by simp [Link.readDone, reading], ?_⟩
  split at read
  · rename_i cancelled
    cases Option.some.inj read
    exact .cancelled held cancelled
  · contradiction

theorem readExpiredStep (read : s.readExpired? h = some s') :
    ∃ l, s.link? h = some l ∧ l.readDone = false ∧ ReadStep s h l (.readExpired h) s' := by
  obtain ⟨l, found, read⟩ := Option.bind_eq_some_iff.mp read
  obtain ⟨deadline, reading, read⟩ := Option.bind_eq_some_iff.mp read
  refine ⟨l, found, by simp [Link.readDone, reading], ?_⟩
  split at read
  · rename_i due
    cases Option.some.inj read
    exact .expired reading (List.isEmpty_iff.mp due.1) due.2 (.line _)
  · contradiction

theorem readStep {t : Turn} (reader : t.reader? = some h) (taken : s.take? t = some s') :
    ∃ l, s.link? h = some l ∧ l.readDone = false ∧ ReadStep s h l t s' := by
  cases t with
  | readNext =>
    cases Option.some.inj reader
    exact readNextStep taken
  | readCancelled =>
    cases Option.some.inj reader
    exact readCancelledStep taken
  | readExpired =>
    cases Option.some.inj reader
    exact readExpiredStep taken
  | _ => contradiction

theorem Noted.aside (noted : Noted s h s') : Aside [] s s' := by
  cases noted with
  | silent => exact .refl s
  | line entry => exact asideNote s h entry

theorem Noted.clients (noted : Noted s h s') : s'.hub.clients = s.hub.clients := by
  cases noted with
  | silent => rfl
  | line entry => exact Hub.noteClients s.hub h entry

theorem Noted.link (noted : Noted s h s') (k : Handle) : s'.link? k = s.link? k := by
  cases noted with
  | silent | line => rfl

theorem readAside {t : Turn} (found : s.link? h = some l) (step : ReadStep s h l t s') : Aside [] s s' := by
  have popped : ∀ rest, Aside [] s (s.setLink h { l with incoming := rest }) := fun _ => .setLink found rfl
  cases step with
  | heard => exact (popped _).trans (asideHandle _ h _)
  | ignored => exact popped _
  | pong => exact (popped _).trans (.updateLink _ h fun _ => rfl)
  | ended _ _ noted => exact ((popped _).trans noted.aside).trans (asideFinishRead _ h)
  | cancelled => exact asideFinishRead s h
  | expired _ _ _ noted => exact noted.aside.trans (asideFinishRead _ h)

end Step

theorem asideReceive (s : Session) (h : Handle) (item : Incoming) : Aside [] s (s.receive h item).2 := by
  unfold receive
  split
  · exact .refl s
  · rename_i l found
    split
    · exact .refl s
    · exact .setLink found rfl

end Session
end RelayHub
