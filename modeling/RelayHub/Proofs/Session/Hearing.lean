import RelayHub.Proofs.Session.Sending

/-! What a read loop makes of what comes in. It takes the items one by one, in the order in which they came; a
message handler is given the payloads, and the end of the loop is the business of the disconnect handler. -/
namespace RelayHub

def Incoming.payloads (items : List Incoming) : List Bytes :=
  (items.takeWhile fun item => !item.ends).filterMap payload?

def Client.audible (c : Client) (items : List Incoming) : List Bytes :=
  if c.onMessage.isSome then Incoming.payloads items else []

theorem Incoming.payloadsAppend {items : List Incoming} (plain : ∀ item ∈ items, item.ends = false)
    (rest : List Incoming) : payloads (items ++ rest) = items.filterMap payload? ++ payloads rest := by
  have all : ∀ item ∈ items, (!item.ends) = true := fun item member => by simp [plain item member]
  rw [payloads, List.takeWhile_append_of_pos all, List.filterMap_append, payloads]

structure Inward where
  reading : Option Nat
  incoming : List Incoming
  handled : List Bytes
  disconnects : Nat

namespace Link

def inward (l : Link) : Inward := ⟨l.reading, l.incoming, l.handled, l.disconnects⟩

def unread (l : Link) (c : Client) : Link :=
  { l with
    reading := none
    disconnects := if c.onDisconnect.isSome then l.disconnects + 1 else l.disconnects }

def read (l : Link) (c : Client) (deadline : Nat) (item : Incoming) : Link :=
  if item.ends then l.unread c
  else { l with
    reading := if item = .pong then some deadline else l.reading
    handled := if c.onMessage.isSome then l.handled ++ item.payload?.toList else l.handled }

end Link

namespace Session

theorem runHandlerLink (s : Session) (h k : Handle) (data : Bytes) (handler : MessageHandler) :
    (s.runHandler h data handler).link? k = s.link? k := by
  cases handler with
  | relay =>
    simp only [runHandler]
    split
    · rfl
    · rfl
  | record | reject | echo | close => rfl

section Elsewhere
variable (s : Session) {h k : Handle} (other : k ≠ h)
include other

theorem handleElsewhere (data : Bytes) : (s.handle h data).link? k = s.link? k := by
  unfold handle
  split
  · rfl
  · rw [runHandlerLink, linkUpdate, if_neg other]

theorem finishReadElsewhere : (s.finishRead h).link? k = s.link? k := by
  have ended : (s.updateLink h fun l => { l with reading := none }).link? k = s.link? k := by
    rw [linkUpdate, if_neg other]
  rw [← ended]
  simp only [finishRead, runDisconnect]
  split
  · rfl
  · rename_i handler _
    cases handler with
    | accept | reject => exact (linkUpdate _ h k _).trans (if_neg other)

theorem readElsewhere {s' : Session} {l : Link} {t : Turn} (step : ReadStep s h l t s') : s'.link? k = s.link? k := by
  have popped : ∀ rest, (s.setLink h { l with incoming := rest }).link? k = s.link? k := fun rest => by
    rw [linkSet, if_neg fun here => other here.1]
  cases step with
  | heard => exact (handleElsewhere _ other _).trans (popped _)
  | ignored => exact popped _
  | pong => rw [linkUpdate, if_neg other, popped]
  | ended _ _ noted => exact ((finishReadElsewhere _ other).trans (noted.link k)).trans (popped _)
  | cancelled => exact finishReadElsewhere s other
  | expired _ _ _ noted => exact (finishReadElsewhere _ other).trans (noted.link k)

end Elsewhere

section Here
variable {s s' : Session} {h : Handle} {c : Client} {l : Link}
variable (held : s.hub.client? h = some c) (found : s.link? h = some l)
include held found

theorem handleHere (data : Bytes) : (s.handle h data).link? h =
    some { l with handled := if c.onMessage.isSome then l.handled ++ [data] else l.handled } := by
  unfold handle
  rw [held, Option.bind_some]
  cases c.onMessage with
  | none => exact found
  | some handler =>
    simp only [runHandlerLink, linkUpdate, found]
    rfl

theorem finishReadHere : (s.finishRead h).link? h = some (l.unread c) := by
  have ended : (s.updateLink h fun l => { l with reading := none }).link? h = some { l with reading := none } := by
    rw [linkUpdate, if_pos rfl, found]
    rfl
  simp only [finishRead, runDisconnect]
  rw [show ∀ entry, ((s.updateLink h fun l => { l with reading := none }).onHub (·.note h entry)).hub.client? h =
    some c from fun entry => (noteClient s.hub h h entry).trans held, Option.bind_some]
  unfold Link.unread
  cases c.onDisconnect with
  | none => exact ended
  | some handler =>
    cases handler with
    | accept | reject =>
      refine (linkUpdate _ h h _).trans ?_
      rw [if_pos rfl]
      exact congrArg (Option.map _) ended

end Here

section Turn
variable {s s' : Session} {h k : Handle} {c : Client} {l : Link}

inductive Hearing (s : Session) (h : Handle) (c : Client) (l : Link) : Turn → Link → Prop where
  | next {item : Incoming} {rest : List Incoming} (reads : l.readDone = false)
      (waits : l.incoming = item :: rest) :
      Hearing s h c l (.readNext h) ({ l with incoming := rest }.read c s.readDeadline item)
  | cancelled (reads : l.readDone = false) (cancelled : c.cancelled = true) :
      Hearing s h c l (.readCancelled h) (l.unread c)
  | expired {deadline : Nat} (reading : l.reading = some deadline) (idle : l.incoming = [])
      (due : deadline ≤ s.clock) : Hearing s h c l (.readExpired h) (l.unread c)

theorem readHeard {t : Turn} (held : s.hub.client? h = some c) (found : s.link? h = some l)
    (reads : l.readDone = false) (step : ReadStep s h l t s') : ∃ l', s'.link? h = some l' ∧ Hearing s h c l t l' := by
  have popped : ∀ rest, (s.setLink h { l with incoming := rest }).link? h = some { l with incoming := rest } :=
    fun rest => by rw [linkSet, if_pos ⟨rfl, linkInside found⟩]
  have ended : ∀ {u u' : Session} {l' : Link}, Noted u h u' → u.hub.client? h = some c → u.link? h = some l' →
      (u'.finishRead h).link? h = some (l'.unread c) := fun noted held found =>
    finishReadHere ((congrArg (·[h]?) noted.clients).trans held) ((noted.link h).trans found)
  cases step with
  | @heard item rest data waits payload =>
    refine ⟨_, handleHere (s := s.setLink h _) held (popped rest) data, ?_⟩
    have told := Hearing.next (s := s) (h := h) (c := c) reads waits
    cases item with
    | text | binary => cases Option.some.inj payload; exact told
    | _ => contradiction
  | @ignored item rest waits plain =>
    refine ⟨_, popped rest, ?_⟩
    have told := Hearing.next (s := s) (h := h) (c := c) reads waits
    rcases plain with rfl | rfl
    · simpa [Link.read, Incoming.ends, Incoming.payload?] using told
    · simpa [Link.read, Incoming.ends, Incoming.payload?] using told
  | @pong rest waits =>
    have told := Hearing.next (s := s) (h := h) (c := c) reads waits
    refine ⟨_, by rw [linkUpdate, if_pos rfl, popped]; rfl, ?_⟩
    simpa [Link.read, Incoming.ends, Incoming.payload?] using told
  | @ended item rest _ waits ends noted =>
    have told := Hearing.next (s := s) (h := h) (c := c) reads waits
    rw [Link.read, if_pos ends] at told
    exact ⟨_, ended noted held (popped rest), told⟩
  | cancelled held' cancelled =>
    cases held.symm.trans held'
    exact ⟨_, finishReadHere held found, .cancelled reads cancelled⟩
  | expired reading idle due noted => exact ⟨_, ended noted held found, .expired reading idle due⟩

end Turn

section Write
variable {s s' : Session} {h : Handle} {l : Link}

theorem nextInwardKept (found : s.link? h = some l) (deadline budget : Nat) :
    ∃ l', (s.nextInBatch h deadline budget).link? h = some l' ∧ l'.inward = l.inward := by
  cases budget with
  | zero => exact ⟨_, moveToLink found _, rfl⟩
  | succ budget =>
    simp only [nextInBatch]
    split
    · rename_i m s' taken
      obtain ⟨c, rest, -, -, rfl⟩ := dequeued taken
      exact ⟨_, moveToLink found _, rfl⟩
    · exact ⟨_, moveToLink found _, rfl⟩

theorem writeInwardKept (found : s.link? h = some l) (step : WriteStep s h l s') :
    ∃ l', s'.link? h = some l' ∧ l'.inward = l.inward := by
  cases step with
  | took _ taken =>
    obtain ⟨c, rest, -, -, rfl⟩ := dequeued taken
    exact ⟨_, moveToLink found _, rfl⟩
  | fed => exact nextInwardKept (putLink found _) _ _
  | ticked => exact ⟨_, (linkSet ..).trans (if_pos ⟨rfl, linkInside found⟩), rfl⟩
  | ended | flushed | partingLost | partingFlushed | batchLost | pingLost =>
    exact ⟨_, moveToLink found _, rfl⟩
  | pinged | parted => exact ⟨_, moveToLink (putLink found _) _, rfl⟩
  | shutDown => exact ⟨_, moveToLink (putLink found _) _, rfl⟩
  | abandoned => exact ⟨_, moveToLink found _, rfl⟩

end Write

end Session
end RelayHub
