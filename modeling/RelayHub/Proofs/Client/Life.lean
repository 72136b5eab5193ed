import RelayHub.Proofs.Hub.Dealing
import RelayHub.Proofs.Scene
import Mathlib.Logic.Relation

/-! The life of one client. Any number of calls on it may be under way at once, each in its parts, and so may its
loops; the parts come in any order. What has to be known of the calls is how many of them have got how far. -/
namespace RelayHub

inductive LoopStage where
  | absent
  | running
  | leaving
  | ended
  deriving DecidableEq, Repr

structure Life where
  client : Client
  /- Close calls that have changed the state and not yet cancelled the loops. -/
  cancelling : Nat := 0
  /- Close calls that have done so too and not yet told the hub. -/
  telling : Nat := 0
  loop : LoopStage := .absent
  /- How often close calls have cancelled, and how many events they have submitted. -/
  cancels : Nat := 0
  notices : Nat := 0
  starts : Nat := 0

def ClientState.rank : ClientState → Nat
  | .open => 0
  | .closing => 1
  | .closed => 2

theorem ClientState.closedLast (s : ClientState) : s.rank ≤ ClientState.rank .closed := by
  cases s with
  | «open» | closing | closed => decide

structure Traits where
  id : String
  user : String
  tenant : String
  token : Option String
  onMessage : Option MessageHandler
  onDisconnect : Option DisconnectHandler

def Client.traits (c : Client) : Traits := ⟨c.id, c.user, c.tenant, c.token, c.onMessage, c.onDisconnect⟩

theorem Client.beginCloseTraits (c : Client) : c.beginClose.traits = c.traits := by
  unfold beginClose
  split
  · rfl
  · rfl

namespace Life

def ofProfile (p : Profile) : Life := { client := p.client }

def close (l : Life) : Life :=
  { l with
    client := l.client.beginClose
    cancelling := if l.client.isOpen then l.cancelling + 1 else l.cancelling }

/- One part of one call or one step of a loop. The read loop makes calls only. A start call without the queue
ends at once, and a hub whose loop is gone answers a notice with a close call of its own. -/
inductive Step (capacity : Nat) (l : Life) : Life → Prop where
  | send (m : Bytes) : Step capacity l { l with client := (l.client.offer capacity m).2 }
  | close : Step capacity l l.close
  | cancel {n : Nat} (begun : l.cancelling = n + 1) : Step capacity l { l with
      client := l.client.cancel
      cancelling := n
      telling := l.telling + 1
      cancels := l.cancels + 1 }
  | unheard {n : Nat} (cancelled : l.telling = n + 1) : Step capacity l { l with telling := n }
  | told {n : Nat} (cancelled : l.telling = n + 1) :
      Step capacity l { l with telling := n, notices := l.notices + 1 }
  | refused {n : Nat} (cancelled : l.telling = n + 1) : Step capacity l { l with telling := n }.close
  | takeQueue {c : Client} (given : l.client.takeQueue = some c) :
      Step capacity l { l with client := c, starts := l.starts + 1 }
  | markStarted : Step capacity l { l with client := l.client.markStarted }
  | spawn (given : l.client.queueTaken = true) (absent : l.loop = .absent) :
      Step capacity l { l with loop := .running }
  | dequeue {m : Bytes} {c : Client} (running : l.loop = .running) (taken : l.client.dequeue = some (m, c)) :
      Step capacity l { l with client := c }
  | leave (running : l.loop = .running) : Step capacity l { l.close with loop := .leaving }
  | markClosed (leaving : l.loop = .leaving) :
      Step capacity l { l with client := l.client.markClosed, loop := .ended }
  | setMetadata (metadata : Table Json) : Step capacity l { l with client := { l.client with metadata } }

def Later (capacity : Nat) : Life → Life → Prop := Relation.ReflTransGen (Step capacity)

def Lived (capacity : Nat) (l : Life) : Prop := ∃ p, Later capacity (ofProfile p) l

theorem Lived.later {capacity : Nat} {l l' : Life} (lived : Lived capacity l) (later : Later capacity l l') :
    Lived capacity l' :=
  lived.imp fun _ before => before.trans later

structure Sound (capacity : Nat) (l : Life) : Prop where
  honest : l.client.sender = l.client.isOpen
  begun : l.client.state = .closing → l.client.started = true
  room : l.client.queue.length ≤ capacity
  once : l.cancels + l.cancelling = if l.client.isOpen then 0 else 1
  told : l.notices + l.telling ≤ l.cancels
  cancelled : l.client.cancelled = true ↔ 0 < l.cancels
  given : l.starts = if l.client.queueTaken then 1 else 0
  left : l.loop = .leaving ∨ l.loop = .ended → l.client.isOpen = false
  ended : l.loop = .ended → l.client.state = .closed

section Close
variable {l : Life}

theorem closeShut (shut : l.client.isOpen = false) : l.close = l := by
  simp [close, shut, Client.beginCloseOfShut shut]

theorem closedNow (l : Life) : l.close.client.isOpen = false := by
  have face := Client.beginCloseFace l.client
  exact congrArg Face.isOpen face

theorem closeSound {capacity : Nat} (sound : l.Sound capacity) : l.close.Sound capacity := by
  cases isOpen : l.client.isOpen with
  | false =>
    rw [closeShut isOpen]
    exact sound
  | true =>
    have fresh : l.client.state = .open := by simpa [Client.isOpen] using isOpen
    have once := sound.once
    simp only [isOpen, if_true, Nat.add_eq_zero_iff] at once
    have shape : l.close = { l with
        client := { l.client with sender := false, state := if l.client.started then .closing else .closed }
        cancelling := l.cancelling + 1 } := by
      simp [close, Client.beginClose, isOpen, fresh]
    have shut := closedNow l
    rw [shape] at shut ⊢
    have running : l.loop ≠ .ended := fun ended => by
      have closed := sound.ended ended
      exact absurd (fresh.symm.trans closed) (by decide)
    refine ⟨shut.symm, fun closing => ?_, sound.room, ?_, sound.told, sound.cancelled, sound.given, fun _ => shut,
      fun ended => absurd ended running⟩
    · cases started : l.client.started with
      | true => rfl
      | false => simp [started] at closing
    · rw [shut]
      simp [once.1, once.2]

end Close

variable {capacity : Nat} {l l' : Life}

theorem profileSound (capacity : Nat) (p : Profile) : (ofProfile p).Sound capacity where
  honest := rfl
  begun := nofun
  room := Nat.zero_le _
  once := rfl
  told := Nat.le_refl _
  cancelled := by simp [ofProfile, Profile.client]
  given := rfl
  left := by simp [ofProfile]
  ended := by simp [ofProfile]

theorem stepSound (sound : l.Sound capacity) (step : Step capacity l l') : l'.Sound capacity := by
  obtain ⟨honest, begun, room, once, told, cancelled, given, left, ended⟩ := sound
  cases step with
  | send m =>
    have room := Client.offerRoom room m
    obtain ⟨queue, accepted, offered⟩ := l.client.offerKeeps capacity m
    rw [offered] at room ⊢
    exact ⟨honest, begun, room, once, told, cancelled, given, left, ended⟩
  | close => exact closeSound ⟨honest, begun, room, once, told, cancelled, given, left, ended⟩
  | cancel pending =>
    refine ⟨honest, begun, room, ?_, ?_, ⟨fun _ => Nat.succ_pos _, fun _ => rfl⟩, given, left, ended⟩
    · rw [pending] at once
      exact (Nat.succ_add_eq_add_succ ..).trans once
    · exact Nat.succ_le_succ told
  | unheard pending =>
    rw [pending] at told
    exact ⟨honest, begun, room, once, Nat.le_of_succ_le told, cancelled, given, left, ended⟩
  | told pending =>
    rw [pending] at told
    refine ⟨honest, begun, room, once, ?_, cancelled, given, left, ended⟩
    exact (Nat.succ_add_eq_add_succ ..).trans_le told
  | refused pending =>
    rw [pending] at told
    refine closeSound ⟨honest, begun, room, once, Nat.le_of_succ_le told, cancelled, given, left, ended⟩
  | takeQueue taken =>
    obtain ⟨free, rfl⟩ := Client.takeQueueGiven taken
    rw [free] at given
    exact ⟨honest, begun, room, once, told, cancelled, congrArg (· + 1) given, left, ended⟩
  | markStarted => exact ⟨honest, fun _ => rfl, room, once, told, cancelled, given, left, ended⟩
  | spawn _ _ => exact ⟨honest, begun, room, once, told, cancelled, given, by simp, by simp⟩
  | dequeue _ taken =>
    obtain ⟨rest, waiting, rfl⟩ := Client.dequeueTaken taken
    rw [waiting] at room
    exact ⟨honest, begun, Nat.le_of_succ_le room, once, told, cancelled, given, left, ended⟩
  | leave _ =>
    have shut := closedNow l
    obtain ⟨honest, begun, room, once, told, cancelled, given, -, -⟩ :=
      closeSound ⟨honest, begun, room, once, told, cancelled, given, left, ended⟩
    exact ⟨honest, begun, room, once, told, cancelled, given, fun _ => shut, by simp⟩
  | markClosed leaving =>
    -- the loop has left by a close call of its own, so the mark changes nothing that counts
    have shut := left (.inl leaving)
    rw [shut] at honest once
    exact ⟨honest, by simp [Client.markClosed], Nat.zero_le _, once, told, cancelled, given, fun _ => rfl, fun _ => rfl⟩
  | setMetadata => exact ⟨honest, begun, room, once, told, cancelled, given, left, ended⟩

theorem livedSound (lived : Lived capacity l) : l.Sound capacity := by
  obtain ⟨p, later⟩ := lived
  induction later with
  | refl => exact profileSound capacity p
  | tail _ step sound => exact stepSound sound step

theorem beginCloseForward (c : Client) : c.state.rank ≤ c.beginClose.state.rank := by
  unfold Client.beginClose
  split
  · rename_i fresh
    rw [fresh]
    exact Nat.zero_le _
  · exact Nat.le_refl _

theorem stepForward (step : Step capacity l l') : l.client.state.rank ≤ l'.client.state.rank := by
  cases step with
  | send m =>
    obtain ⟨queue, accepted, offered⟩ := l.client.offerKeeps capacity m
    rw [offered]
  | close | refused | leave => exact beginCloseForward l.client
  | takeQueue taken =>
    obtain ⟨-, rfl⟩ := Client.takeQueueGiven taken
    exact Nat.le_refl _
  | dequeue _ taken =>
    obtain ⟨rest, -, rfl⟩ := Client.dequeueTaken taken
    exact Nat.le_refl _
  | markClosed => exact ClientState.closedLast _
  | cancel | unheard | told | markStarted | spawn | setMetadata => exact Nat.le_refl _

theorem laterForward (later : Later capacity l l') : l.client.state.rank ≤ l'.client.state.rank := by
  induction later with
  | refl => exact Nat.le_refl _
  | tail _ step before => exact before.trans (stepForward step)

theorem stepTraits (step : Step capacity l l') : l'.client.traits = l.client.traits := by
  cases step with
  | send m =>
    obtain ⟨queue, accepted, offered⟩ := l.client.offerKeeps capacity m
    rw [offered]
    rfl
  | close | refused | leave => exact l.client.beginCloseTraits
  | takeQueue taken =>
    obtain ⟨-, rfl⟩ := Client.takeQueueGiven taken
    rfl
  | dequeue _ taken =>
    obtain ⟨rest, -, rfl⟩ := Client.dequeueTaken taken
    rfl
  | cancel | unheard | told | markStarted | markClosed | spawn | setMetadata => rfl

theorem laterTraits (later : Later capacity l l') : l'.client.traits = l.client.traits := by
  induction later with
  | refl => rfl
  | tail _ step before => exact (stepTraits step).trans before

structure Orderly (capacity : Nat) (l : Life) : Prop where
  sender : l.client.sender = true ↔ l.client.state = .open
  begun : l.client.state = .closing → l.client.started = true
  forward : ∀ l', Later capacity l l' → l.client.state.rank ≤ l'.client.state.rank
  silent : l.client.state ≠ .open → ∀ m, l.client.offer capacity m = (.closed, l.client)
  shut : l.client.state ≠ .open → l.close = l
  cancels : l.cancels + l.cancelling = if l.client.state = .open then 0 else 1
  cancelled : l.client.cancelled = true ↔ 0 < l.cancels
  notices : l.notices ≤ 1
  given : l.starts = if l.client.queueTaken then 1 else 0
  starts : l.starts ≤ 1
  room : l.client.queue.length ≤ capacity
  working : l.client.state = .open → l.loop = .absent ∨ l.loop = .running
  accepts : l.client.state = .open → ∀ m,
    (l.client.offer capacity m).1 = .accepted ↔ l.client.queue.length < capacity
  refuses : ∀ m, (l.client.offer capacity m).1 ≠ .accepted → (l.client.offer capacity m).2 = l.client

theorem orderly (lived : Lived capacity l) : l.Orderly capacity := by
  have sound := livedSound lived
  have isOpen : l.client.isOpen = true ↔ l.client.state = .open := by simp [Client.isOpen]
  have isShut : l.client.state ≠ .open → l.client.isOpen = false := by simp [Client.isOpen]
  have once : l.cancels + l.cancelling = if l.client.state = .open then 0 else 1 := by
    simpa only [isOpen] using sound.once
  refine ⟨sound.honest ▸ isOpen, sound.begun, fun _ => laterForward, fun shut m => ?_,
    fun shut => closeShut (isShut shut), once, sound.cancelled, ?_, sound.given, ?_, sound.room, fun fresh => ?_,
    fun fresh m => ?_, fun m => ?_⟩
  · have gone : l.client.sender = false := sound.honest.trans (isShut shut)
    simp [Client.offer, gone]
  · have told := sound.told
    split at once
    · omega
    · omega
  · rw [sound.given]
    split
    · exact Nat.le_refl 1
    · exact Nat.zero_le 1
  · have left := sound.left
    rw [isOpen.mpr fresh] at left
    cases stage : l.loop with
    | absent => exact .inl rfl
    | running => exact .inr rfl
    | leaving => exact absurd (left (.inl stage)) (by simp)
    | ended => exact absurd (left (.inr stage)) (by simp)
  · have sending : l.client.sender = true := sound.honest.trans (isOpen.mpr fresh)
    rcases l.client.offerCases capacity m with ⟨gone, -⟩ | ⟨-, free, offered⟩ | ⟨-, full, offered⟩
    · exact absurd (sending.symm.trans gone) (by simp)
    · simp [offered, free]
    · simp [offered, full]
  · rcases l.client.offerCases capacity m with ⟨-, offered⟩ | ⟨-, -, offered⟩ | ⟨-, -, offered⟩
    · simp [offered]
    · simp [offered]
    · simp [offered]

end Life
end RelayHub
