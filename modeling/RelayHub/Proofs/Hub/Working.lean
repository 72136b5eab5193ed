import RelayHub.Proofs.Hub.Filing
import RelayHub.Session.Turn

/-! What is left to do in a hub: the steps of its loop, the events that wait and the messages that wait for the write
loops of its clients. Every step of the loop makes it less, closing a client never makes it more, and a frame
adds no more to it than one delivery for each client and one reply. -/
namespace RelayHub
open Session (clientWork loopWork)

theorem sumModify {α : Type} {l : List α} {i : Nat} {x : α} (here : l[i]? = some x) (f : α → α) (g : α → Nat) :
    ((l.modify i f).map g).sum + g x = (l.map g).sum + g (f x) := by
  induction l generalizing i with
  | nil => simp at here
  | cons y rest ih =>
    cases i with
    | zero =>
      cases Option.some.inj here
      simp only [List.modify_zero_cons, List.map_cons, List.sum_cons]
      omega
    | succ i =>
      have later := ih (i := i) here
      simp only [List.modify_succ_cons, List.map_cons, List.sum_cons] at later ⊢
      omega

namespace Client

theorem workShut {c : Client} (isOpen : c.isOpen = true) : clientWork c.beginClose + 2 = clientWork c := by
  have state : c.state = .open := of_decide_eq_true isOpen
  cases started : c.started with
  | true | false => simp [clientWork, beginClose, Client.isOpen, state, started]

theorem workOffer (c : Client) (capacity : Nat) (m : Bytes) :
    clientWork (c.offer capacity m).2 ≤ clientWork c + 3 := by
  rcases c.offerCases capacity m with ⟨-, offered⟩ | ⟨-, -, offered⟩ | ⟨-, -, offered⟩
  · simp [offered]
  · rw [offered]
    show 3 * (c.queue ++ [m]).length + (if c.isOpen then 2 else 0) ≤ clientWork c + 3
    rw [List.length_append, List.length_singleton, clientWork]
    omega
  · simp [offered]

end Client

namespace Hub

def work (hub : Hub) : Nat :=
  (hub.clients.map clientWork).sum + hub.events.length + loopWork hub.loop +
    (hub.runs.filter RunState.unfinished).length

variable {hub hub' : Hub} {h : Handle} {c : Client}

theorem workUpdate (found : hub.client? h = some c) (f : Client → Client) :
    (hub.update h f).work + clientWork c = hub.work + clientWork (f c) := by
  have moved := sumModify found f clientWork
  simp only [work, update]
  omega

theorem workUpdateLe {f : Client → Client}
    (less : ∀ c, hub.client? h = some c → clientWork (f c) ≤ clientWork c) : (hub.update h f).work ≤ hub.work := by
  cases found : hub.client? h with
  | none => rw [updateOfSame (by simp [found])]
  | some c =>
    have moved := workUpdate found f
    have less := less c found
    omega

theorem workNote (hub : Hub) (h : Handle) (entry : Client → Log.Entry) : (hub.note h entry).work = hub.work := by
  unfold note
  split
  · rfl
  · rfl

section Close

theorem workBeginClose (isOpen : hub.isOpen h = true) : (hub.beginClose h).2.work + 2 = hub.work := by
  obtain ⟨c, found, open', -⟩ := knownOpen isOpen
  have moved := workUpdate found Client.beginClose
  have shut := Client.workShut open'
  have begun : (hub.beginClose h).2 = hub.update h Client.beginClose := rfl
  rw [begun]
  omega

theorem workFinishClose (hub : Hub) (h : Handle) : (hub.finishClose h).work ≤ hub.work + 1 := by
  have outline := finishCloseOutline hub h
  have events : (hub.finishClose h).events = hub.events ++ hub.notice h := congrArg Outline.events outline
  have loop : (hub.finishClose h).loop = hub.loop := congrArg Outline.loop outline
  have runs : (hub.finishClose h).runs = hub.runs := congrArg Outline.runs outline
  have clients := finishCloseClients hub h
  have cancelled : (hub.update h Client.cancel).work ≤ hub.work := workUpdateLe fun _ _ => Nat.le_refl _
  have one : (hub.notice h).length ≤ 1 := by
    unfold notice
    split
    · exact Nat.le_refl 1
    · exact Nat.zero_le 1
  simp only [work, events, loop, runs, clients, List.length_append]
  simp only [work, update] at cancelled ⊢
  omega

theorem workClose (hub : Hub) (h : Handle) : (hub.close h).work ≤ hub.work := by
  cases isOpen : hub.isOpen h with
  | false => rw [closeOfShut isOpen]
  | true =>
    rw [closeOfOpen isOpen]
    have begun := workBeginClose isOpen
    have told := workFinishClose (hub.beginClose h).2 h
    omega

theorem workCloseAll (hub : Hub) (hs : List Handle) : (hub.closeAll hs).work ≤ hub.work := by
  induction hs generalizing hub with
  | nil => exact Nat.le_refl _
  | cons h rest ih => exact (ih (hub.close h)).trans (workClose hub h)

end Close

section Send

theorem workSend (hub : Hub) (h : Handle) (m : Bytes) : (hub.send h m).2.work ≤ hub.work + 3 := by
  unfold send
  split
  · exact Nat.le_add_right _ 3
  · rename_i c found
    have offered := c.workOffer hub.config.sendBufferSize m
    split
    · rename_i c' shape
      have moved := workUpdate found fun _ => c'
      rw [shape] at offered
      dsimp only at offered ⊢
      omega
    · exact Nat.le_add_right _ 3
    · exact Nat.le_add_right _ 3

theorem workOfferAll (hub : Hub) (m : Bytes) (hs : List Handle) :
    (hub.offerAll m hs).2.work ≤ hub.work + 3 * hs.length := by
  induction hs generalizing hub with
  | nil => exact Nat.le_refl _
  | cons h rest ih =>
    have first := workSend hub h m
    have others := ih (hub.send h m).2
    have both : (hub.offerAll m (h :: rest)).2 = ((hub.send h m).2.offerAll m rest).2 := rfl
    rw [both, List.length_cons]
    omega

theorem workOfferFew {hs : List Handle} (few : hs.length ≤ hub.clients.length) (m : Bytes) :
    (hub.offerAll m hs).2.work ≤ hub.work + 3 * hub.clients.length := by
  have offers := workOfferAll hub m hs
  omega

variable (filed : hub.Filed) (m : Bytes)
include filed

theorem workSendToUser (user : String) : (hub.sendToUser user m).2.work ≤ hub.work + 3 * hub.clients.length := by
  have offers := workOfferFew (filed.fewOfUser user) m
  unfold sendToUser
  split
  · exact Nat.le_add_right _ _
  · exact offers

theorem workSendToGroup (group : String) (excluded : Option String) :
    (hub.sendToGroupFrom group excluded m).2.work ≤ hub.work + 3 * hub.clients.length := by
  unfold sendToGroupFrom
  split
  · exact Nat.le_add_right _ _
  · rename_i us found
    have held : ∀ x ∈ us.keptMembers excluded, ∃ u i, hub.registry.Holds u i x := by
      intro x listed
      obtain ⟨u, i, stored, -⟩ := (us.memKept excluded x).mp listed
      exact ⟨u, i, .inr ⟨group, by simp [Registry.groupMember?, found, stored]⟩⟩
    exact workOfferFew (filed.fewOnce held) m

theorem workSendToTenant (tenant : String) :
    (hub.sendToTenant tenant m).2.work ≤ hub.work + 3 * hub.clients.length := by
  refine workOfferFew (filed.fewOnce fun x listed => ?_) m
  obtain ⟨u, i, found⟩ := (Users.memMembers _ x).mp (List.mem_filter.mp listed).1
  exact ⟨u, i, .inl found⟩

theorem workBroadcast : (hub.broadcast m).2.work ≤ hub.work + 3 * hub.clients.length :=
  workOfferFew filed.fewOfAll m

end Send

section Relay

theorem workJoin (hub : Hub) (group : String) (h : Handle) : (hub.joinGroup group h).2.work = hub.work := by
  unfold joinGroup
  split
  · rfl
  · split
    · rfl
    · rfl

theorem workLeave (hub : Hub) (group : String) (h : Handle) : (hub.leaveGroup group h).2.work = hub.work := by
  unfold leaveGroup
  split
  · rfl
  · rfl

variable (filed : hub.Filed) (h : Handle)
include filed

theorem workMessage (c : Client) (message : ClientMessage) :
    (hub.applyMessage h c message).2.work ≤ hub.work + 3 * hub.clients.length := by
  cases message with
  | join group =>
    have joined := workJoin hub group h
    simp only [applyMessage]
    split
    · rename_i shape
      rw [shape] at joined
      exact joined.le.trans (Nat.le_add_right _ _)
    · rename_i shape
      rw [shape] at joined
      exact joined.le.trans (Nat.le_add_right _ _)
  | leave group => exact (workLeave hub group h).le.trans (Nat.le_add_right _ _)
  | group group payload echo =>
    simp only [applyMessage]
    split
    · exact Nat.le_add_right _ _
    · cases echo with
      | true => exact workSendToGroup filed _ group none
      | false => exact workSendToGroup filed _ group (some c.user)
  | direct user payload => exact workSendToUser filed _ user
  | tenant payload => exact workSendToTenant filed _ c.tenant
  | broadcast payload => exact workBroadcast filed _

theorem workAnswer (c : Client) (raw : Bytes) :
    (hub.answer h c raw).2.work ≤ hub.work + 3 * hub.clients.length := by
  unfold answer
  split
  · exact workMessage filed h c _
  · exact Nat.le_add_right _ _

theorem workRelay (raw : Bytes) : (hub.relay h raw).work ≤ hub.work + 3 * hub.clients.length + 3 := by
  unfold relay
  split
  · omega
  · rename_i c _
    have answered := workAnswer filed h c raw
    exact (workSend _ h _).trans (Nat.add_le_add_right answered 3)

end Relay

section Loop

theorem workRegister (hub : Hub) (h : Handle) : (hub.applyRegister h).work ≤ hub.work := by
  unfold applyRegister
  split
  · exact Nat.le_refl _
  · split
    · exact Nat.le_refl _
    · dsimp only
      split
      · exact Nat.le_refl _
      · split
        · exact Nat.le_refl _
        · exact workClose _ _

theorem workUnregister (hub : Hub) (h : Handle) : (hub.applyUnregister h).work ≤ hub.work := by
  unfold applyUnregister
  split
  · exact Nat.le_refl _
  · rename_i c _
    have closed := workClose { hub with registry := (hub.registry.remove (c.member h)).2 } h
    dsimp only
    split
    · exact closed
    · exact closed

theorem workStops (serving : hub.loop = .serving) : Hub.work { hub with loop := .stopping } ≤ hub.work := by
  simp only [work, serving, loopWork]
  omega

theorem workShutdown (serving : hub.loop = .serving) : hub.applyShutdown.work ≤ hub.work := by
  let members := hub.registry.members.map (·.handle)
  have loop := (closeAllLoop { hub with registry := {} } members).trans serving
  have stopped : hub.applyShutdown.work =
      Hub.work { closeAll { hub with registry := {} } members with loop := .stopping } := rfl
  rw [stopped]
  exact (workStops loop).trans (workCloseAll { hub with registry := {} } members)

theorem workApply (serving : hub.loop = .serving) (e : Event) : (hub.apply e).work ≤ hub.work := by
  cases e with
  | register h => exact workRegister hub h
  | unregister h => exact workUnregister hub h
  | flush ticket => exact Nat.le_refl _
  | shutdown => exact workShutdown serving

theorem workDiscard (hub : Hub) (e : Event) : (hub.discard e).work ≤ hub.work := by
  cases e with
  | register h => exact workClose hub h
  | unregister | flush | shutdown => exact Nat.le_refl _

theorem workTaken {e : Event} {rest : List Event} (next : hub.events = e :: rest) :
    Hub.work { hub with events := rest } + 1 = hub.work := by
  simp only [work, next, List.length_cons]
  omega

theorem workLoop (step : LoopStep hub hub') : hub'.work < hub.work := by
  cases step with
  | @applied e rest serving next =>
    have taken := workTaken next
    have applied := @workApply { hub with events := rest } serving e
    omega
  | drains stopping =>
    simp only [work, stopping, loopWork]
    omega
  | @discarded e rest draining next =>
    have taken := workTaken next
    have discarded := workDiscard { hub with events := rest } e
    omega
  | stopped draining none =>
    have returned : ((hub.runs.map returnActive).filter RunState.unfinished).length ≤
        (hub.runs.filter RunState.unfinished).length := by
      rw [← List.countP_eq_length_filter, ← List.countP_eq_length_filter, List.countP_map]
      refine List.countP_mono_left fun r _ => ?_
      cases r with
      | waiting | active | returned => simp [returnActive, RunState.unfinished]
    simp only [work, write, draining, loopWork]
    omega

theorem unfinishedSet {i : Nat} (waits : hub.waitingRun? = some i) (r : RunState) :
    ((hub.runs.set i r).filter RunState.unfinished).length + 1 =
      (hub.runs.filter RunState.unfinished).length + if RunState.unfinished r then 1 else 0 := by
  obtain ⟨inside, waiting, -⟩ := List.findIdx?_eq_some_iff_getElem.mp waits
  have here : RunState.unfinished hub.runs[i] = true := by
    split at waiting
    · rename_i shape
      rw [shape]
      rfl
    · contradiction
  have some : 0 < hub.runs.countP RunState.unfinished :=
    List.countP_pos_iff.mpr ⟨_, List.getElem_mem inside, here⟩
  rw [← List.countP_eq_length_filter, ← List.countP_eq_length_filter, List.countP_set inside, here, if_pos rfl]
  omega

theorem workBegun (step : Begun hub hub') : hub'.work < hub.work := by
  cases step with
  | first waits idle entry =>
    have set := unfinishedSet waits .active
    simp only [RunState.unfinished, if_true] at set
    simp only [work, write, idle, loopWork]
    omega
  | another waits begun =>
    have set := unfinishedSet waits (.returned (.error .alreadyRunning))
    simp only [RunState.unfinished, Bool.false_eq_true, if_false] at set
    simp only [work]
    omega

end Loop

end Hub
end RelayHub
