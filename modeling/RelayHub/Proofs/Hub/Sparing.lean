import RelayHub.Proofs.Hub.Destination
import RelayHub.Proofs.Hub.Relaying

/-! Which operations of a hub put messages into a queue: single sends, and messages to many for those who are
registered. Everything else, the event loop included, leaves what a client was ever given as it is. -/
namespace RelayHub

theorem Client.beginCloseAccepted (c : Client) : c.beginClose.accepted = c.accepted := by
  unfold beginClose
  split
  · rfl
  · rfl

namespace Hub

def given? (hub : Hub) (k : Handle) : Option (List Bytes) := (hub.client? k).map (·.accepted)

def first? (hub : Hub) (k : Handle) : Option Bytes := (hub.given? k).bind List.getLast?

theorem firstOf {hub : Hub} {k : Handle} {c : Client} (found : hub.client? k = some c) :
    hub.first? k = c.arrived.head? := by
  rw [first?, given?, found, Client.arrived, List.head?_reverse]
  rfl

section Given
variable {hub hub' : Hub} {k : Handle}

theorem givenSame (clients : hub'.clients = hub.clients) : hub'.given? k = hub.given? k := by
  rw [given?, client?, clients]
  rfl

theorem givenUpdate (hub : Hub) (h : Handle) {f : Client → Client} (kept : ∀ c, (f c).accepted = c.accepted) :
    (hub.update h f).given? k = hub.given? k := by
  rw [given?, clientUpdate]
  split
  · rw [Option.map_map]
    exact Option.map_congr fun c _ => kept c
  · rfl

theorem givenClose (hub : Hub) (h : Handle) : (hub.close h).given? k = hub.given? k := by
  cases isOpen : hub.isOpen h with
  | false => rw [closeOfShut isOpen]
  | true =>
    refine (givenSame (closeClients isOpen)).trans (givenUpdate hub h fun c => ?_)
    exact c.beginCloseAccepted

theorem givenCloseAll (hub : Hub) (hs : List Handle) : (hub.closeAll hs).given? k = hub.given? k := by
  induction hs generalizing hub with
  | nil => rfl
  | cons h rest ih => exact (ih _).trans (givenClose hub h)

theorem givenRegister (hub : Hub) (h : Handle) : (hub.register h).given? k = hub.given? k := by
  unfold register
  split
  · rfl
  · exact (givenClose _ h).trans (givenSame (noteClients hub h _))

theorem givenUnregister (hub : Hub) (h : Handle) : (hub.unregister h).given? k = hub.given? k := by
  unfold unregister
  split
  · rfl
  · exact givenClose hub h

theorem givenFlush (hub : Hub) : hub.flush.2.given? k = hub.given? k := by
  unfold flush
  split
  · rfl
  · rfl

theorem givenShutdown (hub : Hub) : hub.shutdown.given? k = hub.given? k := by
  unfold shutdown
  split
  · rfl
  · rfl

theorem givenJoin (hub : Hub) (group : String) (h : Handle) : (hub.joinGroup group h).2.given? k = hub.given? k := by
  unfold joinGroup
  split
  · rfl
  · split
    · rfl
    · rfl

theorem givenLeave (hub : Hub) (group : String) (h : Handle) :
    (hub.leaveGroup group h).2.given? k = hub.given? k := by
  unfold leaveGroup
  split
  · rfl
  · rfl

theorem givenDisconnect (hub : Hub) (user : String) : (hub.disconnectUser user).2.given? k = hub.given? k :=
  givenCloseAll { hub with registry := (hub.registry.removeUser user).2 } _

theorem givenApplyRegister (hub : Hub) (h : Handle) : (hub.applyRegister h).given? k = hub.given? k := by
  unfold applyRegister
  split
  · rfl
  · split
    · rfl
    · simp only
      split
      · rfl
      · split
        · rfl
        · exact givenClose _ _

theorem givenApplyUnregister (hub : Hub) (h : Handle) : (hub.applyUnregister h).given? k = hub.given? k := by
  unfold applyUnregister
  split
  · rfl
  · rename_i c _
    have closed := givenClose (k := k) { hub with registry := (hub.registry.remove (c.member h)).2 } h
    simp only
    split
    · exact closed
    · exact closed

theorem givenLoop (step : LoopStep hub hub') : hub'.given? k = hub.given? k := by
  cases step with
  | @applied e rest _ _ =>
    cases e with
    | register h => exact givenApplyRegister { hub with events := rest } h
    | unregister h => exact givenApplyUnregister { hub with events := rest } h
    | flush ticket => rfl
    | shutdown => exact givenCloseAll { hub with events := rest, registry := {} } _
  | @discarded e rest _ _ =>
    cases e with
    | register h => exact givenClose { hub with events := rest } h
    | unregister _ | flush _ | shutdown => rfl
  | drains | stopped => rfl

theorem givenBegin (began : hub.beginRun? = some hub') : hub'.given? k = hub.given? k := by
  cases begun began with
  | first | another => rfl

theorem givenSend (hub : Hub) {h : Handle} (other : k ≠ h) (m : Bytes) :
    (hub.send h m).2.given? k = hub.given? k := by
  unfold send
  split
  · rfl
  · split
    · rw [given?, clientUpdate, if_neg other]
      rfl
    · rfl
    · rfl

theorem givenSpread {m : Bytes} {takers : List Handle} (spread : Spread m takers hub hub') (spared : k ∉ takers) :
    hub'.given? k = hub.given? k := by
  rw [given?, spread.client, Option.map_map]
  refine Option.map_congr fun c _ => ?_
  rw [Function.comp_apply, if_neg spared]

end Given

def Registered (k : Handle) (hub hub' : Hub) : Prop := hub'.given? k = hub.given? k ∨ hub.Held k

section Fan
variable {hub : Hub} {k : Handle} {owed : List Handle}

theorem readyOpen (ready : hub.ready k = true) : hub.isOpen k = true := by
  obtain ⟨c, found, takes⟩ := (Option.any_eq_true ..).mp ready
  have shows : c.isOpen = true := ((Bool.and_eq_true ..).mp takes).1
  simpa [isOpen, found] using shows

theorem groupedHeld (a : Accounted owed hub) {g u i : String} {x : Member}
    (found : hub.registry.groupMember? g u i = some x) (ready : hub.ready x.handle = true) : hub.Held x.handle :=
  ⟨u, i, x, a.shared g u i x found (readyOpen ready), rfl⟩

theorem fannedRegistered {m : Bytes} {audience : Handle → Prop} {takers : List Handle} {result : Nat × Hub}
    (fanned : Fanned m audience hub takers result) (held : audience k → hub.ready k = true → hub.Held k) :
    Registered k hub result.2 := by
  by_cases taker : k ∈ takers
  · obtain ⟨inside, ready⟩ := (fanned.members k).mp taker
    exact .inr (held inside ready)
  · exact .inl (givenSpread fanned.spread taker)

variable (a : Accounted owed hub) (truthful : hub.Truthful) (m : Bytes)
include a truthful

theorem destinationRegistered (d : Destination) : Registered k hub (d.send hub m).2 := by
  obtain ⟨takers, fanned⟩ := destinationFanned a truthful m d
  refine fannedRegistered fanned fun covers ready => ?_
  cases d with
  | user user =>
    obtain ⟨i, x, found, handle⟩ := covers
    exact ⟨user, i, x, found, handle⟩
  | group =>
    obtain ⟨u, i, x, found, rfl⟩ := covers
    exact groupedHeld a found ready
  | groupExcept =>
    obtain ⟨u, i, x, found, -, rfl⟩ := covers
    exact groupedHeld a found ready
  | tenant =>
    obtain ⟨u, i, x, found, -, handle⟩ := covers
    exact ⟨u, i, x, found, handle⟩
  | everyone => exact covers

theorem relayRegistered {x : Client} (found : hub.client? k = some x) {h : Handle} (other : k ≠ h) (raw : Bytes) :
    Registered k hub (hub.relay h raw) := by
  cases known : hub.client? h with
  | none => exact .inl (by simp [relay, known])
  | some c =>
    obtain ⟨reply, delivery, takers, relayed⟩ := relayed a truthful known raw
    by_cases taker : k ∈ takers
    · obtain ⟨message, audience, addresses, inside, ready⟩ := (relayed.delivers.takers k).mp taker
      right
      cases addresses with
      | group =>
        obtain ⟨u, i, x, member, -, rfl⟩ := inside
        exact groupedHeld a member ready
      | direct =>
        obtain ⟨i, x, found, handle⟩ := inside
        exact ⟨_, i, x, found, handle⟩
      | tenant =>
        obtain ⟨u, i, x, found, -, handle⟩ := inside
        exact ⟨u, i, x, found, handle⟩
      | broadcast => exact inside
    · obtain ⟨y, rfl, after⟩ := relayed.queues k x found
      rw [if_neg other, if_neg taker] at after
      left
      rw [given?, given?, after, found]

end Fan

end Hub
end RelayHub
