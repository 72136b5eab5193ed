import RelayHub.Proofs.Hub.Queues
import RelayHub.Proofs.Hub.Standing

/-! One message for many clients: each of them takes it that is open and has room, once, and nobody else
does. The count says how many there are. -/
namespace RelayHub

namespace Client

def took (c : Client) (m : Bytes) : Client := { c with queue := c.queue ++ [m], accepted := m :: c.accepted }

def ready (capacity : Nat) (c : Client) : Bool := c.isOpen && c.queue.length < capacity

def offered (capacity : Nat) (m : Bytes) (c : Client) : Client := if c.ready capacity then c.took m else c

theorem tookState (c : Client) (m : Bytes) : (c.took m).state = c.state := rfl

theorem offeredState (c : Client) (capacity : Nat) (m : Bytes) : (c.offered capacity m).state = c.state := by
  unfold offered
  split
  · rfl
  · rfl

theorem offerReady {c : Client} (honest : c.sender = c.isOpen) {capacity : Nat} (ready : c.ready capacity = true)
    (m : Bytes) : c.offer capacity m = (.accepted, c.took m) := by
  obtain ⟨isOpen, room⟩ := (Bool.and_eq_true _ _).mp ready
  simp [offer, honest, isOpen, of_decide_eq_true room, took]

theorem offerUnready {c : Client} (honest : c.sender = c.isOpen) {capacity : Nat}
    (unready : c.ready capacity = false) (m : Bytes) : (c.offer capacity m).1 ≠ .accepted := by
  rcases c.offerCases capacity m with ⟨-, offered⟩ | ⟨sending, room, -⟩ | ⟨-, -, offered⟩
  · simp [offered]
  · have isOpen : c.isOpen = true := honest.symm.trans sending
    simp [ready, isOpen, room] at unready
  · simp [offered]

end Client

namespace Hub

def Truthful (hub : Hub) : Prop := ∀ k c, hub.client? k = some c → c.sender = c.isOpen

namespace Truthful
variable {hub hub' : Hub}

theorem same (truthful : hub.Truthful) (clients : hub'.clients = hub.clients) : hub'.Truthful := by
  intro k c found
  rw [client?, clients] at found
  exact truthful k c found

theorem later (truthful : hub.Truthful) (later : hub.Later hub') : hub'.Truthful := by
  intro k c' found
  have inside : k < hub.clients.length := later.length ▸ (List.getElem?_eq_some_iff.mp found).1
  have before : hub.client? k = some hub.clients[k] := List.getElem?_eq_getElem inside
  obtain ⟨c'', found', next⟩ := later.client k _ before
  cases found.symm.trans found'
  exact next.honest (truthful k _ before)

theorem update (truthful : hub.Truthful) {h : Handle} {f : Client → Client}
    (honest : ∀ c, hub.client? h = some c → c.sender = c.isOpen → (f c).sender = (f c).isOpen) :
    (hub.update h f).Truthful := by
  intro k c' found
  rw [clientUpdate] at found
  split at found
  · rename_i here
    subst here
    obtain ⟨c, before, rfl⟩ := Option.map_eq_some_iff.mp found
    exact honest c before (truthful k c before)
  · exact truthful k c' found

end Truthful

def ready (hub : Hub) (k : Handle) : Bool := (hub.client? k).any (·.ready hub.config.sendBufferSize)

structure Spread (m : Bytes) (takers : List Handle) (hub hub' : Hub) : Prop where
  outline : hub'.outline = hub.outline
  client : ∀ k, hub'.client? k = (hub.client? k).map fun c => if k ∈ takers then c.took m else c

namespace Spread
variable {m : Bytes} {takers more : List Handle} {hub hub' hub'' : Hub}

theorem nobody (clients : hub'.clients = hub.clients) (outline : hub'.outline = hub.outline) :
    Spread m [] hub hub' := by
  refine ⟨outline, fun k => ?_⟩
  rw [client?, clients]
  simp [client?]

theorem truthful (spread : Spread m takers hub hub') (truthful : hub.Truthful) : hub'.Truthful := by
  intro k c' found
  rw [spread.client] at found
  obtain ⟨c, before, rfl⟩ := Option.map_eq_some_iff.mp found
  have honest := truthful k c before
  split
  · exact honest
  · exact honest

theorem ready (spread : Spread m takers hub hub') {k : Handle} (spared : k ∉ takers) :
    hub'.ready k = hub.ready k := by
  have config : hub'.config = hub.config := congrArg Outline.config spread.outline
  have same : hub'.client? k = hub.client? k := by simp [spread.client, spared]
  rw [Hub.ready, same, config]
  rfl

theorem trans (first : Spread m takers hub hub') (second : Spread m more hub' hub'')
    (apart : takers.Disjoint more) : Spread m (takers ++ more) hub hub'' := by
  refine ⟨second.outline.trans first.outline, fun k => ?_⟩
  rw [second.client, first.client]
  cases hub.client? k with
  | none => rfl
  | some c =>
    by_cases here : k ∈ takers
    · have once : k ∉ more := fun again => apart here again
      simp [here, once]
    · simp [here]

end Spread

theorem sendSpread {hub : Hub} (truthful : hub.Truthful) (k : Handle) (m : Bytes) :
    (hub.send k m).1 = hub.ready k ∧
      Spread m (if hub.ready k then [k] else []) hub (hub.send k m).2 := by
  cases found : hub.client? k with
  | none =>
    have unready : hub.ready k = false := by simp [Hub.ready, found]
    have unsent : hub.send k m = (false, hub) := by simp [send, found]
    rw [unready, unsent]
    exact ⟨rfl, .nobody rfl rfl⟩
  | some c =>
    have honest := truthful k c found
    have here : hub.ready k = c.ready hub.config.sendBufferSize := by simp [Hub.ready, found]
    cases ready : c.ready hub.config.sendBufferSize with
    | true =>
      have sent : hub.send k m = (true, hub.update k fun _ => c.took m) := by
        simp [send, found, Client.offerReady honest ready]
      rw [here, ready, sent]
      refine ⟨rfl, ?_, fun j => ?_⟩
      · refine outlineUpdate fun x held => ?_
        cases found.symm.trans held
        rfl
      · rw [clientUpdate]
        by_cases same : j = k
        · subst same
          simp [found]
        · simp [same]
    | false =>
      have refused := Client.offerUnready honest ready m
      rw [here, ready]
      unfold send
      simp only [found]
      split
      · rename_i shape
        exact absurd (congrArg Prod.fst shape) refused
      · exact ⟨rfl, .nobody rfl rfl⟩
      · exact ⟨rfl, .nobody rfl rfl⟩

/- A message for an audience: the clients that took it are those in the audience that are ready for it. -/
structure Fanned (m : Bytes) (audience : Handle → Prop) (hub : Hub) (takers : List Handle)
    (result : Nat × Hub) : Prop where
  nodup : takers.Nodup
  members : ∀ k, k ∈ takers ↔ audience k ∧ hub.ready k = true
  count : result.1 = takers.length
  spread : Spread m takers hub result.2

namespace Fanned
variable {m : Bytes} {audience audience' : Handle → Prop} {hub : Hub} {takers : List Handle} {result : Nat × Hub}

theorem same (f : Fanned m audience hub takers result) (same : ∀ k, audience' k ↔ audience k) :
    Fanned m audience' hub takers result :=
  ⟨f.nodup, fun k => (f.members k).trans (and_congr_left' (same k).symm), f.count, f.spread⟩

theorem thenLog (f : Fanned m audience hub takers result) (e : Log.Entry) :
    Fanned m audience hub takers (result.1, result.2.write e) :=
  ⟨f.nodup, f.members, f.count, f.spread.outline, f.spread.client⟩

end Fanned

theorem offerAllSpread {hub : Hub} (truthful : hub.Truthful) (m : Bytes) {hs : List Handle}
    (nodup : hs.Nodup) : (hub.offerAll m hs).1 = (hs.filter hub.ready).length ∧
      Spread m (hs.filter hub.ready) hub (hub.offerAll m hs).2 := by
  induction hs generalizing hub with
  | nil => exact ⟨rfl, .nobody rfl rfl⟩
  | cons h rest ih =>
    obtain ⟨fresh, nodup⟩ := List.nodup_cons.mp nodup
    obtain ⟨took, sent⟩ := sendSpread truthful h m
    obtain ⟨count, spread⟩ := ih (sent.truthful truthful) nodup
    -- what the first client takes does not tell on the others
    have later : rest.filter (hub.send h m).2.ready = rest.filter hub.ready := by
      refine List.filter_congr fun k member => sent.ready ?_
      split
      · exact fun here => fresh (List.mem_singleton.mp here ▸ member)
      · exact List.not_mem_nil
    have whole : (h :: rest).filter hub.ready =
        (if hub.ready h then [h] else []) ++ rest.filter hub.ready := by
      rw [List.filter_cons]
      split
      · rfl
      · rfl
    rw [later] at count spread
    rw [whole]
    have sum : (hub.offerAll m (h :: rest)).1 =
        (if (hub.send h m).1 then 1 else 0) + ((hub.send h m).2.offerAll m rest).1 := rfl
    constructor
    · rw [sum, took, count, List.length_append]
      split
      · rfl
      · rfl
    · refine sent.trans spread fun k here there => fresh ?_
      split at here
      · cases List.mem_singleton.mp here
        exact (List.mem_filter.mp there).1
      · contradiction

theorem offerAllFanned {hub : Hub} (truthful : hub.Truthful) (m : Bytes) {hs : List Handle}
    (nodup : hs.Nodup) : Fanned m (· ∈ hs) hub (hs.filter hub.ready) (hub.offerAll m hs) := by
  obtain ⟨count, spread⟩ := offerAllSpread truthful m nodup
  exact ⟨nodup.filter _, fun k => List.mem_filter, count, spread⟩

theorem eraseDupsNodup (l : List Handle) : l.eraseDups.Nodup := by
  induction hn : l.length using Nat.strong_induction_on generalizing l with
  | _ n ih =>
    cases l with
    | nil => exact List.nodup_nil
    | cons h rest =>
      rw [List.eraseDups_cons]
      have shorter : (rest.filter fun k => !k == h).length < n :=
        hn ▸ Nat.lt_succ_of_le (List.length_filter_le _ _)
      refine List.nodup_cons.mpr ⟨fun again => ?_, ih _ shorter _ rfl⟩
      simp [List.mem_eraseDups] at again

theorem offerMembersFanned {hub : Hub} (truthful : hub.Truthful) (m : Bytes) {ms : List Member}
    (nodup : (ms.map (·.handle)).Nodup) : Fanned m (∃ x ∈ ms, x.handle = ·) hub
      ((ms.map (·.handle)).filter hub.ready) (hub.offerAll m (ms.map (·.handle))) :=
  (offerAllFanned truthful m nodup).same fun _ => List.mem_map.symm

theorem offerOnceFanned {hub : Hub} (truthful : hub.Truthful) (m : Bytes) (ms : List Member) :
    Fanned m (∃ x ∈ ms, x.handle = ·) hub ((ms.map (·.handle)).eraseDups.filter hub.ready) (hub.offerOnce m ms) :=
  (offerAllFanned truthful m (eraseDupsNodup _)).same fun _ => List.mem_map.symm.trans List.mem_eraseDups.symm

end Hub
end RelayHub
