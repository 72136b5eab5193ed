import RelayHub.Proofs.Hub.Admission
import RelayHub.Proofs.Hub.Running
import RelayHub.Proofs.Hub.Dealing

/-! What it means for everybody that a user is disconnected: the user's own clients are out of all indexes and
closed, and nothing else has changed. -/
namespace RelayHub

namespace Registry
variable {r : Registry} {user : String}

theorem entryListed (r : Registry) (user : String) (m : Member) :
    m ∈ (r.removeUser user).1.getD [] ↔ ∃ i, r.client? user i = some m := by
  unfold removeUser client? Users.at?
  cases r.users.get? user with
  | none => simp
  | some b => simp [Table.memValues]

theorem entriesCounted (r : Registry) (user : String) :
    ((r.removeUser user).1.getD []).length = {i | (r.client? user i).isSome}.ncard := by
  unfold removeUser client? Users.at?
  cases r.users.get? user with
  | none => simp
  | some b =>
    have counted := Table.ncardOfList (s := {i | (b.get? i).isSome}) b.keysNodup fun i => (b.memKeys i).symm
    simpa [Table.keys, Table.values] using counted.symm

theorem removeUserGroups (pruned : r.Pruned) (g : String) : (r.removeUser user).2.groups.get? g = none ↔
    ∀ u i m, r.groupMember? g u i = some m → u = user := by
  have bucket := groupBucketIff (prunedRemoveUser pruned user) g
  rw [← Option.not_isSome_iff_eq_none, bucket]
  simp only [removeUserGroupMember, not_exists, Option.not_isSome_iff_eq_none]
  constructor
  · intro gone u i m held
    refine Classical.byContradiction fun other => ?_
    have none := gone u i
    rw [if_neg other, held] at none
    contradiction
  · intro only u i
    split
    · rfl
    · rename_i other
      cases held : r.groupMember? g u i with
      | none => rfl
      | some m => exact absurd (only u i m held) other

end Registry

namespace Hub
variable {hub hub' : Hub} {h k : Handle}

section Pruned

theorem prunedCalls {asked : List Handle} (calls : Calls asked hub hub') (pruned : hub.registry.Pruned) :
    hub'.registry.Pruned := by
  induction calls with
  | refl | log | notice => exact pruned
  | send hub h m => exact sameRegistry (outlineSend hub h m) ▸ pruned
  | close hub h => exact closeRegistry hub h ▸ pruned
  | join hub group m => exact Registry.prunedJoin pruned m group
  | leave hub group m => exact Registry.prunedLeave pruned m group
  | disconnect hub user => exact disconnectedRegistry hub user ▸ Registry.prunedRemoveUser pruned user
  | trans _ _ first second => exact second (first pruned)

theorem prunedRegister (pruned : hub.registry.Pruned) (h : Handle) : (hub.applyRegister h).registry.Pruned := by
  cases isOpen : hub.isOpen h with
  | false => exact passedRegistry isOpen ▸ pruned
  | true =>
    obtain ⟨c, -, -, known⟩ := knownOpen isOpen
    exact insertedRegistry known isOpen ▸ Registry.prunedInsert pruned _

theorem prunedUnregister (pruned : hub.registry.Pruned) (h : Handle) : (hub.applyUnregister h).registry.Pruned := by
  rw [removedRegistry]
  split
  · exact Registry.prunedRemove pruned _
  · exact pruned

theorem prunedLoop (step : LoopStep hub hub') (pruned : hub.registry.Pruned) : hub'.registry.Pruned := by
  cases step with
  | @applied e rest _ _ =>
    have popped : ({ hub with events := rest } : Hub).registry.Pruned := pruned
    cases e with
    | register h => exact prunedRegister popped h
    | unregister h => exact prunedUnregister popped h
    | flush ticket => exact pruned
    | shutdown => exact clearedRegistry { hub with events := rest } ▸ Registry.prunedEmpty
  | drains | stopped => exact pruned
  | @discarded e rest _ _ =>
    cases e with
    | register h =>
      have same : ({ hub with events := rest }.discard (.register h)).registry = hub.registry := closeRegistry _ h
      rwa [same]
    | unregister _ | flush _ | shutdown => exact pruned

end Pruned

section Frame

theorem closeClient (hub : Hub) (other : k ≠ h) : (hub.close h).client? k = hub.client? k := by
  cases isOpen : hub.isOpen h with
  | true =>
    have clients := congrArg (·[k]?) (closeClients isOpen)
    refine clients.trans ((clientUpdate hub h k _).trans (if_neg other))
  | false => rw [closeOfShut isOpen]

theorem closeAllClient (hub : Hub) {hs : List Handle} (other : k ∉ hs) :
    (hub.closeAll hs).client? k = hub.client? k := by
  induction hs generalizing hub with
  | nil => rfl
  | cons h rest ih =>
    obtain ⟨first, later⟩ := not_or.mp (List.mem_cons.not.mp other)
    exact (ih (hub.close h) later).trans (closeClient hub first)

theorem closeAllAdds (hub : Hub) (hs : List Handle) : ∃ new, (hub.closeAll hs).events = hub.events ++ new ∧
    ∀ e ∈ new, ∃ h ∈ hs, e = .unregister h := by
  induction hs generalizing hub with
  | nil => exact ⟨[], (List.append_nil _).symm, by simp⟩
  | cons h rest ih =>
    obtain ⟨new, events, notices⟩ := ih (hub.close h)
    have own : ∀ e ∈ hub.closing h, e = .unregister h := by
      unfold closing notice
      split
      · split
        · simp
        · simp
      · simp
    refine ⟨hub.closing h ++ new, ?_, fun e member => ?_⟩
    · rw [← List.append_assoc, ← closeEvents]
      exact events
    · rcases List.mem_append.mp member with first | later
      · exact ⟨h, List.mem_cons_self, own e first⟩
      · obtain ⟨k, listed, notice⟩ := notices e later
        exact ⟨k, List.mem_cons_of_mem h listed, notice⟩

end Frame

/-- A hub before and behind the disconnection of a user, of whom `n` entries were found. -/
structure Disconnected (user : String) (n : Nat) (hub hub' : Hub) : Prop where
  count : n = {i | (hub.registry.client? user i).isSome}.ncard
  unlisted : ∀ i, hub'.registry.client? user i = none
  ungrouped : ∀ g i, hub'.registry.groupMember? g user i = none
  shut : ∀ i m, hub.registry.client? user i = some m → hub'.isOpen m.handle = false
  groups : ∀ g, hub'.registry.groups.get? g = none ↔
    ∀ u i m, hub.registry.groupMember? g u i = some m → u = user
  others : ∀ u, u ≠ user → ∀ i, hub'.registry.client? u i = hub.registry.client? u i
  othersGrouped : ∀ g u, u ≠ user → ∀ i, hub'.registry.groupMember? g u i = hub.registry.groupMember? g u i
  spared : ∀ k, (∀ i m, hub.registry.client? user i = some m → m.handle ≠ k) → hub'.client? k = hub.client? k
  notices : ∃ new, hub'.events = hub.events ++ new ∧
    ∀ e ∈ new, ∃ i m, hub.registry.client? user i = some m ∧ e = .unregister m.handle

theorem disconnected (pruned : hub.registry.Pruned) (user : String) :
    Disconnected user (hub.disconnectUser user).1 hub (hub.disconnectUser user).2 := by
  have registry := disconnectedRegistry hub user
  have listed : ∀ k, k ∈ ((hub.registry.removeUser user).1.getD []).map (·.handle) ↔
      ∃ i m, hub.registry.client? user i = some m ∧ m.handle = k := by
    intro k
    simp only [List.mem_map, hub.registry.entryListed user]
    exact ⟨fun ⟨m, ⟨i, held⟩, here⟩ => ⟨i, m, held, here⟩, fun ⟨i, m, held, here⟩ => ⟨m, ⟨i, held⟩, here⟩⟩
  exact {
    count := hub.registry.entriesCounted user
    unlisted i := by rw [registry, Registry.removeUserClient, if_pos rfl]
    ungrouped g i := by rw [registry, Registry.removeUserGroupMember, if_pos rfl]
    shut i m held := by
      have closed := closeAllOpen { hub with registry := (hub.registry.removeUser user).2 }
        (((hub.registry.removeUser user).1.getD []).map (·.handle)) m.handle
      refine closed.trans ?_
      simp only [(listed m.handle).mpr ⟨i, m, held, rfl⟩, not_true, decide_false, Bool.and_false]
    groups g := registry ▸ Registry.removeUserGroups pruned g
    others u other i := by rw [registry, Registry.removeUserClient, if_neg other]
    othersGrouped g u other i := by rw [registry, Registry.removeUserGroupMember, if_neg other]
    spared k other := by
      refine closeAllClient { hub with registry := (hub.registry.removeUser user).2 } fun member => ?_
      obtain ⟨i, m, held, here⟩ := (listed k).mp member
      exact other i m held here
    notices := by
      obtain ⟨new, events, notices⟩ := closeAllAdds { hub with registry := (hub.registry.removeUser user).2 }
        (((hub.registry.removeUser user).1.getD []).map (·.handle))
      refine ⟨new, events, fun e member => ?_⟩
      obtain ⟨k, closed, rfl⟩ := notices e member
      obtain ⟨i, m, held, rfl⟩ := (listed k).mp closed
      exact ⟨i, m, held, rfl⟩ }

section Notice
variable (shut : hub.isOpen h = false)
include shut

theorem applyUnregisterClients : (hub.applyUnregister h).clients = hub.clients := by
  cases found : hub.client? h with
  | none => simp [applyUnregister, found]
  | some c =>
    have closed : Hub.close { hub with registry := (hub.registry.remove (c.member h)).2 } h =
        { hub with registry := (hub.registry.remove (c.member h)).2 } := closeOfShut shut
    simp only [applyUnregister, found, closed]
    split
    · rfl
    · rfl

variable (unheld : ∀ u i m, hub.registry.Holds u i m → m.handle ≠ h)
include unheld

omit shut in
theorem applyUnregisterLookups : (∀ u i, (hub.applyUnregister h).registry.client? u i = hub.registry.client? u i) ∧
    ∀ g u i, (hub.applyUnregister h).registry.groupMember? g u i = hub.registry.groupMember? g u i := by
  rw [removedRegistry]
  split
  · rename_i m known
    refine ⟨fun u i => ?_, fun g u i => ?_⟩
    · rw [Registry.removeClient, if_neg]
      rintro ⟨-, -, contains⟩
      obtain ⟨x, held, handle⟩ := (Option.any_eq_true ..).mp contains
      exact unheld _ _ x (.inl held) ((of_decide_eq_true handle).trans (handleOf known))
    · rw [Registry.removeGroupMember, if_neg]
      rintro ⟨-, -, grouped⟩
      rw [Registry.isMemberIff] at grouped
      obtain ⟨x, held, handle⟩ := (Option.any_eq_true ..).mp grouped
      exact unheld _ _ x (.inr ⟨g, held⟩) ((of_decide_eq_true handle).trans (handleOf known))
  · exact ⟨fun _ _ => rfl, fun _ _ _ => rfl⟩

theorem LoopStep.spares (step : LoopStep hub hub') (next : hub.next = [.unregister h]) :
    hub'.clients = hub.clients ∧ (∀ u i, hub'.registry.client? u i = hub.registry.client? u i) ∧
      ∀ g u i, hub'.registry.groupMember? g u i = hub.registry.groupMember? g u i := by
  obtain ⟨rest, -, after⟩ := step.taken next
  cases ended : hub.loop.ended with
  | true =>
    rw [ended, if_pos rfl] at after
    subst after
    exact ⟨rfl, fun _ _ => rfl, fun _ _ _ => rfl⟩
  | false =>
    rw [ended, if_neg Bool.false_ne_true] at after
    subst after
    have popped : Hub.isOpen { hub with events := rest } h = false := shut
    have elsewhere : ∀ u i m, Registry.Holds { hub with events := rest }.registry u i m → m.handle ≠ h := unheld
    exact ⟨applyUnregisterClients popped, applyUnregisterLookups elsewhere⟩

end Notice
end Hub
end RelayHub
