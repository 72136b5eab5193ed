import RelayHub.Proofs.Hub.Admission
import RelayHub.Proofs.Hub.Audience

/-! An index holds clients as they are, whoever else still holds on to the hub. A message for many is therefore
offered to each client once at most. -/
namespace RelayHub

theorem Registry.Within.holds {r r' : Registry} (within : r.Within r') {u i : String} {m : Member}
    (held : r.Holds u i m) : r'.Holds u i m := by
  rcases held with found | ⟨g, found⟩
  · exact .inl (within.client u i m found)
  · exact .inr ⟨g, within.group g u i m found⟩

namespace Hub
namespace Filed
variable {hub hub' : Hub} (filed : hub.Filed)
include filed

theorem within (within : hub'.registry.Within hub.registry)
    (member : ∀ k m, hub.member? k = some m → hub'.member? k = some m) : hub'.Filed := by
  intro u i m held
  obtain ⟨own, key⟩ := filed u i m (within.holds held)
  exact ⟨member _ m own, key⟩

theorem same (registry : hub'.registry = hub.registry)
    (member : ∀ k m, hub.member? k = some m → hub'.member? k = some m) : hub'.Filed :=
  filed.within (registry ▸ Registry.withinSelf _) member

theorem outline (same : hub'.outline = hub.outline) : hub'.Filed :=
  filed.same (sameRegistry same) fun k _ own => (sameMember same k).trans own

theorem close (h : Handle) : (hub.close h).Filed :=
  filed.same (closeRegistry hub h) fun k _ own => (closeMember hub h k).trans own

theorem closeAll (hs : List Handle) : (hub.closeAll hs).Filed :=
  filed.same (closeAllRegistry hub hs) fun k _ own => (closeAllMember hub hs k).trans own

theorem entered {r : Registry} {m : Member} (known : hub.member? m.handle = some m)
    (holds : ∀ u i x, r.Holds u i x → hub.registry.Holds u i x ∨ x = m ∧ u = m.user ∧ i = m.id) :
    Hub.Filed { hub with registry := r } := by
  intro u i x held
  rcases holds u i x held with before | ⟨rfl, rfl, rfl⟩
  · exact filed u i x before
  · exact ⟨known, rfl, rfl⟩

theorem inserted {m : Member} (known : hub.member? m.handle = some m) :
    Hub.Filed { hub with registry := (hub.registry.insert m).2 } := by
  refine filed.entered known ?_
  rintro u i x (found | ⟨g, found⟩)
  · rw [Registry.insertClient] at found
    split at found
    · rename_i key
      cases found
      exact .inr ⟨rfl, key⟩
    · exact .inl (.inl found)
  · exact .inl (.inr ⟨g, found⟩)

theorem joined (group : String) {m : Member} (known : hub.member? m.handle = some m) :
    Hub.Filed { hub with registry := hub.registry.join group m } := by
  refine filed.entered known ?_
  rintro u i x (found | ⟨g, found⟩)
  · exact .inl (.inl found)
  · rw [Registry.joinGroupMember] at found
    split at found
    · rename_i key
      cases found
      exact .inr ⟨rfl, key.2⟩
    · exact .inl (.inr ⟨g, found⟩)

theorem disconnected (user : String) : (hub.disconnectUser user).2.Filed := by
  have removed : Hub.Filed { hub with registry := (hub.registry.removeUser user).2 } :=
    filed.within (hub.registry.removeUserWithin user) fun _ _ own => own
  exact (removed.closeAll _).outline rfl

omit filed in
theorem calls {asked : List Handle} (calls : Calls asked hub hub') (filed : hub.Filed) : hub'.Filed := by
  induction calls with
  | refl => exact filed
  | log => exact filed.outline rfl
  | send hub h m => exact filed.outline (outlineSend hub h m)
  | close hub h => exact filed.close h
  | notice => exact filed.same rfl fun _ _ own => own
  | join hub group m known => exact filed.joined group known
  | leave hub group m => exact filed.within (hub.registry.leaveWithin m group) fun _ _ own => own
  | disconnect hub user => exact filed.disconnected user
  | trans _ _ first second => exact second (first filed)

theorem register (h : Handle) : (hub.register h).Filed := by
  unfold Hub.register
  split
  · exact filed.same rfl fun _ _ own => own
  · exact (Filed.calls (Calls.note hub h _) filed).close h

theorem flush : hub.flush.2.Filed := by
  unfold Hub.flush
  split
  · exact filed.same rfl fun _ _ own => own
  · exact filed.same rfl fun _ _ own => own

theorem shutdown : hub.shutdown.Filed := by
  unfold Hub.shutdown
  split
  · exact filed.same rfl fun _ _ own => own
  · exact filed

theorem applyRegister (h : Handle) : (hub.applyRegister h).Filed := by
  cases isOpen : hub.isOpen h with
  | false => exact filed.outline (registerShut isOpen)
  | true =>
    obtain ⟨c, found, open', known⟩ := knownOpen isOpen
    have closed := filed.closeAll (hub.displaced (c.member h))
    have inserted := closed.inserted (m := c.member h) ((closeAllMember hub _ h).trans known)
    refine inserted.outline ((registerOutline found open').trans ?_)
    rw [closeAllRegistry]
    rfl

theorem applyUnregister (h : Handle) : (hub.applyUnregister h).Filed := by
  cases found : hub.client? h with
  | none =>
    have same : hub.applyUnregister h = hub := by simp [Hub.applyUnregister, found]
    exact filed.outline (congrArg Hub.outline same)
  | some c =>
    have removed : Hub.Filed { hub with registry := (hub.registry.remove (c.member h)).2 } :=
      filed.within (hub.registry.removeWithin _) fun _ _ own => own
    exact (removed.close h).outline (unregisterOutline found)

omit filed in
theorem applyShutdown (hub : Hub) : hub.applyShutdown.Filed := by
  intro u i m held
  rw [clearedRegistry] at held
  exact absurd held (Registry.emptyHolds u i m)

theorem loopStep (step : LoopStep hub hub') : hub'.Filed := by
  have taken : ∀ rest, Hub.Filed { hub with events := rest } := fun _ => filed.same rfl fun _ _ own => own
  cases step with
  | @applied e rest =>
    cases e with
    | register h => exact (taken rest).applyRegister h
    | unregister h => exact (taken rest).applyUnregister h
    | flush => exact filed.same rfl fun _ _ own => own
    | shutdown => exact applyShutdown _
  | drains | stopped => exact filed.same rfl fun _ _ own => own
  | @discarded e rest =>
    cases e with
    | register h => exact (taken rest).close h
    | flush => exact filed.same rfl fun _ _ own => own
    | unregister | shutdown => exact taken rest

theorem build (c : Client) : (hub.build c).2.Filed := by
  refine filed.same rfl fun k m own => ?_
  obtain ⟨x, found, -⟩ := Option.map_eq_some_iff.mp own
  have inside : k < hub.clients.length := (List.getElem?_eq_some_iff.mp found).1
  have same : (hub.build c).2.client? k = hub.client? k := List.getElem?_append_left inside
  rwa [member?, same]

end Filed

section Audience
variable {hub : Hub} (filed : hub.Filed)
include filed

theorem Filed.few {ms : List Member} {hs : List Handle} (nodup : hs.Nodup) (listed : hs ⊆ ms.map (·.handle))
    (held : ∀ m ∈ ms, ∃ u i, hub.registry.Holds u i m) : hs.length ≤ hub.clients.length := by
  refine knownFew nodup fun k here => ?_
  obtain ⟨m, member, rfl⟩ := List.mem_map.mp (listed here)
  obtain ⟨u, i, held⟩ := held m member
  obtain ⟨c, found, -⟩ := Option.map_eq_some_iff.mp (filed u i m held).1
  exact ⟨c, found⟩

theorem Filed.fewOfUser (user : String) :
    ((hub.registry.userMembers user).map (·.handle)).length ≤ hub.clients.length := by
  refine filed.few (filed.userHandlesNodup user) (List.Subset.refl _) fun m listed => ?_
  obtain ⟨i, found⟩ := (Registry.memUserMembers _ user m).mp listed
  exact ⟨user, i, .inl found⟩

theorem Filed.fewOfAll : (hub.registry.members.map (·.handle)).length ≤ hub.clients.length := by
  refine filed.few filed.handlesNodup (List.Subset.refl _) fun m listed => ?_
  obtain ⟨u, i, found⟩ := (Users.memMembers _ m).mp listed
  exact ⟨u, i, .inl found⟩

theorem Filed.fewOnce {ms : List Member} (held : ∀ m ∈ ms, ∃ u i, hub.registry.Holds u i m) :
    (ms.map (·.handle)).eraseDups.length ≤ hub.clients.length :=
  filed.few (eraseDupsNodup _) (fun _ listed => List.mem_eraseDups.mp listed) held

end Audience
end Hub
end RelayHub
