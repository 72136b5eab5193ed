import RelayHub.Proofs.Hub.Spreading

/-! Whom a message for a user, a group, a tenant or everybody is for, read off the indexes. -/
namespace RelayHub

theorem Registry.memUserMembers (r : Registry) (user : String) (x : Member) :
    x ∈ r.userMembers user ↔ ∃ i, r.client? user i = some x := by
  unfold userMembers client? Users.at?
  cases r.users.get? user with
  | none => simp
  | some b => simp [Table.memValues]

def Users.keptMembers (us : Users) (excluded : Option String) : List Member :=
  (us.entries.filter fun e => some e.1 ≠ excluded).flatMap fun e => e.2.values

theorem Users.memKept (us : Users) (excluded : Option String) (x : Member) :
    x ∈ us.keptMembers excluded ↔ ∃ u i, us.at? u i = some x ∧ some u ≠ excluded := by
  simp only [keptMembers, List.mem_flatMap, List.mem_filter, Prod.exists, decide_eq_true_eq,
    Table.memEntries, Table.memValues, at?, Option.bind_eq_some_iff]
  constructor
  · rintro ⟨u, b, ⟨bucket, kept⟩, i, stored⟩
    exact ⟨u, i, ⟨b, bucket, stored⟩, kept⟩
  · rintro ⟨u, i, ⟨b, bucket, stored⟩, kept⟩
    exact ⟨u, b, ⟨bucket, kept⟩, i, stored⟩

namespace Hub

theorem Filed.userHandlesNodup {hub : Hub} (filed : hub.Filed) (user : String) :
    ((hub.registry.userMembers user).map (·.handle)).Nodup := by
  refine filed.handlesOnce ?_ fun x listed => ?_
  · unfold Registry.userMembers
    cases bucket : hub.registry.users.get? user with
    | none => exact List.nodup_nil
    | some b => exact Users.bucketNodup filed.keyed bucket
  · obtain ⟨i, found⟩ := (Registry.memUserMembers _ user x).mp listed
    exact ⟨user, i, .inl found⟩

def Grouped (hub : Hub) (group : String) (excluded : Option String) (k : Handle) : Prop :=
  ∃ u i x, hub.registry.groupMember? group u i = some x ∧ some u ≠ excluded ∧ x.handle = k

namespace Truthful
variable {hub : Hub} (truthful : hub.Truthful) (m : Bytes)
include truthful

theorem toGroup (group : String) (excluded : Option String) : ∃ takers,
    Fanned m (hub.Grouped group excluded) hub takers (hub.sendToGroupFrom group excluded m) := by
  unfold sendToGroupFrom
  cases held : hub.registry.groups.get? group with
  | none =>
    refine ⟨[], (offerAllFanned truthful m List.nodup_nil).same fun k => ?_⟩
    simp [Grouped, Registry.groupMember?, held]
  | some us =>
    have lookup : ∀ u i, hub.registry.groupMember? group u i = us.at? u i := by
      intro u i
      simp [Registry.groupMember?, held]
    refine ⟨_, ((offerOnceFanned truthful m (us.keptMembers excluded)).same fun k => ?_).thenLog _⟩
    simp only [Grouped, lookup, Users.memKept]
    constructor
    · rintro ⟨u, i, x, found, kept, handle⟩
      exact ⟨x, ⟨u, i, found, kept⟩, handle⟩
    · rintro ⟨x, ⟨u, i, found, kept⟩, handle⟩
      exact ⟨u, i, x, found, kept, handle⟩

theorem toTenant (tenant : String) : ∃ takers, Fanned m (∃ u i x, hub.registry.client? u i = some x ∧
    x.tenant = tenant ∧ x.handle = ·) hub takers (hub.sendToTenant tenant m) := by
  refine ⟨_, ((offerOnceFanned truthful m _).same fun k => ?_).thenLog _⟩
  simp only [List.mem_filter, decide_eq_true_eq, Registry.members, Users.memMembers]
  constructor
  · rintro ⟨u, i, x, found, own, handle⟩
    exact ⟨x, ⟨⟨u, i, found⟩, own⟩, handle⟩
  · rintro ⟨x, ⟨⟨u, i, found⟩, own⟩, handle⟩
    exact ⟨u, i, x, found, own, handle⟩

end Truthful

namespace Accounted
variable {owed : List Handle} {hub : Hub} (a : Accounted owed hub) (truthful : hub.Truthful) (m : Bytes)
include a truthful

theorem toUser (user : String) : ∃ takers, Fanned m (∃ i x, hub.registry.client? user i = some x ∧ x.handle = ·)
    hub takers (hub.sendToUser user m) := by
  have audience : ∀ k, (∃ i x, hub.registry.client? user i = some x ∧ x.handle = k) ↔
      ∃ x ∈ hub.registry.userMembers user, x.handle = k := by
    intro k
    simp only [Registry.memUserMembers]
    constructor
    · rintro ⟨i, x, found, handle⟩
      exact ⟨x, ⟨i, found⟩, handle⟩
    · rintro ⟨x, ⟨i, found⟩, handle⟩
      exact ⟨i, x, found, handle⟩
  have fanned := (offerMembersFanned truthful m (a.filed.userHandlesNodup user)).same audience
  unfold sendToUser
  split
  · rename_i nobody
    rw [nobody] at fanned
    exact ⟨_, fanned.thenLog _⟩
  · exact ⟨_, fanned.thenLog _⟩

theorem toAll : ∃ takers, Fanned m hub.Held hub takers (hub.broadcast m) := by
  refine ⟨_, (offerMembersFanned truthful m a.filed.handlesNodup).same fun k => ?_⟩
  simp only [Registry.members, Users.memMembers]
  constructor
  · rintro ⟨u, i, x, found, handle⟩
    exact ⟨x, ⟨u, i, found⟩, handle⟩
  · rintro ⟨x, ⟨u, i, found⟩, handle⟩
    exact ⟨u, i, x, found, handle⟩

end Accounted
end Hub
end RelayHub
