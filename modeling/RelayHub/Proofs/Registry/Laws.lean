import RelayHub.Proofs.Registry.Lookup

/-! What each operation on a registry does to both indexes. A lookup by user and id, or by group,
user and id, is all that is needed to tell two registries apart. -/
namespace RelayHub.Registry

theorem dropEmptyAt (us : Users) (user id : String) :
    (dropEmpty us).bind (·.at? user id) = us.at? user id := by
  unfold dropEmpty
  cases e : us.isEmpty with
  | true => simp [Users.at?, Table.getOfEmpty e]
  | false => simp

theorem dropEmptySome {us us' : Users} (h : dropEmpty us = some us') :
    us' = us ∧ us.isEmpty = false := by
  unfold dropEmpty at h
  split at h
  · contradiction
  · cases h
    exact ⟨rfl, by simp_all⟩

theorem isMemberIff (r : Registry) (group : String) (m : Member) :
    r.isMember group m = (r.groupMember? group m.user m.id).any (·.handle = m.handle) := by
  unfold isMember groupMember?
  cases r.groups.get? group <;> rfl

theorem containsIff (r : Registry) (m : Member) :
    r.contains m = (r.client? m.user m.id).any (·.handle = m.handle) := rfl

section Clients
variable (r : Registry) (m : Member) (group group' user user' id : String)

theorem insertClient : (r.insert m).2.client? user id =
    if user = m.user ∧ id = m.id then some m else r.client? user id := Users.atPut r.users m user id

theorem removeClient : (r.remove m).2.client? user id =
    if user = m.user ∧ id = m.id ∧ r.contains m then none else r.client? user id :=
  Users.atTake r.users m user id

theorem removeUserClient : (r.removeUser user').2.client? user id =
    if user = user' then none else r.client? user id := Users.atErase r.users user' user id

theorem removeGroupMember : (r.remove m).2.groupMember? group user id =
    if user = m.user ∧ id = m.id ∧ r.isMember group m then none
    else r.groupMember? group user id := by
  unfold remove groupMember? isMember
  rw [Table.getFilterMap]
  cases r.groups.get? group with
  | none => simp
  | some us => simp [dropEmptyAt, Users.atTake]

theorem removeUserGroupMember : (r.removeUser user').2.groupMember? group user id =
    if user = user' then none else r.groupMember? group user id := by
  unfold removeUser groupMember?
  rw [Table.getFilterMap]
  cases r.groups.get? group with
  | none => simp
  | some us => simp [dropEmptyAt, Users.atErase]

theorem joinGroupMember : (r.join group' m).groupMember? group user id =
    if group = group' ∧ user = m.user ∧ id = m.id then some m
    else r.groupMember? group user id := by
  unfold join groupMember?
  rw [Table.getInsert]
  by_cases g : group = group'
  · subst g
    simp only [if_true, Option.bind_some, Users.atPut, true_and]
    cases r.groups.get? group <;> simp [Users.at?]
  · simp [g]

theorem leaveGroupMember : (r.leave group' m).2.groupMember? group user id =
    if group = group' ∧ user = m.user ∧ id = m.id ∧ r.isMember group' m then none
    else r.groupMember? group user id := by
  unfold leave groupMember? isMember
  rw [Table.getFilterMap]
  by_cases g : group = group'
  · subst g
    cases r.groups.get? group with
    | none => simp
    | some us => simp [dropEmptyAt, Users.atTake]
  · cases r.groups.get? group <;> simp [g]

end Clients

structure Within (r r' : Registry) : Prop where
  client : ∀ u i m, r.client? u i = some m → r'.client? u i = some m
  group : ∀ g u i m, r.groupMember? g u i = some m → r'.groupMember? g u i = some m

section Shrinking
variable (r : Registry) (m : Member) (group user : String)

theorem withinSelf : r.Within r := ⟨fun _ _ _ held => held, fun _ _ _ _ held => held⟩

theorem emptyWithin : Within {} r where
  client u i m held := by simp [client?, Users.at?] at held
  group g u i m held := by simp [groupMember?] at held

theorem removeWithin : (r.remove m).2.Within r where
  client u i x held := by
    rw [removeClient] at held
    exact (Option.ite_none_left_eq_some.mp held).2
  group g u i x held := by
    rw [removeGroupMember] at held
    exact (Option.ite_none_left_eq_some.mp held).2

theorem removeUserWithin : (r.removeUser user).2.Within r where
  client u i x held := by
    rw [removeUserClient] at held
    exact (Option.ite_none_left_eq_some.mp held).2
  group g u i x held := by
    rw [removeUserGroupMember] at held
    exact (Option.ite_none_left_eq_some.mp held).2

theorem leaveWithin : (r.leave group m).2.Within r where
  client _ _ _ held := held
  group g u i x held := by
    rw [leaveGroupMember] at held
    exact (Option.ite_none_left_eq_some.mp held).2

variable {r m user} {g u i : String} {x : Member}

theorem removeStays (held : (r.remove m).2.groupMember? g u i = some x) (found : r.client? u i = some x) :
    (r.remove m).2.client? u i = some x := by
  rw [removeGroupMember] at held
  rw [removeClient]
  split at held
  · contradiction
  · rename_i kept
    refine (if_neg ?_).trans found
    rintro ⟨rfl, rfl, contains⟩
    refine kept ⟨rfl, rfl, ?_⟩
    rw [containsIff, found] at contains
    rw [isMemberIff, held]
    exact contains

theorem removeUserStays (held : (r.removeUser user).2.groupMember? g u i = some x)
    (found : r.client? u i = some x) : (r.removeUser user).2.client? u i = some x := by
  rw [removeUserGroupMember] at held
  rw [removeUserClient]
  split at held
  · contradiction
  · rename_i other
    rwa [if_neg other]

end Shrinking

structure Pruned (r : Registry) : Prop where
  users : r.users.Full
  groups : ∀ group us, r.groups.get? group = some us → us.isEmpty = false ∧ us.Full

theorem prunedEmpty : Pruned {} where
  users := Users.fullEmpty
  groups := by
    intro group us found
    simp at found

section Pruning
variable {r : Registry} (h : r.Pruned) (m : Member) (group user : String)
include h

theorem prunedInsert : (r.insert m).2.Pruned where
  users := Users.fullPut h.users m
  groups := h.groups

theorem prunedRemove : (r.remove m).2.Pruned where
  users := Users.fullTake h.users m
  groups := by
    intro g us found
    rw [remove, Table.getFilterMap] at found
    obtain ⟨old, held, kept⟩ := Option.bind_eq_some_iff.mp found
    obtain ⟨rfl, nonempty⟩ := dropEmptySome kept
    exact ⟨nonempty, Users.fullTake (h.groups g old held).2 m⟩

theorem prunedRemoveUser : (r.removeUser user).2.Pruned where
  users := Users.fullErase h.users user
  groups := by
    intro g us found
    rw [removeUser, Table.getFilterMap] at found
    obtain ⟨old, held, kept⟩ := Option.bind_eq_some_iff.mp found
    obtain ⟨rfl, nonempty⟩ := dropEmptySome kept
    exact ⟨nonempty, Users.fullErase (h.groups g old held).2 user⟩

theorem prunedJoin : (r.join group m).Pruned where
  users := h.users
  groups := by
    intro g us found
    rw [join, Table.getInsert] at found
    split at found
    · cases found
      have full : ((r.groups.get? group).getD .empty).Full := by
        cases held : r.groups.get? group with
        | none => exact Users.fullEmpty
        | some old => exact (h.groups group old held).2
      have joined := Users.fullPut full m
      refine ⟨(Users.nonemptyIff joined).mpr ⟨m.user, m.id, ?_⟩, joined⟩
      simp [Users.atPut]
    · exact h.groups g us found

theorem prunedLeave : (r.leave group m).2.Pruned where
  users := h.users
  groups := by
    intro g us found
    rw [leave, Table.getFilterMap] at found
    obtain ⟨old, held, kept⟩ := Option.bind_eq_some_iff.mp found
    split at kept
    · obtain ⟨rfl, nonempty⟩ := dropEmptySome kept
      exact ⟨nonempty, Users.fullTake (h.groups g old held).2 m⟩
    · cases kept
      exact h.groups g _ held

theorem userBucketIff : (r.users.get? user).isSome ↔ ∃ id, (r.client? user id).isSome :=
  Users.bucketIff h.users user

theorem groupBucketIff :
    (r.groups.get? group).isSome ↔ ∃ user id, (r.groupMember? group user id).isSome := by
  cases held : r.groups.get? group with
  | none => simp [groupMember?, held]
  | some us =>
    have lookup : ∀ user id, r.groupMember? group user id = us.at? user id := by
      intro user id
      simp [groupMember?, held]
    obtain ⟨nonempty, full⟩ := h.groups group us held
    simpa [lookup] using (Users.nonemptyIff full).mp nonempty

theorem innerBucketIff : ((r.groups.get? group).bind (·.get? user)).isSome ↔
    ∃ id, (r.groupMember? group user id).isSome := by
  cases held : r.groups.get? group with
  | none => simp [groupMember?, held]
  | some us =>
    have lookup : ∀ id, r.groupMember? group user id = us.at? user id := by
      intro id
      simp [groupMember?, held]
    simpa [lookup] using Users.bucketIff (h.groups group us held).2 user

end Pruning
end RelayHub.Registry
