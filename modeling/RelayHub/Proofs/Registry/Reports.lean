import RelayHub.Proofs.Registry.Flat

/-! The registry read against its flat picture: what lies in which bucket, what an operation answers, and
what every query reports. -/
namespace RelayHub.Registry

/-- The registry has exactly the entries of the picture, and no bucket without one. -/
structure Shows (r : Registry) (f : Flat) : Prop where
  entry : ∀ u i, r.client? u i = f.entry u i
  group : ∀ g u i, r.groupMember? g u i = f.group g u i
  userBucket : ∀ u, (r.users.get? u).isSome ↔ ∃ i, (f.entry u i).isSome
  groupBucket : ∀ g, (r.groups.get? g).isSome ↔ ∃ u i, (f.group g u i).isSome
  innerBucket : ∀ g u, ((r.groups.get? g).bind (·.get? u)).isSome ↔ ∃ i, (f.group g u i).isSome

structure Reports (r : Registry) (f : Flat) : Prop where
  contains : ∀ m, r.contains m = (f.entry m.user m.id).any (·.handle = m.handle)
  isMember : ∀ g m, r.isMember g m = (f.group g m.user m.id).any (·.handle = m.handle)
  members : r.members.Nodup ∧ ∀ m, m ∈ r.members ↔ f.entry m.user m.id = some m
  userMembers : ∀ u, (r.userMembers u).Nodup ∧
    ∀ m, m ∈ r.userMembers u ↔ m.user = u ∧ f.entry m.user m.id = some m
  groupMembers : ∀ g, (r.groupMembers g).Nodup ∧
    ∀ m, m ∈ r.groupMembers g ↔ f.group g m.user m.id = some m
  groupUsers : ∀ g, (r.groupUsers g).Nodup ∧
    ∀ u, u ∈ r.groupUsers g ↔ ∃ i, (f.group g u i).isSome
  connectedUsers : ∀ tenant, (r.connectedUsers tenant).Nodup ∧
    ∀ u, u ∈ r.connectedUsers tenant ↔
      ∃ i m, f.entry u i = some m ∧ ∀ t, tenant = some t → m.tenant = t
  clientCount : r.clientCount = {k : String × String | (f.entry k.1 k.2).isSome}.ncard
  userCount : r.userCount = {u | ∃ i, (f.entry u i).isSome}.ncard
  groupCount : r.groupCount = {g | ∃ u i, (f.group g u i).isSome}.ncard

namespace Agrees
variable {who : Cast} {r : Registry} {f : Flat} (a : Agrees who r f)
include a

theorem shows : r.Shows f where
  entry := a.entry
  group := a.group
  userBucket u := by simpa only [a.entry] using userBucketIff a.pruned u
  groupBucket g := by simpa only [a.group] using groupBucketIff a.pruned g
  innerBucket g u := by simpa only [a.group] using innerBucketIff a.pruned g u

theorem keyed : r.users.Keyed := by
  intro u i m found
  exact (a.genuine.entry u i m ((a.entry u i).symm.trans found)).2

theorem groupKeyed {g : String} {us : Users} (held : r.groups.get? g = some us) : us.Keyed := by
  intro u i m found
  have lookup : r.groupMember? g u i = some m := by simp [groupMember?, held, found]
  exact (a.genuine.group g u i m ((a.group g u i).symm.trans lookup)).2

theorem memMembers (m : Member) : m ∈ r.members ↔ ∃ u i, f.entry u i = some m := by
  rw [members, Users.memMembers]
  constructor
  · rintro ⟨u, i, found⟩
    exact ⟨u, i, (a.entry u i).symm.trans found⟩
  · rintro ⟨u, i, found⟩
    exact ⟨u, i, (a.entry u i).trans found⟩

theorem memBucket {user : String} {b : Bucket} (held : r.users.get? user = some b) (m : Member) :
    m ∈ b.values ↔ ∃ i, f.entry user i = some m := by
  have lookup : ∀ i, b.get? i = f.entry user i := fun i => (Users.atOfGet held i).symm.trans (a.entry user i)
  simp only [Table.memValues, lookup]

theorem replies (op : Op) : f.Replies who op (r.perform who op).1 := by
  cases op with
  | insert h => exact a.entry _ _
  | remove h => exact a.containsObject h
  | removeUser user =>
    cases held : r.users.get? user with
    | none =>
      have lookup : ∀ i, f.entry user i = none := by
        intro i
        simp [← a.entry, client?, Users.at?, held]
      simpa [perform, Registry.removeUser, held, Flat.Replies] using lookup
    | some b =>
      have nonempty : b.values ≠ [] := by
        obtain ⟨i, m, stored⟩ := Table.someOfNonempty (a.pruned.users user b held)
        exact List.ne_nil_of_mem ((b.memValues m).mpr ⟨i, stored⟩)
      have shape : (r.perform who (.removeUser user)).1 = .bucket (some b.values) := by
        simp [perform, Registry.removeUser, held]
      rw [shape]
      exact ⟨nonempty, Users.bucketNodup a.keyed held, a.memBucket held⟩
  | join group h => trivial
  | leave group h => exact a.isMemberObject group h
  | clear => exact ⟨Users.membersNodup a.keyed, a.memMembers⟩

theorem ownEntry (m : Member) : (∃ u i, f.entry u i = some m) ↔ f.entry m.user m.id = some m := by
  constructor
  · rintro ⟨u, i, found⟩
    obtain ⟨-, rfl, rfl⟩ := a.genuine.entry u i m found
    exact found
  · exact fun found => ⟨m.user, m.id, found⟩

theorem ownGroupEntry (g : String) (m : Member) :
    (∃ u i, f.group g u i = some m) ↔ f.group g m.user m.id = some m := by
  constructor
  · rintro ⟨u, i, found⟩
    obtain ⟨-, rfl, rfl⟩ := a.genuine.group g u i m found
    exact found
  · exact fun found => ⟨m.user, m.id, found⟩

theorem userMembersReport (user : String) : (r.userMembers user).Nodup ∧
    ∀ m, m ∈ r.userMembers user ↔ m.user = user ∧ f.entry m.user m.id = some m := by
  have own : ∀ m, (∃ i, f.entry user i = some m) ↔ m.user = user ∧ f.entry m.user m.id = some m := by
    intro m
    constructor
    · rintro ⟨i, found⟩
      obtain ⟨-, rfl, rfl⟩ := a.genuine.entry user i m found
      exact ⟨rfl, found⟩
    · rintro ⟨rfl, found⟩
      exact ⟨m.id, found⟩
  cases held : r.users.get? user with
  | none =>
    have absent : ∀ i, f.entry user i = none := by
      intro i
      simp [← a.entry, client?, Users.at?, held]
    simp [userMembers, held, ← own, absent]
  | some b =>
    simp only [userMembers, held, Option.map_some, Option.getD_some]
    exact ⟨Users.bucketNodup a.keyed held, fun m => (a.memBucket held m).trans (own m)⟩

theorem groupMembersReport (g : String) : (r.groupMembers g).Nodup ∧
    ∀ m, m ∈ r.groupMembers g ↔ f.group g m.user m.id = some m := by
  cases held : r.groups.get? g with
  | none =>
    have absent : ∀ u i, f.group g u i = none := by
      intro u i
      simp [← a.group, groupMember?, held]
    simp [groupMembers, held, absent]
  | some us =>
    have lookup : ∀ u i, us.at? u i = f.group g u i := by
      intro u i
      simp [← a.group, groupMember?, held]
    simp only [groupMembers, held, Option.map_some, Option.getD_some]
    refine ⟨Users.membersNodup (a.groupKeyed held), fun m => ?_⟩
    rw [Users.memMembers]
    simpa only [lookup] using a.ownGroupEntry g m

theorem groupUsersReport (g : String) : (r.groupUsers g).Nodup ∧
    ∀ u, u ∈ r.groupUsers g ↔ ∃ i, (f.group g u i).isSome := by
  have bucket := fun u => a.shows.innerBucket g u
  cases held : r.groups.get? g with
  | none => simpa [groupUsers, held] using bucket
  | some us =>
    simp only [groupUsers, held, Option.map_some, Option.getD_some]
    refine ⟨us.keysNodup, fun u => ?_⟩
    rw [Table.memKeys]
    simpa [held] using bucket u

theorem connectedUsersReport (tenant : Option String) : (r.connectedUsers tenant).Nodup ∧
    ∀ u, u ∈ r.connectedUsers tenant ↔
      ∃ i m, f.entry u i = some m ∧ ∀ t, tenant = some t → m.tenant = t := by
  constructor
  · exact List.Nodup.sublist (List.Sublist.map _ List.filter_sublist) r.users.distinct
  · intro u
    simp only [connectedUsers, List.mem_map, List.mem_filter, Prod.exists, exists_and_right,
      exists_eq_right, Table.memEntries]
    constructor
    · rintro ⟨b, held, suits⟩
      cases tenant with
      | none =>
        obtain ⟨i, m, stored⟩ := Table.someOfNonempty (a.pruned.users u b held)
        have found := (a.memBucket held m).mp ((b.memValues m).mpr ⟨i, stored⟩)
        obtain ⟨i, found⟩ := found
        exact ⟨i, m, found, by simp⟩
      | some t =>
        obtain ⟨m, member, same⟩ := List.any_eq_true.mp suits
        obtain ⟨i, found⟩ := (a.memBucket held m).mp member
        exact ⟨i, m, found, by simpa using same⟩
    · rintro ⟨i, m, found, suits⟩
      obtain ⟨b, held⟩ := Option.isSome_iff_exists.mp
        ((a.shows.userBucket u).mpr ⟨i, by simp [found]⟩)
      refine ⟨b, held, ?_⟩
      cases tenant with
      | none => rfl
      | some t =>
        have member := (a.memBucket held m).mpr ⟨i, found⟩
        exact List.any_eq_true.mpr ⟨m, member, by simpa using suits t rfl⟩

theorem clientCountReport :
    r.clientCount = {k : String × String | (f.entry k.1 k.2).isSome}.ncard := by
  have distinct : (r.members.map fun m => (m.user, m.id)).Nodup := by
    refine List.Nodup.map_on ?_ (Users.membersNodup a.keyed)
    intro m inside m' inside' same
    have found := (a.ownEntry m).mp ((a.memMembers m).mp inside)
    have found' := (a.ownEntry m').mp ((a.memMembers m').mp inside')
    obtain ⟨user, id⟩ := Prod.mk.inj same
    rw [user, id, found'] at found
    exact (Option.some.inj found).symm
  rw [Table.ncardOfList distinct, List.length_map, clientCount]
  rintro ⟨u, i⟩
  simp only [Set.mem_ofPred_eq, List.mem_map, Prod.mk.injEq, Option.isSome_iff_exists, a.memMembers]
  constructor
  · rintro ⟨m, found⟩
    exact ⟨m, ⟨u, i, found⟩, (a.genuine.entry u i m found).2⟩
  · rintro ⟨m, present, rfl, rfl⟩
    exact ⟨m, (a.ownEntry m).mp present⟩

theorem reports : r.Reports f where
  contains m := by rw [containsIff, a.entry]
  isMember g m := by rw [isMemberIff, a.group]
  members := ⟨Users.membersNodup a.keyed, fun m => (a.memMembers m).trans (a.ownEntry m)⟩
  userMembers := a.userMembersReport
  groupMembers := a.groupMembersReport
  groupUsers := a.groupUsersReport
  connectedUsers := a.connectedUsersReport
  clientCount := a.clientCountReport
  userCount := by
    rw [userCount, ← Table.keysLength]
    exact (Table.ncardOfList r.users.keysNodup fun u => by
      rw [Table.memKeys, a.shows.userBucket]; rfl).symm
  groupCount := by
    rw [groupCount, ← Table.keysLength]
    exact (Table.ncardOfList r.groups.keysNodup fun g => by
      rw [Table.memKeys, a.shows.groupBucket]; rfl).symm

end Agrees

/-- After any operations the buckets hold exactly what the picture shows, each entry under the user
and id of its own client, every query reports the picture, and the next operation answers as it
allows. -/
theorem refinesFlatPicture (who : Cast) (ops : List Op) :
    (after who ops).Shows (Flat.after who ops) ∧ (Flat.after who ops).Genuine who ∧
      (after who ops).Reports (Flat.after who ops) ∧
      ∀ op, (Flat.after who ops).Replies who op ((after who ops).perform who op).1 := by
  have a := agreesAfter who ops
  exact ⟨a.shows, a.genuine, a.reports, a.replies⟩

end RelayHub.Registry
