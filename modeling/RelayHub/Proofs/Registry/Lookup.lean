import RelayHub.Registry
import RelayHub.Proofs.Table

/-! Every operation on the indexes, described by what a lookup finds afterwards, and the buckets
that are there. The buckets stay keyed by their own clients and are never left empty. -/
namespace RelayHub

namespace Users

theorem atOfGet {us : Users} {user : String} {b : Bucket} (h : us.get? user = some b) (id : String) :
    us.at? user id = b.get? id := by simp [at?, h]

theorem atPut (us : Users) (m : Member) (user id : String) :
    (us.put m).at? user id = if user = m.user ∧ id = m.id then some m else us.at? user id := by
  simp only [put, at?, Table.getInsert]
  by_cases u : user = m.user
  · subst u
    simp only [if_true, Option.bind_some, Table.getInsert, true_and]
    cases us.get? m.user <;> simp
  · simp [u]

theorem dropEmptyGet (b : Bucket) (id : String) : (dropEmpty b).bind (·.get? id) = b.get? id := by
  unfold dropEmpty
  cases e : b.isEmpty with
  | true => simp [Table.getOfEmpty e]
  | false => simp

theorem eraseFromGet (b : Bucket) (m : Member) (id : String) :
    (eraseFrom b m).get? id =
      if id = m.id ∧ (b.get? m.id).any (·.handle = m.handle) then none else b.get? id := by
  unfold eraseFrom
  by_cases held : (b.get? m.id).any (·.handle = m.handle)
  · simp [held, Table.getErase]
  · simp [held]

theorem atTake (us : Users) (m : Member) (user id : String) :
    (us.take m).at? user id =
      if user = m.user ∧ id = m.id ∧ us.holds m then none else us.at? user id := by
  simp only [take, at?, Table.getFilterMap]
  cases found : us.get? user with
  | none => simp
  | some b =>
    by_cases u : user = m.user
    · subst u
      have holds : us.holds m = (b.get? m.id).any (·.handle = m.handle) := by
        rw [Users.holds, atOfGet found]
      simp only [Option.bind_some, if_true, dropEmptyGet, eraseFromGet, holds, true_and]
    · simp [u]

theorem atErase (us : Users) (user user' id : String) :
    Users.at? (us.erase user) user' id = if user' = user then none else us.at? user' id := by
  by_cases u : user' = user <;> simp [at?, Table.getErase, u]

def Full (us : Users) : Prop := ∀ user b, us.get? user = some b → b.isEmpty = false

theorem fullPut {us : Users} (h : us.Full) (m : Member) : (us.put m).Full := by
  intro user b found
  rw [put, Table.getInsert] at found
  split at found
  · cases found
    have stored : ((us.get? m.user).getD .empty |>.insert m.id m).get? m.id = some m := by
      simp [Table.getInsert]
    exact Table.nonemptyOfSome stored
  · exact h user b found

theorem dropEmptySome {b b' : Bucket} (h : dropEmpty b = some b') : b'.isEmpty = false := by
  unfold dropEmpty at h
  split at h
  · contradiction
  · cases h
    simp_all

theorem fullTake {us : Users} (h : us.Full) (m : Member) : (us.take m).Full := by
  intro user b found
  rw [take, Table.getFilterMap] at found
  obtain ⟨before, held, kept⟩ := Option.bind_eq_some_iff.mp found
  split at kept
  · exact dropEmptySome kept
  · cases kept
    exact h user _ held

theorem fullErase {us : Users} (h : us.Full) (user : String) : Full (us.erase user) := by
  intro user' b found
  rw [Table.getErase] at found
  split at found
  · contradiction
  · exact h user' b found

theorem fullEmpty : Full .empty := by
  intro user b found
  simp at found

theorem bucketIff {us : Users} (h : us.Full) (user : String) :
    (us.get? user).isSome ↔ ∃ id, (us.at? user id).isSome := by
  constructor
  · intro found
    obtain ⟨b, held⟩ := Option.isSome_iff_exists.mp found
    obtain ⟨id, m, stored⟩ := Table.someOfNonempty (h user b held)
    exact ⟨id, by simp [at?, held, stored]⟩
  · rintro ⟨id, found⟩
    cases held : us.get? user with
    | none => simp [at?, held] at found
    | some b => rfl

theorem nonemptyIff {us : Users} (h : us.Full) :
    us.isEmpty = false ↔ ∃ user id, (us.at? user id).isSome := by
  constructor
  · intro some
    obtain ⟨user, b, held⟩ := Table.someOfNonempty some
    exact ⟨user, (bucketIff h user).mp (by simp [held])⟩
  · rintro ⟨user, found⟩
    obtain ⟨b, held⟩ := Option.isSome_iff_exists.mp ((bucketIff h user).mpr found)
    exact Table.nonemptyOfSome held

def Keyed (us : Users) : Prop := ∀ user id m, us.at? user id = some m → m.user = user ∧ m.id = id

theorem memMembers (us : Users) (m : Member) :
    m ∈ us.members ↔ ∃ user id, us.at? user id = some m := by
  simp only [members, List.mem_flatMap, Table.memValues, at?, Option.bind_eq_some_iff]
  constructor
  · rintro ⟨b, ⟨user, held⟩, id, stored⟩
    exact ⟨user, id, b, held, stored⟩
  · rintro ⟨user, id, b, held, stored⟩
    exact ⟨b, ⟨user, held⟩, id, stored⟩

theorem bucketNodup {us : Users} (h : us.Keyed) {user : String} {b : Bucket}
    (held : us.get? user = some b) : b.values.Nodup :=
  Table.valuesNodup Member.id fun id m stored => (h user id m (by simp [at?, held, stored])).2

theorem bucketUser {us : Users} (h : us.Keyed) {user : String} {b : Bucket}
    (held : us.get? user = some b) {m : Member} (member : m ∈ b.values) : m.user = user := by
  obtain ⟨id, stored⟩ := (b.memValues m).mp member
  exact (h user id m (by simp [at?, held, stored])).1

theorem membersNodup {us : Users} (h : us.Keyed) : us.members.Nodup := by
  have apart : us.entries.Pairwise fun a b => List.Disjoint a.2.values b.2.values := by
    have keys : us.entries.Pairwise fun a b => a.1 ≠ b.1 := List.pairwise_map.mp us.distinct
    refine List.Pairwise.imp_of_mem ?_ keys
    rintro ⟨u, b⟩ ⟨u', b'⟩ left right differs m inLeft inRight
    have one := bucketUser h ((us.memEntries u b).mp left) inLeft
    have two := bucketUser h ((us.memEntries u' b').mp right) inRight
    exact differs (one.symm.trans two)
  refine List.nodup_flatMap.mpr ⟨?_, List.pairwise_map.mpr apart⟩
  intro b member
  obtain ⟨user, held⟩ := (us.memValues b).mp member
  exact bucketNodup h held

end Users
end RelayHub
