import RelayHub.Proofs.Registry.Laws

/-! The indexes against a flat picture of them: one partial map by user and id, one by group, user
and id. Whatever is done to a registry, it holds exactly the entries of the picture, answers like it,
and has a bucket exactly where the picture has an entry. The order inside lists stays open. -/
namespace RelayHub.Registry

/- Who each client object is. Several objects may go by one user and id. -/
structure Cast where
  user : Handle → String
  id : Handle → String
  tenant : Handle → String

def Cast.member (who : Cast) (h : Handle) : Member := ⟨h, who.user h, who.id h, who.tenant h⟩

inductive Op where
  | insert (client : Handle)
  | remove (client : Handle)
  | removeUser (user : String)
  | join (group : String) (client : Handle)
  | leave (group : String) (client : Handle)
  | clear
  deriving DecidableEq, Repr

inductive Reply where
  | entry (m : Option Member)
  | flag (b : Bool)
  | bucket (ms : Option (List Member))
  | all (ms : List Member)
  | done
  deriving DecidableEq, Repr

def perform (who : Cast) (r : Registry) : Op → Reply × Registry
  | .insert h => (.entry (r.insert (who.member h)).1, (r.insert (who.member h)).2)
  | .remove h => (.flag (r.remove (who.member h)).1, (r.remove (who.member h)).2)
  | .removeUser user => (.bucket (r.removeUser user).1, (r.removeUser user).2)
  | .join group h => (.done, r.join group (who.member h))
  | .leave group h => (.flag (r.leave group (who.member h)).1, (r.leave group (who.member h)).2)
  | .clear => (.all r.clear.1, r.clear.2)

def after (who : Cast) (ops : List Op) : Registry :=
  ops.foldl (fun r op => (r.perform who op).2) {}

structure Flat where
  entry : String → String → Option Member := fun _ _ => none
  group : String → String → String → Option Member := fun _ _ _ => none

namespace Flat

def next (who : Cast) (f : Flat) : Op → Flat
  | .insert h => { f with
      entry := fun u i =>
        if u = who.user h ∧ i = who.id h then some (who.member h) else f.entry u i }
  | .remove h => {
      entry := fun u i =>
        if u = who.user h ∧ i = who.id h ∧ f.entry u i = some (who.member h) then none
        else f.entry u i
      group := fun g u i =>
        if u = who.user h ∧ i = who.id h ∧ f.group g u i = some (who.member h) then none
        else f.group g u i }
  | .removeUser user => {
      entry := fun u i => if u = user then none else f.entry u i
      group := fun g u i => if u = user then none else f.group g u i }
  | .join group h => { f with
      group := fun g u i =>
        if g = group ∧ u = who.user h ∧ i = who.id h then some (who.member h) else f.group g u i }
  | .leave group h => { f with
      group := fun g u i =>
        if g = group ∧ u = who.user h ∧ i = who.id h ∧ f.group g u i = some (who.member h) then none
        else f.group g u i }
  | .clear => {}

def after (who : Cast) (ops : List Op) : Flat := ops.foldl (next who) {}

def Replies (who : Cast) (f : Flat) : Op → Reply → Prop
  | .insert h, .entry old => old = f.entry (who.user h) (who.id h)
  | .remove h, .flag b => b = true ↔ f.entry (who.user h) (who.id h) = some (who.member h)
  | .removeUser user, .bucket none => ∀ i, f.entry user i = none
  | .removeUser user, .bucket (some ms) =>
    ms ≠ [] ∧ ms.Nodup ∧ ∀ m, m ∈ ms ↔ ∃ i, f.entry user i = some m
  | .join _ _, .done => True
  | .leave group h, .flag b =>
    b = true ↔ f.group group (who.user h) (who.id h) = some (who.member h)
  | .clear, .all ms => ms.Nodup ∧ ∀ m, m ∈ ms ↔ ∃ u i, f.entry u i = some m
  | _, _ => False

structure Genuine (who : Cast) (f : Flat) : Prop where
  entry : ∀ u i m, f.entry u i = some m → m = who.member m.handle ∧ m.user = u ∧ m.id = i
  group : ∀ g u i m, f.group g u i = some m → m = who.member m.handle ∧ m.user = u ∧ m.id = i

theorem genuineNext {who : Cast} {f : Flat} (h : f.Genuine who) (op : Op) :
    (f.next who op).Genuine who := by
  constructor
  · intro u i m found
    cases op with
    | insert c =>
      simp only [next] at found
      split at found
      · rename_i key
        cases found
        exact ⟨rfl, key.1.symm, key.2.symm⟩
      · exact h.entry u i m found
    | remove c => exact h.entry u i m (Option.ite_none_left_eq_some.mp found).2
    | removeUser user => exact h.entry u i m (Option.ite_none_left_eq_some.mp found).2
    | join group c => exact h.entry u i m found
    | leave group c => exact h.entry u i m found
    | clear => contradiction
  · intro g u i m found
    cases op with
    | insert c => exact h.group g u i m found
    | remove c => exact h.group g u i m (Option.ite_none_left_eq_some.mp found).2
    | removeUser user => exact h.group g u i m (Option.ite_none_left_eq_some.mp found).2
    | join group c =>
      simp only [next] at found
      split at found
      · rename_i key
        cases found
        exact ⟨rfl, key.2.1.symm, key.2.2.symm⟩
      · exact h.group g u i m found
    | leave group c => exact h.group g u i m (Option.ite_none_left_eq_some.mp found).2
    | clear => contradiction

end Flat

structure Agrees (who : Cast) (r : Registry) (f : Flat) : Prop where
  pruned : r.Pruned
  genuine : f.Genuine who
  entry : ∀ u i, r.client? u i = f.entry u i
  group : ∀ g u i, r.groupMember? g u i = f.group g u i

theorem agreesEmpty (who : Cast) : Agrees who {} {} where
  pruned := prunedEmpty
  genuine := by constructor <;> intros <;> contradiction
  entry _ _ := rfl
  group _ _ _ := rfl

theorem sameObject {who : Cast} {found : Option Member} (h : Handle)
    (genuine : ∀ m, found = some m → m = who.member m.handle) :
    found.any (·.handle = h) = true ↔ found = some (who.member h) := by
  cases found with
  | none => simp
  | some m =>
    have own := genuine m rfl
    simp only [Option.any_some, decide_eq_true_eq, Option.some.injEq]
    constructor
    · intro handle
      rw [own, handle]
    · intro same
      rw [same]
      rfl

namespace Agrees
variable {who : Cast} {r : Registry} {f : Flat} (a : Agrees who r f)
include a

theorem containsObject (h : Handle) : r.contains (who.member h) = true ↔
    f.entry (who.user h) (who.id h) = some (who.member h) := by
  rw [containsIff, a.entry]
  exact sameObject h fun m found => (a.genuine.entry _ _ m found).1

theorem isMemberObject (group : String) (h : Handle) : r.isMember group (who.member h) = true ↔
    f.group group (who.user h) (who.id h) = some (who.member h) := by
  rw [isMemberIff, a.group]
  exact sameObject h fun m found => (a.genuine.group _ _ _ m found).1

theorem insert (h : Handle) :
    Agrees who (r.perform who (.insert h)).2 (f.next who (.insert h)) where
  pruned := prunedInsert a.pruned _
  genuine := Flat.genuineNext a.genuine _
  entry u i := by simp only [perform, insertClient, a.entry, Flat.next, Cast.member]
  group := a.group

theorem remove (h : Handle) :
    Agrees who (r.perform who (.remove h)).2 (f.next who (.remove h)) where
  pruned := prunedRemove a.pruned _
  genuine := Flat.genuineNext a.genuine _
  entry u i := by
    simp only [perform, removeClient, a.entry, Flat.next, a.containsObject]
    by_cases key : u = who.user h ∧ i = who.id h
    · obtain ⟨rfl, rfl⟩ := key
      simp [Cast.member]
    · simp only [Cast.member, ← and_assoc, key, false_and]
  group g u i := by
    simp only [perform, removeGroupMember, a.group, Flat.next, a.isMemberObject]
    by_cases key : u = who.user h ∧ i = who.id h
    · obtain ⟨rfl, rfl⟩ := key
      simp [Cast.member]
    · simp only [Cast.member, ← and_assoc, key, false_and]

theorem removeUser (user : String) :
    Agrees who (r.perform who (.removeUser user)).2 (f.next who (.removeUser user)) where
  pruned := prunedRemoveUser a.pruned user
  genuine := Flat.genuineNext a.genuine _
  entry u i := by simp only [perform, removeUserClient, a.entry, Flat.next]
  group g u i := by simp only [perform, removeUserGroupMember, a.group, Flat.next]

theorem join (group : String) (h : Handle) :
    Agrees who (r.perform who (.join group h)).2 (f.next who (.join group h)) where
  pruned := prunedJoin a.pruned _ group
  genuine := Flat.genuineNext a.genuine _
  entry := a.entry
  group g u i := by simp only [perform, joinGroupMember, a.group, Flat.next, Cast.member]

theorem leave (group : String) (h : Handle) :
    Agrees who (r.perform who (.leave group h)).2 (f.next who (.leave group h)) where
  pruned := prunedLeave a.pruned _ group
  genuine := Flat.genuineNext a.genuine _
  entry := a.entry
  group g u i := by
    simp only [perform, leaveGroupMember, a.group, Flat.next, a.isMemberObject]
    by_cases key : g = group ∧ u = who.user h ∧ i = who.id h
    · obtain ⟨rfl, rfl, rfl⟩ := key
      simp [Cast.member]
    · have key' : ¬ ((g = group ∧ u = who.user h) ∧ i = who.id h) := by rwa [and_assoc]
      simp only [Cast.member, ← and_assoc, key', false_and]

theorem next (op : Op) : Agrees who (r.perform who op).2 (f.next who op) := by
  cases op with
  | insert h => exact a.insert h
  | remove h => exact a.remove h
  | removeUser user => exact a.removeUser user
  | join group h => exact a.join group h
  | leave group h => exact a.leave group h
  | clear => exact agreesEmpty who

end Agrees

theorem agreesAfter (who : Cast) (ops : List Op) : Agrees who (after who ops) (Flat.after who ops) := by
  unfold after Flat.after
  suffices ∀ r f, Agrees who r f →
      Agrees who (ops.foldl (fun r op => (r.perform who op).2) r) (ops.foldl (Flat.next who) f) from
    this {} {} (agreesEmpty who)
  induction ops with
  | nil => exact fun r f a => a
  | cons op ops ih => exact fun r f a => ih _ _ (a.next op)

end RelayHub.Registry
