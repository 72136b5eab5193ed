import RelayHub.Proofs.Json.Canonical
import RelayHub.Table

/-! What stands under a name in an object. The canonical form keeps the last of it, in canonical form. -/
namespace RelayHub.Json

def named (name : String) (ms : List (String × Json)) : List Json := (ms.filter (·.1 = name)).map (·.2)

theorem namedHere (name : String) (v : Json) (ms : List (String × Json)) :
    named name ((name, v) :: ms) = v :: named name ms := by
  simp [named]

theorem namedElsewhere {name other : String} (apart : other ≠ name) (v : Json) (ms : List (String × Json)) :
    named name ((other, v) :: ms) = named name ms := by
  simp [named, apart]

theorem memberInserted (name key : String) (v : Json) (ms : List (String × Json)) :
    (insertMember key v ms).lookup name = if name = key then some v else ms.lookup name := by
  induction ms with
  | nil => exact Table.lookupCons name key v []
  | cons m ms ih =>
    obtain ⟨other, w⟩ := m
    simp only [insertMember]
    split
    · rename_i same
      rw [Table.lookupCons, Table.lookupCons, same]
      split <;> rfl
    · rename_i apart
      split
      · exact Table.lookupCons ..
      · rw [Table.lookupCons, Table.lookupCons, ih]
        split
        · rename_i here
          rw [if_neg (here ▸ Ne.symm apart)]
        · rfl

theorem memberSorted (name : String) (ms sorted : List (String × Json)) :
    (ms.foldl (fun sorted m => insertMember m.1 m.2 sorted) sorted).lookup name =
      (named name ms).getLast?.or (sorted.lookup name) := by
  induction ms generalizing sorted with
  | nil => rfl
  | cons m ms ih =>
    obtain ⟨key, v⟩ := m
    rw [List.foldl_cons, ih, memberInserted]
    by_cases same : key = name
    · subst same
      simp [namedHere, List.getLast?_cons]
    · rw [namedElsewhere same, if_neg (Ne.symm same)]

theorem namedCanonical (name : String) (ms : List (String × Json)) :
    named name (canonicalMembers ms) = (named name ms).map canonical := by
  induction ms with
  | nil => rfl
  | cons m ms ih =>
    obtain ⟨key, v⟩ := m
    rw [canonicalMembers]
    by_cases same : key = name
    · subst same
      rw [namedHere, namedHere, List.map_cons, ih]
    · rw [namedElsewhere same, namedElsewhere same, ih]

theorem canonicalObject (ms : List (String × Json)) : ∃ kept, (Json.object ms).canonical = .object kept ∧
    Sorted kept ∧ ∀ name, member? name kept = (named name ms).getLast?.map canonical := by
  refine ⟨sortMembers (canonicalMembers ms), rfl, sortSorted _, fun name => ?_⟩
  rw [member?, sortMembers, memberSorted, namedCanonical]
  simp

end RelayHub.Json
