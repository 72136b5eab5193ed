import RelayHub.Json.Value
import Mathlib.Data.String.Basic
import Mathlib.Order.Defs.LinearOrder

/-! JSON values as trees: how deep they are nested, and the canonical form that payloads are kept in. The form
of a canonical value is the value itself, and the form is never nested deeper. -/
namespace RelayHub.Json

theorem induction {P : Json → Prop} (null : P .null) (bool : ∀ b, P (.bool b)) (integer : ∀ n, P (.integer n))
    (real : ∀ x, P (.real x)) (string : ∀ s, P (.string s))
    (array : ∀ items, (∀ v ∈ items, P v) → P (.array items))
    (object : ∀ members, (∀ m ∈ members, P m.2) → P (.object members)) (v : Json) : P v := by
  refine Json.rec (motive_1 := P) (motive_2 := fun items => ∀ v ∈ items, P v)
    (motive_3 := fun members => ∀ m ∈ members, P m.2) (motive_4 := fun m => P m.2)
    null bool integer real string array object ?_ ?_ ?_ ?_ ?_ v
  · exact fun v none => absurd none List.not_mem_nil
  · exact fun v rest here later => List.forall_mem_cons.mpr ⟨here, later⟩
  · exact fun v none => absurd none List.not_mem_nil
  · exact fun m rest here later => List.forall_mem_cons.mpr ⟨here, later⟩
  · exact fun name v here => here

mutual
def levels : Json → Nat
  | .array items => itemLevels items + 1
  | .object members => memberLevels members + 1
  | _ => 0

def itemLevels : List Json → Nat
  | [] => 0
  | v :: rest => max (levels v) (itemLevels rest)

def memberLevels : List (String × Json) → Nat
  | [] => 0
  | (_, v) :: rest => max (levels v) (memberLevels rest)
end

theorem itemLevelsIff {items : List Json} {n : Nat} : itemLevels items ≤ n ↔ ∀ v ∈ items, levels v ≤ n := by
  induction items with
  | nil => simp [itemLevels]
  | cons v rest ih => simp [itemLevels, ih]

theorem memberLevelsIff {members : List (String × Json)} {n : Nat} :
    memberLevels members ≤ n ↔ ∀ m ∈ members, levels m.2 ≤ n := by
  induction members with
  | nil => simp [memberLevels]
  | cons m rest ih => simp only [memberLevels, Nat.max_le, ih, List.forall_mem_cons]

theorem canonicalItemsMap (items : List Json) : canonicalItems items = items.map canonical := by
  induction items with
  | nil => rfl
  | cons v rest ih => simp [canonicalItems, ih]

theorem canonicalMembersMap (members : List (String × Json)) :
    canonicalMembers members = members.map fun m => (m.1, m.2.canonical) := by
  induction members with
  | nil => rfl
  | cons m rest ih => simp [canonicalMembers, ih]

def Sorted (members : List (String × Json)) : Prop := members.Pairwise fun a b => a.1 < b.1

section Insert
variable {name : String} {value : Json} {members : List (String × Json)}

theorem insertMem {m : String × Json} (member : m ∈ insertMember name value members) :
    m = (name, value) ∨ m ∈ members := by
  induction members with
  | nil => exact .inl (List.mem_singleton.mp member)
  | cons head rest ih =>
    simp only [insertMember] at member
    split at member
    · exact (List.mem_cons.mp member).imp_right (List.mem_cons_of_mem _)
    · split at member
      · exact List.mem_cons.mp member
      · rcases List.mem_cons.mp member with here | there
        · exact .inr (here ▸ List.mem_cons_self)
        · exact (ih there).imp_right (List.mem_cons_of_mem _)

theorem insertSorted (sorted : Sorted members) : Sorted (insertMember name value members) := by
  induction members with
  | nil => exact List.pairwise_singleton _ _
  | cons head rest ih =>
    obtain ⟨first, later⟩ := List.pairwise_cons.mp sorted
    simp only [insertMember]
    split
    · rename_i same
      subst same
      exact List.pairwise_cons.mpr ⟨first, later⟩
    · rename_i apart
      split
      · rename_i below
        refine List.pairwise_cons.mpr ⟨fun m member => ?_, sorted⟩
        rcases List.mem_cons.mp member with rfl | there
        · exact below
        · exact below.trans (first m there)
      · rename_i above
        have below : head.1 < name := lt_of_le_of_ne (not_lt.mp above) (Ne.symm apart)
        refine List.pairwise_cons.mpr ⟨fun m member => ?_, ih later⟩
        rcases insertMem member with rfl | there
        · exact below
        · exact first m there

theorem insertLast (above : ∀ m ∈ members, m.1 < name) :
    insertMember name value members = members ++ [(name, value)] := by
  induction members with
  | nil => rfl
  | cons head rest ih =>
    obtain ⟨first, later⟩ := List.forall_mem_cons.mp above
    rw [insertMember, if_neg first.ne', if_neg first.asymm, ih later]
    rfl

end Insert

theorem sortFromMem (members sorted : List (String × Json)) {m : String × Json}
    (member : m ∈ members.foldl (fun sorted m => insertMember m.1 m.2 sorted) sorted) :
    m ∈ members ∨ m ∈ sorted := by
  induction members generalizing sorted with
  | nil => exact .inr member
  | cons head rest ih =>
    rcases ih _ member with there | inserted
    · exact .inl (List.mem_cons_of_mem _ there)
    · rcases insertMem inserted with rfl | before
      · exact .inl List.mem_cons_self
      · exact .inr before

theorem sortFromSorted (members : List (String × Json)) {sorted : List (String × Json)} (before : Sorted sorted) :
    Sorted (members.foldl (fun sorted m => insertMember m.1 m.2 sorted) sorted) := by
  induction members generalizing sorted with
  | nil => exact before
  | cons head rest ih => exact ih (insertSorted before)

theorem sortFromRising {members sorted : List (String × Json)} (rising : Sorted (sorted ++ members)) :
    members.foldl (fun sorted m => insertMember m.1 m.2 sorted) sorted = sorted ++ members := by
  induction members generalizing sorted with
  | nil => exact (List.append_nil sorted).symm
  | cons head rest ih =>
    have above : ∀ m ∈ sorted, m.1 < head.1 := fun m member =>
      (List.pairwise_append.mp rising).2.2 m member head List.mem_cons_self
    have split : sorted ++ head :: rest = sorted ++ [head] ++ rest := by simp
    rw [List.foldl_cons, insertLast above, split]
    exact ih (split ▸ rising)

theorem sortMem {members : List (String × Json)} {m : String × Json} (member : m ∈ sortMembers members) :
    m ∈ members := (sortFromMem members [] member).resolve_right List.not_mem_nil

theorem sortSorted (members : List (String × Json)) : Sorted (sortMembers members) :=
  sortFromSorted members List.Pairwise.nil

theorem sortOfSorted {members : List (String × Json)} (sorted : Sorted members) : sortMembers members = members := by
  have rising : Sorted ([] ++ members) := sorted
  exact sortFromRising rising

theorem canonicalMem {members : List (String × Json)} {m : String × Json}
    (member : m ∈ sortMembers (canonicalMembers members)) :
    ∃ m' ∈ members, m = (m'.1, m'.2.canonical) := by
  have mapped := sortMem member
  rw [canonicalMembersMap] at mapped
  obtain ⟨m', member', rfl⟩ := List.mem_map.mp mapped
  exact ⟨m', member', rfl⟩

theorem canonicalTwice (v : Json) : v.canonical.canonical = v.canonical := by
  induction v using Json.induction with
  | null | bool | integer | real | string => rfl
  | array items ih =>
    have same : (items.map canonical).map canonical = items.map canonical := by
      simpa using ih
    simp only [canonical, canonicalItemsMap, same]
  | object members ih =>
    have same : canonicalMembers (sortMembers (canonicalMembers members)) =
        sortMembers (canonicalMembers members) := by
      refine (canonicalMembersMap _).trans ?_
      refine (List.map_congr_left fun m member => ?_).trans (List.map_id _)
      obtain ⟨m', member', rfl⟩ := canonicalMem member
      rw [ih m' member']
      rfl
    simp only [canonical, same, sortOfSorted (sortSorted _)]

theorem canonicalLevels {v : Json} {n : Nat} (within : v.levels ≤ n) : v.canonical.levels ≤ n := by
  induction v using Json.induction generalizing n with
  | null | bool | integer | real | string => exact within
  | array items ih =>
    cases n with
    | zero => simp [levels] at within
    | succ n =>
      have within := itemLevelsIff.mp (Nat.succ_le_succ_iff.mp within)
      refine Nat.succ_le_succ (itemLevelsIff.mpr fun w member => ?_)
      rw [canonicalItemsMap] at member
      obtain ⟨v, member', rfl⟩ := List.mem_map.mp member
      exact ih v member' (within v member')
  | object members ih =>
    cases n with
    | zero => simp [levels] at within
    | succ n =>
      have within := memberLevelsIff.mp (Nat.succ_le_succ_iff.mp within)
      refine Nat.succ_le_succ (memberLevelsIff.mpr fun w member => ?_)
      obtain ⟨m', member', rfl⟩ := canonicalMem member
      exact ih m' member' (within m' member')

end RelayHub.Json
