import RelayHub.Table
import Mathlib.Data.List.Nodup
import Mathlib.Data.Set.Card

/-! The contents of a table seen through `get?`: which entries, keys and values it has, and that
each is there once. -/
namespace RelayHub.Table
variable {α β : Type}

theorem lookupMember {k : String} {v : α} {l : List (String × α)} (distinct : (l.map Prod.fst).Nodup) :
    (k, v) ∈ l ↔ l.lookup k = some v := by
  induction l with
  | nil => simp
  | cons e rest ih =>
    obtain ⟨other, w⟩ := e
    obtain ⟨fresh, distinct⟩ := List.nodup_cons.mp distinct
    rw [lookupCons]
    by_cases here : k = other
    · subst here
      have gone : (k, v) ∉ rest := fun later => fresh (List.mem_map.mpr ⟨_, later, rfl⟩)
      simp [gone, eq_comm]
    · simp [here, ih distinct]

theorem memEntries (t : Table α) (k : String) (v : α) :
    (k, v) ∈ t.entries ↔ t.get? k = some v := lookupMember t.distinct

theorem memValues (t : Table α) (v : α) : v ∈ t.values ↔ ∃ k, t.get? k = some v := by
  simp only [values, List.mem_map, Prod.exists, exists_eq_right, memEntries]

theorem memKeys (t : Table α) (k : String) : k ∈ t.keys ↔ (t.get? k).isSome := by
  simp only [keys, List.mem_map, Prod.exists, exists_and_right, exists_eq_right, memEntries,
    Option.isSome_iff_exists]

theorem keysNodup (t : Table α) : t.keys.Nodup := t.distinct

theorem keysLength (t : Table α) : t.keys.length = t.size := by simp [keys, size]

theorem valuesNodup {t : Table α} (name : α → String)
    (named : ∀ k v, t.get? k = some v → name v = k) : t.values.Nodup := by
  have same : t.values.map name = t.keys := by
    simp only [values, keys, List.map_map]
    apply List.map_congr_left
    rintro ⟨k, v⟩ member
    exact named k v ((t.memEntries k v).mp member)
  exact List.Nodup.of_map name (same ▸ t.keysNodup)

theorem getOfEmpty {t : Table α} (h : t.isEmpty = true) (k : String) : t.get? k = none := by
  have none : t.entries = [] := List.isEmpty_iff.mp h
  simp [get?, none]

theorem someOfNonempty {t : Table α} (h : t.isEmpty = false) : ∃ k v, t.get? k = some v := by
  cases shape : t.entries with
  | nil => simp [isEmpty, shape] at h
  | cons head rest => exact ⟨head.1, head.2, (t.memEntries _ _).mp (by simp [shape])⟩

theorem nonemptyOfSome {t : Table α} {k : String} {v : α} (h : t.get? k = some v) :
    t.isEmpty = false := by
  cases e : t.isEmpty with
  | false => rfl
  | true => rw [getOfEmpty e] at h; contradiction

theorem ncardOfList {l : List β} (h : l.Nodup) {s : Set β} (same : ∀ x, x ∈ s ↔ x ∈ l) :
    s.ncard = l.length := by
  classical
  have eq : s = (l.toFinset : Set β) := by
    ext x
    simp [same]
  rw [eq, Set.ncard_coe_finset, List.toFinset_card_of_nodup h]

end RelayHub.Table
