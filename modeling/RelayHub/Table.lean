/-! Finite maps with text keys. Entries keep the order in which their keys first came, and no key
occurs twice. `get?` is the view through which every operation is described. -/
namespace RelayHub

structure Table (α : Type) where
  entries : List (String × α) := []
  distinct : (entries.map Prod.fst).Nodup := by simp

namespace Table
variable {α β : Type}

def put (k : String) (v : α) : List (String × α) → List (String × α)
  | [] => [(k, v)]
  | (other, w) :: rest => if other = k then (k, v) :: rest else (other, w) :: put k v rest

def keep (f : String → α → Option β) (l : List (String × α)) : List (String × β) :=
  l.filterMap fun e => (f e.1 e.2).map (e.1, ·)

theorem putKeys (k : String) (v : α) (l : List (String × α)) :
    (put k v l).map Prod.fst =
      if k ∈ l.map Prod.fst then l.map Prod.fst else l.map Prod.fst ++ [k] := by
  induction l with
  | nil => simp [put]
  | cons e rest ih =>
    by_cases here : e.1 = k
    · simp [put, here]
    · simp only [put, here, if_false, List.map_cons, ih, List.mem_cons, Ne.symm here, false_or]
      split <;> rfl

theorem putDistinct (k : String) (v : α) {l : List (String × α)} (h : (l.map Prod.fst).Nodup) :
    ((put k v l).map Prod.fst).Nodup := by
  rw [putKeys]
  split
  · exact h
  · rename_i fresh
    refine List.nodup_append.mpr ⟨h, by simp, fun other there last member same => ?_⟩
    exact fresh (List.mem_singleton.mp member ▸ same ▸ there)

theorem putMember {k : String} {v : α} {l : List (String × α)} {e : String × α} (member : e ∈ put k v l) :
    e = (k, v) ∨ e ∈ l := by
  induction l with
  | nil => exact .inl (List.mem_singleton.mp member)
  | cons first rest ih =>
    rw [put] at member
    split at member
    · exact (List.mem_cons.mp member).imp_right (List.mem_cons_of_mem _)
    · rcases List.mem_cons.mp member with rfl | later
      · exact .inr List.mem_cons_self
      · exact (ih later).imp_right (List.mem_cons_of_mem _)

theorem keepKeys (f : String → α → Option β) (l : List (String × α)) :
    ((keep f l).map Prod.fst).Sublist (l.map Prod.fst) := by
  induction l with
  | nil => exact .slnil
  | cons e rest ih =>
    rw [keep, List.filterMap_cons]
    cases f e.1 e.2 with
    | none => exact ih.cons _
    | some w => exact ih.cons_cons _

theorem keepDistinct (f : String → α → Option β) {l : List (String × α)}
    (h : (l.map Prod.fst).Nodup) : ((keep f l).map Prod.fst).Nodup :=
  h.sublist (keepKeys f l)

def empty : Table α := {}

instance : Inhabited (Table α) := ⟨empty⟩

def get? (t : Table α) (k : String) : Option α := t.entries.lookup k

def insert (t : Table α) (k : String) (v : α) : Table α := ⟨put k v t.entries, putDistinct k v t.distinct⟩

def filterMap (t : Table α) (f : String → α → Option β) : Table β :=
  ⟨keep f t.entries, keepDistinct f t.distinct⟩

def erase (t : Table α) (k : String) : Table α :=
  t.filterMap fun k' v => if k' = k then none else some v

def isEmpty (t : Table α) : Bool := t.entries.isEmpty
def size (t : Table α) : Nat := t.entries.length
def keys (t : Table α) : List String := t.entries.map Prod.fst
def values (t : Table α) : List α := t.entries.map Prod.snd

theorem lookupCons (k other : String) (v : α) (l : List (String × α)) :
    ((other, v) :: l).lookup k = if k = other then some v else l.lookup k := by
  by_cases same : k = other
  · rw [if_pos same, same, List.lookup_cons_self]
  · rw [if_neg same, List.lookup_cons, beq_false_of_ne same]

theorem lookupPut (k other : String) (v : α) (l : List (String × α)) :
    (put other v l).lookup k = if k = other then some v else l.lookup k := by
  induction l with
  | nil => exact lookupCons k other v []
  | cons e rest ih =>
    rw [put]
    split
    · rename_i same
      rw [lookupCons, lookupCons, same]
      split <;> rfl
    · rename_i apart
      rw [lookupCons, lookupCons, ih]
      split
      · rename_i here
        rw [if_neg (here ▸ apart)]
      · rfl

theorem lookupAbsent {k : String} {l : List (String × α)} (absent : k ∉ l.map Prod.fst) : l.lookup k = none :=
  List.lookup_eq_none_iff.mpr fun _ member => bne_iff_ne.mpr fun same =>
    absent (same ▸ List.mem_map_of_mem member)

theorem lookupKept (f : String → α → Option β) (k : String) {l : List (String × α)}
    (distinct : (l.map Prod.fst).Nodup) : (keep f l).lookup k = (l.lookup k).bind (f k) := by
  induction l with
  | nil => rfl
  | cons e rest ih =>
    obtain ⟨fresh, distinct⟩ := List.nodup_cons.mp distinct
    specialize ih distinct
    rw [keep, List.filterMap_cons, lookupCons]
    by_cases here : k = e.1
    · rw [here] at ih ⊢
      rw [if_pos rfl, Option.bind_some]
      cases kept : f e.1 e.2 with
      | none => exact ih.trans (by rw [lookupAbsent fresh, Option.bind_none])
      | some w => exact (lookupCons ..).trans (if_pos rfl)
    · rw [if_neg here]
      cases kept : f e.1 e.2 with
      | none => exact ih
      | some w => exact ((lookupCons ..).trans (if_neg here)).trans ih

@[simp] theorem getEmpty (k : String) : (empty : Table α).get? k = none := rfl

theorem getInsert (t : Table α) (k k' : String) (v : α) :
    (t.insert k v).get? k' = if k' = k then some v else t.get? k' := lookupPut k' k v t.entries

theorem getFilterMap (t : Table α) (f : String → α → Option β) (k : String) :
    (t.filterMap f).get? k = (t.get? k).bind (f k) := lookupKept f k t.distinct

theorem getErase (t : Table α) (k k' : String) :
    (t.erase k).get? k' = if k' = k then none else t.get? k' := by
  rw [erase, getFilterMap]
  by_cases h : k' = k
  · simp [h]
  · simp [h]

end Table
end RelayHub
