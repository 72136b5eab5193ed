import RelayHub.Message.Schema
import RelayHub.Proofs.Json.Named
import RelayHub.Proofs.Json.Nesting

/-! What the members of an object tell of the fields of a message. A field is filled by the one member with its
name; it may be left out when it has a value of its own for that. Other members do not count, and neither does
the order of members with different names. -/
namespace RelayHub.Message
open Json (named namedHere namedElsewhere)

def FieldKind.Holds (kind : FieldKind) (found : List Json) (x : kind.Value) : Prop :=
  found = [] ∧ kind.absent? = some x ∨ ∃ v, found = [v] ∧ kind.read v = .ok x

def Filled : (fs : List Field) → List (String × Json) → Values fs → Prop
  | [], _, _ => True
  | f :: fs, ms, (x, xs) => f.kind.Holds (named f.name ms) x ∧ Filled fs ms xs

def FieldKind.Stays (kind : FieldKind) : Option kind.Value → List Json → kind.Value → Prop
  | some y, found, x => found = [] ∧ x = y
  | none, found, x => kind.Holds found x

def FilledFrom : (fs : List Field) → Slots fs → List (String × Json) → Values fs → Prop
  | [], _, _, _ => True
  | f :: fs, (seen, slots), ms, (x, xs) => f.kind.Stays seen (named f.name ms) x ∧ FilledFrom fs slots ms xs

theorem filledFromEmpty {fs : List Field} {ms : List (String × Json)} {xs : Values fs} :
    FilledFrom fs (Slots.empty fs) ms xs ↔ Filled fs ms xs := by
  induction fs with
  | nil => exact Iff.rfl
  | cons f fs ih => exact and_congr Iff.rfl ih

theorem bindIff {α β ε : Type} {x : Except ε α} {f : α → Except ε β} {y : β} :
    x >>= f = .ok y ↔ ∃ a, x = .ok a ∧ f a = .ok y := by
  refine ⟨Json.okBind, ?_⟩
  rintro ⟨a, rfl, ran⟩
  exact ran

theorem valuesIff {fs : List Field} {slots : Slots fs} {xs : Values fs} :
    Slots.values fs slots = .ok xs ↔ FilledFrom fs slots [] xs := by
  induction fs with
  | nil => exact ⟨fun _ => trivial, fun _ => rfl⟩
  | cons f fs ih =>
    obtain ⟨seen, slots⟩ := slots
    obtain ⟨x, xs⟩ := xs
    have last : f.kind.Stays seen (named f.name []) x ↔ seen.or f.kind.absent? = some x := by
      cases seen with
      | some y => simp [FieldKind.Stays, named, eq_comm]
      | none => simp [FieldKind.Stays, FieldKind.Holds, named]
    simp only [Slots.values, FilledFrom, last, ← ih]
    cases seen.or f.kind.absent? with
    | none => simp
    | some y =>
      simp only [bindIff, Option.some.injEq]
      constructor
      · rintro ⟨ys, ran, same⟩
        cases same
        exact ⟨rfl, ran⟩
      · rintro ⟨rfl, ran⟩
        exact ⟨xs, ran, rfl⟩

theorem filledFromElsewhere {fs : List Field} {name : String} (other : ∀ f ∈ fs, f.name ≠ name) (v : Json)
    {slots : Slots fs} {ms : List (String × Json)} {xs : Values fs} :
    FilledFrom fs slots ((name, v) :: ms) xs ↔ FilledFrom fs slots ms xs := by
  induction fs with
  | nil => exact Iff.rfl
  | cons f fs ih =>
    obtain ⟨here, later⟩ := List.forall_mem_cons.mp other
    rw [FilledFrom, FilledFrom, namedElsewhere (Ne.symm here), ih later]

theorem putIff {fs : List Field} (apart : (fs.map Field.name).Nodup) {name : String} {v : Json} {slots : Slots fs}
    {ms : List (String × Json)} {xs : Values fs} :
    (∃ after, Slots.put name v fs slots = .ok after ∧ FilledFrom fs after ms xs) ↔
      FilledFrom fs slots ((name, v) :: ms) xs := by
  induction fs with
  | nil => exact ⟨fun _ => trivial, fun _ => ⟨(), rfl, trivial⟩⟩
  | cons f fs ih =>
    obtain ⟨seen, slots⟩ := slots
    obtain ⟨x, xs⟩ := xs
    obtain ⟨fresh, apart⟩ := List.nodup_cons.mp apart
    by_cases mine : f.name = name
    · subst mine
      have other : ∀ g ∈ fs, g.name ≠ f.name := fun g member same => fresh (same ▸ List.mem_map_of_mem member)
      simp only [Slots.put, if_true, FilledFrom, namedHere, filledFromElsewhere other]
      cases seen with
      | some y => simp [FieldKind.Stays]
      | none =>
        simp only [bindIff]
        constructor
        · rintro ⟨after, ⟨y, read, same⟩, stays, filled⟩
          cases same
          obtain ⟨alone, rfl⟩ := stays
          exact ⟨.inr ⟨v, by rw [alone], read⟩, filled⟩
        · rintro ⟨⟨none, -⟩ | ⟨w, one, read⟩, filled⟩
          · exact absurd none (by simp)
          · obtain ⟨rfl, alone⟩ := List.cons.inj one
            exact ⟨_, ⟨x, read, rfl⟩, ⟨alone, rfl⟩, filled⟩
    · simp only [Slots.put, mine, if_false, FilledFrom, namedElsewhere (Ne.symm mine), bindIff]
      rw [← ih apart]
      constructor
      · rintro ⟨after, ⟨rest, put, same⟩, stays, filled⟩
        cases same
        exact ⟨stays, rest, put, filled⟩
      · rintro ⟨stays, rest, put, filled⟩
        exact ⟨_, ⟨rest, put, rfl⟩, stays, filled⟩

theorem putAllIff {fs : List Field} (apart : (fs.map Field.name).Nodup) {ms : List (String × Json)}
    {slots : Slots fs} {xs : Values fs} :
    (∃ after, putAll fs ms slots = .ok after ∧ Slots.values fs after = .ok xs) ↔ FilledFrom fs slots ms xs := by
  induction ms generalizing slots with
  | nil =>
    rw [← valuesIff]
    exact ⟨fun ⟨_, same, ran⟩ => Except.ok.inj same ▸ ran, fun ran => ⟨slots, rfl, ran⟩⟩
  | cons m ms ih =>
    obtain ⟨name, v⟩ := m
    rw [← putIff apart]
    simp only [putAll, bindIff, ← ih]
    constructor
    · rintro ⟨last, ⟨next, put, others⟩, ran⟩
      exact ⟨next, put, last, others, ran⟩
    · rintro ⟨next, put, last, others, ran⟩
      exact ⟨last, ⟨next, put, others⟩, ran⟩

theorem ofMembersIff {fs : List Field} (apart : (fs.map Field.name).Nodup) {ms : List (String × Json)}
    {xs : Values fs} : ofMembers fs ms = .ok xs ↔ Filled fs ms xs := by
  rw [ofMembers, bindIff, putAllIff apart, filledFromEmpty]

end RelayHub.Message
