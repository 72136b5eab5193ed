import RelayHub.Proofs.Json.Exactness
import RelayHub.Proofs.Message.Members
import RelayHub.Proofs.Message.Schema

/-! Any schema: what a well formed object is read as. The tag may stand anywhere among the members; the values come
from the fields of its variant alone. And an object that is read is well formed. -/
namespace RelayHub.Message
open Json (named namedHere namedElsewhere Spelt MembersSpelt Blank Ends)

def untagged (ms : List (String × Json)) : List (String × Json) := ms.filter (·.1 ≠ tagName)

theorem untaggedHere (v : Json) (ms : List (String × Json)) : untagged ((tagName, v) :: ms) = untagged ms := by
  simp [untagged]

theorem untaggedElsewhere {name : String} (other : name ≠ tagName) (v : Json) (ms : List (String × Json)) :
    untagged ((name, v) :: ms) = (name, v) :: untagged ms := by
  simp [untagged, other]

theorem untaggedAll {ms : List (String × Json)} (none : named tagName ms = []) : untagged ms = ms := by
  refine List.filter_eq_self.mpr fun m member => decide_eq_true fun same => ?_
  have here : m.2 ∈ named tagName ms := List.mem_map_of_mem (List.mem_filter.mpr ⟨member, decide_eq_true same⟩)
  rw [none] at here
  exact List.not_mem_nil here

theorem namedUntagged {name : String} (other : name ≠ tagName) (ms : List (String × Json)) :
    named name (untagged ms) = named name ms := by
  induction ms with
  | nil => rfl
  | cons m ms ih =>
    obtain ⟨name', v⟩ := m
    by_cases tag : name' = tagName
    · subst tag
      rw [untaggedHere, ih, namedElsewhere (Ne.symm other)]
    · rw [untaggedElsewhere tag]
      by_cases mine : name' = name
      · subst mine
        rw [namedHere, namedHere, ih]
      · rw [namedElsewhere mine, namedElsewhere mine, ih]

section Read
variable {M : Type} (schema : Schema M)

theorem stringBegins {v : Json} {s : Bytes} (spelt : Spelt v (0x22 :: s)) : ∃ text, v = .string text := by
  have number : ∀ n : Json.Numeral, n.text ≠ 0x22 :: s := by
    intro n same
    obtain ⟨b, bs, shape, digit, -⟩ := Json.numeralShape n
    obtain ⟨rfl, -⟩ := List.cons.inj (shape.symm.trans same)
    exact absurd digit (by decide)
  cases v with
  | null => exact absurd (List.cons.inj spelt).1 (by decide)
  | bool b =>
    cases b with
    | true => exact absurd (List.cons.inj spelt).1 (by decide)
    | false => exact absurd (List.cons.inj spelt).1 (by decide)
  | integer i =>
    obtain ⟨n, -, same⟩ := spelt
    exact absurd same.symm (number n)
  | real x =>
    obtain ⟨n, -, same⟩ := spelt
    exact absurd same.symm (number n)
  | string text => exact ⟨text, rfl⟩
  | array items =>
    obtain ⟨inside, -, same⟩ := spelt
    exact absurd (List.cons.inj same).1 (by decide)
  | object members =>
    obtain ⟨inside, -, same⟩ := spelt
    exact absurd (List.cons.inj same).1 (by decide)

theorem tagQuoted {s rest : Bytes} {v : Variant M} (ran : schema.readTag s = .ok (v, rest)) :
    ∃ inside, Json.skipBlank s = 0x22 :: inside := by
  unfold Schema.readTag at ran
  split at ran
  · cases ran
  · rename_i b inside shape
    split at ran
    · rename_i quote
      exact ⟨inside, by rw [shape, quote]⟩
    · split at ran
      · cases ran
      · split at ran
        · cases ran
        · obtain ⟨⟨name, rest⟩, -, ran⟩ := Json.okBind ran
          cases ran

theorem speltTag {gap here : Bytes} (blank : Blank gap) {value : Json} (spelt : Spelt value here) (rest : Bytes)
    {v : Variant M} {after : Bytes} : schema.readTag (gap ++ (here ++ rest)) = .ok (v, after) ↔
      ∃ text, value = .string text ∧ schema.find? text = some v ∧ after = rest := by
  obtain ⟨b, bs, shape, begins⟩ := Json.speltBegins spelt
  have skips : Json.skipBlank (gap ++ (here ++ rest)) = here ++ rest := by
    rw [shape, List.cons_append, Json.skipTo blank begins.1]
  by_cases string : ∃ text, value = .string text
  · obtain ⟨text, rfl⟩ := string
    obtain ⟨inside, chars, rfl⟩ := spelt
    have quote : 0x22 :: (inside ++ [0x22]) ++ rest = 0x22 :: (inside ++ 0x22 :: rest) := by simp
    rw [Schema.readTag, skips, quote]
    simp only [if_true, Json.quotedRead chars, liftFault, Except.mapError, bind, Except.bind]
    cases found : schema.find? text with
    | none => simp [found]
    | some w => simp [found, pure, Except.pure, eq_comm]
  · constructor
    · intro ran
      obtain ⟨inside, quoted⟩ := tagQuoted schema ran
      rw [skips, shape] at quoted
      obtain ⟨rfl, -⟩ := List.cons.inj quoted
      exact absurd (stringBegins (shape ▸ spelt)) string
    · rintro ⟨text, rfl, -⟩
      exact absurd ⟨text, rfl⟩ string

structure Legible (room : Nat) (first : Bool) (ms : List (String × Json)) (s : Bytes) : Prop where
  spelt : MembersSpelt first ms s
  shallow : ∀ m ∈ ms, m.2.levels ≤ Json.maxDepth - 1
  roomy : s.length ≤ room

section Members
variable {room fuel : Nat} {first : Bool} {tag : Option (Variant M)} {name : String} {value : Json}
  {ms : List (String × Json)} {s : Bytes} {out : Option (Variant M) × List (String × Json) × Bytes}

theorem membersClose (legible : Legible room first [] s) (enough : s.length ≤ fuel) (rest : Bytes) :
    schema.readMembers room fuel first tag (s ++ rest) = .ok (tag, [], rest) := by
  obtain ⟨gap, blank, rfl⟩ := legible.spelt
  cases fuel with
  | zero => simp at enough
  | succ fuel =>
    rw [List.append_assoc, Schema.readMembers, List.singleton_append, Json.nextMemberClose blank]
    rfl

theorem memberStep (legible : Legible room first ((name, value) :: ms) s) (enough : s.length ≤ fuel)
    (rest : Bytes) : ∃ later fuel', Legible room false ms later ∧ later.length ≤ fuel' ∧
      (schema.readMembers room fuel first tag (s ++ rest) = .ok out ↔
        if name = tagName then
          tag = none ∧ ∃ text v, value = .string text ∧ schema.find? text = some v ∧
            schema.readMembers room fuel' false (some v) (later ++ rest) = .ok out
        else ∃ os, out.2.1 = (name, value) :: os ∧
          schema.readMembers room fuel' false tag (later ++ rest) = .ok (out.1, os, out.2.2)) := by
  obtain ⟨spelt, shallow, roomy⟩ := legible
  obtain ⟨lead, key, gap, space, here, later, leads, quoted, blank, blank', speltHere, speltLater, rfl⟩ := spelt
  obtain ⟨shallow, shallowLater⟩ := List.forall_mem_cons.mp shallow
  simp only [List.length_append, List.length_cons] at roomy enough
  cases fuel with
  | zero => omega
  | succ fuel =>
    obtain ⟨inside, after, next, key, mark⟩ :=
      Json.memberOpens leads quoted blank (space ++ (here ++ (later ++ rest)))
    refine ⟨later, fuel, ⟨speltLater, shallowLater, by omega⟩, by omega, ?_⟩
    simp only [List.append_assoc, List.cons_append]
    rw [Schema.readMembers, next]
    simp only [liftFault, Except.mapError, bind, Except.bind, key]
    split
    · cases tag with
      | some w => simp
      | none =>
        simp only [mark, true_and]
        constructor
        · intro ran
          obtain ⟨⟨v, s⟩, read, ran⟩ := Json.okBind ran
          obtain ⟨text, shape, found, rfl⟩ := (speltTag schema blank' speltHere _).mp read
          exact ⟨text, v, shape, found, ran⟩
        · rintro ⟨text, v, shape, found, ran⟩
          rw [(speltTag schema blank' speltHere _).mpr ⟨text, shape, found, rfl⟩]
          exact ran
    · have takes := @Json.speltRead room value _ shallow here speltHere (by omega) (later ++ rest)
        (Json.membersEnd speltLater rest)
      rw [← Json.valueSkips room _ blank'] at takes
      simp only [mark, takes]
      obtain ⟨tag', ms', rest'⟩ := out
      constructor
      · intro ran
        obtain ⟨⟨tag', os, rest'⟩, read, ran⟩ := Json.okBind ran
        cases ran
        exact ⟨os, rfl, read⟩
      · rintro ⟨os, same, read⟩
        simp only at same read
        rw [read, same]
        rfl

theorem taggedMembers (legible : Legible room first ms s) (enough : s.length ≤ fuel) (v : Variant M)
    (rest : Bytes) : schema.readMembers room fuel first (some v) (s ++ rest) = .ok out ↔
      named tagName ms = [] ∧ out = (some v, ms, rest) := by
  induction ms generalizing fuel first s out with
  | nil =>
    rw [membersClose schema legible enough]
    simp [named, eq_comm]
  | cons m ms ih =>
    obtain ⟨name, value⟩ := m
    obtain ⟨later, fuel', legible', enough', step⟩ := memberStep schema legible enough rest
    rw [step]
    split
    · rename_i tag
      simp [tag, namedHere]
    · rename_i other
      simp only [namedElsewhere other, ih legible' enough']
      obtain ⟨tag', os', rest'⟩ := out
      simp only [Prod.mk.injEq]
      constructor
      · rintro ⟨os, rfl, none, rfl, rfl, rfl⟩
        exact ⟨none, rfl, rfl, rfl⟩
      · rintro ⟨none, rfl, rfl, rfl⟩
        exact ⟨ms, rfl, none, rfl, rfl, rfl⟩

theorem untaggedMembers (legible : Legible room first ms s) (enough : s.length ≤ fuel) (rest : Bytes) :
    schema.readMembers room fuel first none (s ++ rest) = .ok out ↔
      named tagName ms = [] ∧ out = (none, ms, rest) ∨
      ∃ text v, named tagName ms = [.string text] ∧ schema.find? text = some v ∧
        out = (some v, untagged ms, rest) := by
  -- members in front of the tag are kept aside; those behind it are read for its variant
  induction ms generalizing fuel first s out with
  | nil =>
    rw [membersClose schema legible enough]
    simp [named, eq_comm]
  | cons m ms ih =>
    obtain ⟨name, value⟩ := m
    obtain ⟨later, fuel', legible', enough', step⟩ := memberStep schema legible enough rest
    rw [step]
    split
    · rename_i tag
      subst tag
      simp only [namedHere, untaggedHere, true_and, taggedMembers schema legible' enough']
      constructor
      · rintro ⟨text, v, rfl, found, none, rfl⟩
        exact .inr ⟨text, v, by rw [none], found, by rw [untaggedAll none]⟩
      · rintro (⟨none, -⟩ | ⟨text, v, one, found, rfl⟩)
        · exact absurd none (by simp)
        · obtain ⟨rfl, none⟩ := List.cons.inj one
          exact ⟨text, v, rfl, found, none, by rw [untaggedAll none]⟩
    · rename_i other
      simp only [namedElsewhere other, untaggedElsewhere other, ih legible' enough']
      obtain ⟨tag', os', rest'⟩ := out
      simp only [Prod.mk.injEq]
      constructor
      · rintro ⟨os, rfl, ⟨none, rfl, rfl, rfl⟩ | ⟨text, v, one, found, rfl, rfl, rfl⟩⟩
        · exact .inl ⟨none, rfl, rfl, rfl⟩
        · exact .inr ⟨text, v, one, found, rfl, rfl, rfl⟩
      · rintro (⟨none, rfl, rfl, rfl⟩ | ⟨text, v, one, found, rfl, rfl, rfl⟩)
        · exact ⟨ms, rfl, .inl ⟨none, rfl, rfl, rfl⟩⟩
        · exact ⟨untagged ms, rfl, .inr ⟨text, v, one, found, rfl, rfl, rfl⟩⟩

end Members

theorem readObject {text : Bytes} {ms : List (String × Json)} (spelt : Json.IsText (.object ms) text)
    (shallow : (Json.object ms).levels ≤ Json.maxDepth) {m : M} : schema.read text = .ok m ↔
      ∃ tag v, named tagName ms = [.string tag] ∧ schema.find? tag = some v ∧
        ∃ xs, ofMembers v.fields (untagged ms) = .ok xs ∧ v.build xs = m := by
  obtain ⟨before, here, after, blank, ⟨inside, members, rfl⟩, blank', rfl⟩ := spelt
  have shallow := Json.memberLevelsIff.mp (Nat.succ_le_succ_iff.mp shallow)
  have skips : Json.skipBlank (before ++ (0x7B :: inside ++ after)) = 0x7B :: (inside ++ after) :=
    Json.skipTo blank rfl _
  have legible : Legible ((inside ++ after).length + 1) true ms inside :=
    ⟨members, shallow, by simp only [List.length_append]; omega⟩
  have enough : inside.length ≤ (inside ++ after).length + 1 := legible.roomy
  rw [Schema.read, bindIff]
  rw [Schema.readValue, skips]
  simp only [if_true, bindIff, untaggedMembers schema legible enough]
  constructor
  · rintro ⟨⟨m', rest⟩, ⟨⟨tag, os, rest'⟩, ⟨-, same⟩ | ⟨text, v, one, found, same⟩, made⟩, ended⟩
    · cases same
      cases made
    · cases same
      obtain ⟨m'', built, made⟩ := bindIff.mp made
      cases made
      obtain ⟨_, -, same⟩ := ended
      cases same
      obtain ⟨xs, read, made⟩ := bindIff.mp (unplacedOk built)
      cases made
      exact ⟨text, v, one, found, xs, read, rfl⟩
  · rintro ⟨text, v, one, found, xs, read, rfl⟩
    refine ⟨(v.build xs, after), ⟨_, .inr ⟨text, v, one, found, rfl⟩, ?_⟩, ?_⟩
    · have built : v.ofMembers (untagged ms) = .ok (v.build xs) := bindIff.mpr ⟨xs, read, rfl⟩
      simp only [built]
      rfl
    · exact ⟨(), by rw [Json.endBlank blank']; rfl, rfl⟩

theorem filledUntagged {fs : List Field} (other : ∀ f ∈ fs, f.name ≠ tagName) {ms : List (String × Json)}
    {xs : Values fs} : Filled fs (untagged ms) xs ↔ Filled fs ms xs := by
  induction fs with
  | nil => exact Iff.rfl
  | cons f fs ih =>
    obtain ⟨here, later⟩ := List.forall_mem_cons.mp other
    rw [Filled, Filled, namedUntagged here, ih later]

structure Variant.Sound (v : Variant M) : Prop where
  apart : (v.fields.map Field.name).Nodup
  other : ∀ f ∈ v.fields, f.name ≠ tagName

theorem readFilled (sound : ∀ v ∈ schema.variants, v.Sound) {text : Bytes} {ms : List (String × Json)}
    (spelt : Json.IsText (.object ms) text) (shallow : (Json.object ms).levels ≤ Json.maxDepth) {m : M} :
    schema.read text = .ok m ↔ ∃ tag v, named tagName ms = [.string tag] ∧ schema.find? tag = some v ∧
      ∃ xs, Filled v.fields ms xs ∧ v.build xs = m := by
  rw [readObject schema spelt shallow]
  constructor
  · rintro ⟨tag, v, one, found, xs, read, built⟩
    obtain ⟨apart, other⟩ := sound v (List.mem_of_find?_eq_some found)
    exact ⟨tag, v, one, found, xs, (filledUntagged other).mp ((ofMembersIff apart).mp read), built⟩
  · rintro ⟨tag, v, one, found, xs, filled, built⟩
    obtain ⟨apart, other⟩ := sound v (List.mem_of_find?_eq_some found)
    exact ⟨tag, v, one, found, xs, (ofMembersIff apart).mpr ((filledUntagged other).mpr filled), built⟩

theorem tagAccepted {s rest : Bytes} {v : Variant M} (ran : schema.readTag s = .ok (v, rest)) :
    ∃ gap here text, Blank gap ∧ Spelt (.string text) here ∧ s = gap ++ (here ++ rest) := by
  obtain ⟨inside, quoted⟩ := tagQuoted schema ran
  obtain ⟨gap, blank, rfl⟩ := Json.skippedTo quoted
  rw [Schema.readTag, quoted] at ran
  obtain ⟨⟨text, after⟩, taken, ran⟩ := Json.okBind ran
  obtain ⟨key, quotedKey, shape⟩ := Json.quotedAccepted (liftOk taken)
  simp only at ran
  split at ran
  · cases ran
    exact ⟨gap, key, text, blank, quotedKey, by rw [shape]⟩
  · cases ran

def Members (first : Bool) (s rest : Bytes) : Prop := ∃ ms inside, MembersSpelt first ms inside ∧
  s = inside ++ rest ∧ ∀ m ∈ ms, m.2.levels ≤ Json.maxDepth - 1

theorem memberJoins {first : Bool} {lead t gap space here last rest : Bytes} {name : String} {v : Json}
    (leads : Json.Lead first lead) (text : Json.stringTail t = .ok (name, gap ++ 0x3A :: (space ++ (here ++ last))))
    (blank : Blank gap) (blank' : Blank space) (spelt : Spelt v here) (shallow : v.levels ≤ Json.maxDepth - 1)
    (others : Members false last rest) : Members first (lead ++ 0x22 :: t) rest := by
  obtain ⟨key, quoted, shape⟩ := Json.quotedAccepted text
  obtain ⟨ms, later, speltLater, rfl, shallowLater⟩ := others
  refine ⟨(name, v) :: ms, _,
    ⟨lead, key, gap, space, here, later, leads, quoted, blank, blank', spelt, speltLater, rfl⟩, ?_,
    List.forall_mem_cons.mpr ⟨shallow, shallowLater⟩⟩
  rw [shape]
  simp

theorem membersTaken {room fuel : Nat} {first : Bool} {tag after : Option (Variant M)} {s rest : Bytes}
    {os : List (String × Json)} (ran : schema.readMembers room fuel first tag s = .ok (after, os, rest)) :
    Members first s rest := by
  induction fuel generalizing first tag s os with
  | zero => cases ran
  | succ fuel ih =>
    obtain ⟨next, taken, goes⟩ := Json.okBind ran
    rcases Json.nextMemberAccepted (liftOk taken) with ⟨gap, after, rfl, blank, rfl⟩ | ⟨lead, t, rfl, leads, rfl⟩
    · cases goes
      exact ⟨[], gap ++ [0x7D], ⟨gap, blank, rfl⟩, by simp, List.forall_mem_nil _⟩
    · obtain ⟨⟨name, after⟩, text, goes⟩ := Json.okBind goes
      simp only at goes
      split at goes
      · split at goes
        · cases goes
        · obtain ⟨valued, mark, goes⟩ := Json.okBind goes
          obtain ⟨⟨v, last⟩, read, others⟩ := Json.okBind goes
          obtain ⟨gap, blank, rfl⟩ := Json.colonAccepted (liftOk mark)
          obtain ⟨space, here, tag, blank', spelt, rfl⟩ := tagAccepted schema read
          exact memberJoins leads (liftOk text) blank blank' spelt (Nat.zero_le _) (ih others)
      · obtain ⟨valued, mark, goes⟩ := Json.okBind goes
        obtain ⟨⟨v, last⟩, read, goes⟩ := Json.okBind goes
        obtain ⟨⟨tag, os, last⟩, others, goes⟩ := Json.okBind goes
        cases goes
        obtain ⟨gap, blank, rfl⟩ := Json.colonAccepted (liftOk mark)
        obtain ⟨space, here, blank', spelt, rfl⟩ := Json.valueAccepted _ _ _ _ _ (liftOk read)
        have shallow := (Json.valueGrants _ _ _ _ _ (liftOk read)).shallow
        exact memberJoins leads (liftOk text) blank blank' spelt shallow (ih others)

theorem objectAccepted {text inside : Bytes} {m : M} (opens : Json.skipBlank text = 0x7B :: inside)
    (ran : schema.read text = .ok m) :
    ∃ ms, Json.IsText (.object ms) text ∧ (Json.object ms).levels ≤ Json.maxDepth := by
  obtain ⟨⟨m', rest⟩, value, ran⟩ := Json.okBind ran
  obtain ⟨_, ended, -⟩ := Json.okBind ran
  obtain ⟨gap, blank, rfl⟩ := Json.skippedTo opens
  rw [Schema.readValue, opens] at value
  obtain ⟨⟨tag, os, after⟩, taken, built⟩ := Json.okBind value
  obtain ⟨ms, inside, spelt, rfl, shallow⟩ := membersTaken schema taken
  have same : after = rest := by
    cases tag with
    | none => cases built
    | some v =>
      obtain ⟨m'', -, built⟩ := Json.okBind built
      cases built
      rfl
  subst same
  have whole : Spelt (.object ms) (0x7B :: inside) := ⟨inside, spelt, rfl⟩
  exact ⟨ms, ⟨gap, _, after, blank, whole, Json.endAccepted (liftOk ended), rfl⟩,
    Nat.succ_le_succ (Json.memberLevelsIff.mpr shallow)⟩

end Read
end RelayHub.Message
