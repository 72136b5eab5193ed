import RelayHub.Proofs.Json.Acceptance
import RelayHub.Proofs.Json.Nesting

/-! The reader takes the well formed texts and no others, as far as they are not nested too deep, and gives back the
value that they spell. So a text spells one value at most. -/
namespace RelayHub.Json

theorem blankApart (s : Bytes) : ∃ gap, Blank gap ∧ s = gap ++ skipBlank s :=
  ⟨s.takeWhile isBlank, fun _ member => List.mem_takeWhile_imp member, List.takeWhile_append_dropWhile.symm⟩

theorem skippedTo {s after : Bytes} {b : UInt8} (shape : skipBlank s = b :: after) :
    ∃ gap, Blank gap ∧ s = gap ++ b :: after := by
  obtain ⟨gap, blank, whole⟩ := blankApart s
  exact ⟨gap, blank, shape ▸ whole⟩

theorem blankAppend {gap more : Bytes} (blank : Blank gap) (blank' : Blank more) : Blank (gap ++ more) :=
  List.forall_mem_append.mpr ⟨blank, blank'⟩

theorem leadGap {first : Bool} {lead gap : Bytes} (leads : Lead first lead) (blank : Blank gap) :
    Lead first (lead ++ gap) := by
  cases first with
  | true => exact blankAppend leads blank
  | false =>
    obtain ⟨before, after, blank', blank'', rfl⟩ := leads
    exact ⟨before, after ++ gap, blank', blankAppend blank'' blank, by simp⟩

theorem identAccepted {word s rest : Bytes} (ran : ident word s = .ok rest) : s = word ++ rest := by
  induction word generalizing s with
  | nil =>
    cases ran
    rfl
  | cons expected word ih =>
    cases s with
    | nil => cases ran
    | cons b s =>
      simp only [ident] at ran
      split at ran
      · rename_i same
        rw [same, ih ran]
        rfl
      · cases ran

def Accepts (read : Bytes → Except Fault (Json × Bytes)) : Prop := ∀ s v rest, read s = .ok (v, rest) →
  ∃ gap here, Blank gap ∧ Spelt v here ∧ s = gap ++ (here ++ rest)

theorem numeralSpelt {n : Numeral} {v : Json} (value : n.value? = some v) : Spelt v n.text := by
  have number : (∃ i, v = .integer i) ∨ ∃ x, v = .real x := by
    unfold Numeral.value? at value
    split at value
    · unfold Numeral.word at value
      split at value
      · exact .inl ⟨_, (Option.some.inj value).symm⟩
      · split at value
        · exact .inr ⟨_, (Option.some.inj value).symm⟩
        · exact .inl ⟨_, (Option.some.inj value).symm⟩
    · obtain ⟨x, -, same⟩ := Option.map_eq_some_iff.mp value
      exact .inr ⟨x, same.symm⟩
  rcases number with ⟨i, rfl⟩ | ⟨x, rfl⟩
  · exact ⟨n, value, rfl⟩
  · exact ⟨n, value, rfl⟩

theorem scalarAccepted {b : UInt8} {s rest : Bytes} {v : Json} (ran : scalar b s = .ok (v, rest)) :
    ∃ here, Spelt v here ∧ b :: s = here ++ rest := by
  unfold scalar at ran
  split at ran
  · rename_i same
    obtain ⟨after, word, ran⟩ := okBind ran
    cases ran
    exact ⟨_, rfl, by rw [same, identAccepted word]; rfl⟩
  split at ran
  · rename_i same
    obtain ⟨after, word, ran⟩ := okBind ran
    cases ran
    exact ⟨_, rfl, by rw [same, identAccepted word]; rfl⟩
  split at ran
  · rename_i same
    obtain ⟨after, word, ran⟩ := okBind ran
    cases ran
    exact ⟨_, rfl, by rw [same, identAccepted word]; rfl⟩
  split at ran
  · rename_i minus
    obtain ⟨n, negative, value, shape⟩ := numeralAccepted ran
    exact ⟨n.text, numeralSpelt value, by rw [minus, shape]; simp [Numeral.text, negative]⟩
  split at ran
  · obtain ⟨n, negative, value, shape⟩ := numeralAccepted ran
    exact ⟨n.text, numeralSpelt value, by rw [shape]; simp [Numeral.text, negative]⟩
  split at ran
  · rename_i quote
    obtain ⟨⟨text, after⟩, taken, ran⟩ := okBind ran
    cases ran
    obtain ⟨key, quoted, shape⟩ := quotedAccepted taken
    exact ⟨key, quoted, by rw [quote, shape]⟩
  · cases ran

section Lists
variable {first : Bool} {s : Bytes}

theorem nextElementAccepted {next : Next} (ran : nextElement first s = .ok next) :
    (∃ gap rest, next = .done rest ∧ Blank gap ∧ s = gap ++ 0x5D :: rest) ∨
      ∃ lead t, next = .more t ∧ Lead first lead ∧ s = lead ++ t := by
  unfold nextElement at ran
  split at ran
  · cases ran
  · rename_i b rest shape
    obtain ⟨gap, blank, rfl⟩ := skippedTo shape
    split at ran
    · rename_i close
      cases ran
      exact .inl ⟨gap, rest, rfl, blank, by rw [close]⟩
    split at ran
    · rename_i here
      subst here
      cases ran
      exact .inr ⟨gap, _, rfl, blank, rfl⟩
    split at ran
    · rename_i notFirst comma
      split at ran
      · cases ran
      · rename_i c after shape
        obtain ⟨gap', blank', rfl⟩ := skippedTo shape
        split at ran
        · cases ran
        · cases ran
          have leads : Lead first (gap ++ 0x2C :: gap') := by
            simp only [Lead, notFirst]
            exact ⟨gap, gap', blank, blank', rfl⟩
          exact .inr ⟨_, _, rfl, leads, by simp [comma]⟩
    · cases ran

theorem nextMemberAccepted {next : Next} (ran : nextMember first s = .ok next) :
    (∃ gap rest, next = .done (0x7D :: rest) ∧ Blank gap ∧ s = gap ++ 0x7D :: rest) ∨
      ∃ lead t, next = .more t ∧ Lead first lead ∧ s = lead ++ 0x22 :: t := by
  unfold nextMember at ran
  split at ran
  · cases ran
  · rename_i b rest shape
    obtain ⟨gap, blank, rfl⟩ := skippedTo shape
    split at ran
    · rename_i close
      subst close
      cases ran
      exact .inl ⟨gap, rest, rfl, blank, rfl⟩
    split at ran
    · rename_i here
      subst here
      split at ran
      · rename_i quote
        cases ran
        exact .inr ⟨gap, rest, rfl, blank, by rw [quote]⟩
      · cases ran
    split at ran
    · rename_i notFirst comma
      split at ran
      · cases ran
      · rename_i c after shape
        obtain ⟨gap', blank', rfl⟩ := skippedTo shape
        split at ran
        · rename_i quote
          cases ran
          have leads : Lead first (gap ++ 0x2C :: gap') := by
            simp only [Lead, notFirst]
            exact ⟨gap, gap', blank, blank', rfl⟩
          exact .inr ⟨_, _, rfl, leads, by simp [comma, quote]⟩
        · split at ran
          · cases ran
          · cases ran
    · cases ran

theorem colonAccepted {rest : Bytes} (ran : colon s = .ok rest) : ∃ gap, Blank gap ∧ s = gap ++ 0x3A :: rest := by
  unfold colon at ran
  split at ran
  · cases ran
  · rename_i b after shape
    split at ran
    · rename_i mark
      cases ran
      exact skippedTo (mark ▸ shape)
    · cases ran

variable {read : Bytes → Except Fault (Json × Bytes)} {fuel : Nat} {rest : Bytes}

theorem elementsAccepted (accepts : Accepts read) {items : List Json}
    (ran : elements read fuel first s = .ok (items, rest)) :
    ∃ inside, ItemsSpelt first items inside ∧ s = inside ++ rest := by
  induction fuel generalizing first s items with
  | zero => cases ran
  | succ fuel ih =>
    obtain ⟨next, taken, goes⟩ := okBind ran
    rcases nextElementAccepted taken with ⟨gap, after, rfl, blank, rfl⟩ | ⟨lead, t, rfl, leads, rfl⟩
    · cases goes
      exact ⟨gap ++ [0x5D], ⟨gap, blank, rfl⟩, by simp⟩
    · obtain ⟨⟨v, after⟩, value, goes⟩ := okBind goes
      obtain ⟨⟨items, last⟩, others, goes⟩ := okBind goes
      cases goes
      obtain ⟨gap, here, blank, spelt, rfl⟩ := accepts _ _ _ value
      obtain ⟨later, speltLater, rfl⟩ := ih others
      exact ⟨_, ⟨lead ++ gap, here, later, leadGap leads blank, spelt, speltLater, rfl⟩, by simp⟩

theorem membersAccepted (accepts : Accepts read) {ms : List (String × Json)}
    (ran : members read fuel first s = .ok (ms, rest)) :
    ∃ inside, MembersSpelt first ms inside ∧ s = inside ++ rest := by
  induction fuel generalizing first s ms with
  | zero => cases ran
  | succ fuel ih =>
    obtain ⟨next, taken, goes⟩ := okBind ran
    rcases nextMemberAccepted taken with ⟨gap, after, rfl, blank, rfl⟩ | ⟨lead, t, rfl, leads, rfl⟩
    · cases goes
      exact ⟨gap ++ [0x7D], ⟨gap, blank, rfl⟩, by simp⟩
    · obtain ⟨⟨name, after⟩, text, goes⟩ := okBind goes
      obtain ⟨after, mark, goes⟩ := okBind goes
      obtain ⟨⟨v, after⟩, value, goes⟩ := okBind goes
      obtain ⟨⟨ms, last⟩, others, goes⟩ := okBind goes
      cases goes
      obtain ⟨key, quoted, shape⟩ := quotedAccepted text
      obtain ⟨gap, blank, rfl⟩ := colonAccepted mark
      obtain ⟨space, here, blank', spelt, rfl⟩ := accepts _ _ _ value
      obtain ⟨later, speltLater, rfl⟩ := ih others
      refine ⟨_, ⟨lead, key, gap, space, here, later, leads, quoted, blank, blank', spelt, speltLater, rfl⟩, ?_⟩
      rw [shape]
      simp

end Lists

theorem valueAccepted (room depth : Nat) : Accepts (value room depth) := by
  induction depth using Nat.strongRecOn with
  | ind depth below =>
    intro s v rest ran
    unfold value at ran
    split at ran
    · cases ran
    · rename_i b after shape
      obtain ⟨gap, blank, rfl⟩ := skippedTo shape
      split at ran
      · rename_i bracket
        split at ran
        · cases ran
        · obtain ⟨⟨items, last⟩, taken, ran⟩ := okBind ran
          cases ran
          obtain ⟨inside, spelt, rfl⟩ := elementsAccepted (below _ (Nat.lt_succ_self _)) taken
          exact ⟨gap, 0x5B :: inside, blank, ⟨inside, spelt, rfl⟩, by rw [bracket]; rfl⟩
      split at ran
      · rename_i brace
        split at ran
        · cases ran
        · obtain ⟨⟨ms, last⟩, taken, ran⟩ := okBind ran
          cases ran
          obtain ⟨inside, spelt, rfl⟩ := membersAccepted (below _ (Nat.lt_succ_self _)) taken
          exact ⟨gap, 0x7B :: inside, blank, ⟨inside, spelt, rfl⟩, by rw [brace]; rfl⟩
      · obtain ⟨here, spelt, shape⟩ := scalarAccepted ran
        exact ⟨gap, here, blank, spelt, by rw [shape]⟩

theorem endAccepted {s : Bytes} (ran : endOfText s = .ok ()) : Blank s := by
  obtain ⟨gap, blank, shape⟩ := blankApart s
  unfold endOfText at ran
  split at ran
  · rename_i ended
    rw [ended, List.append_nil] at shape
    exact shape ▸ blank
  · cases ran

theorem endBlank {gap : Bytes} (blank : Blank gap) : endOfText gap = .ok () := by
  have skips := skipBlanks blank []
  rw [List.append_nil] at skips
  rw [endOfText, skips]
  rfl

/-- The reader is exact: it reads a text as a value if and only if the text spells the value, and the value is nested
no deeper than 127 levels. -/
theorem readIff {s : Bytes} {v : Json} : read s = .ok v ↔ IsText v s ∧ v.levels ≤ maxDepth := by
  constructor
  · intro ran
    obtain ⟨⟨v', rest⟩, value, ran⟩ := okBind ran
    obtain ⟨_, ended, ran⟩ := okBind ran
    cases ran
    obtain ⟨gap, here, blank, spelt, rfl⟩ := valueAccepted _ _ _ _ _ value
    exact ⟨⟨gap, here, rest, blank, spelt, endAccepted ended, rfl⟩, (valueGrants _ _ _ _ _ value).shallow⟩
  · rintro ⟨⟨gap, here, after, blank, spelt, blank', rfl⟩, shallow⟩
    have ends : Ends after := by
      have ends := gapEnds blank' endsNil
      rwa [List.append_nil] at ends
    have roomy : here.length ≤ (gap ++ (here ++ after)).length + 1 := by
      simp only [List.length_append]
      omega
    have taken := speltRead shallow here spelt roomy after ends
    rw [read, valueSkips _ _ blank, taken]
    simp only [bind, Except.bind, endBlank blank']
    rfl

end RelayHub.Json
