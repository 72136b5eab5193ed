import RelayHub.Settings.Environment
import RelayHub.Proofs.Settings.Leaves

/-! What counts as a value of a setting, in a file and in a variable, and what is none: a text where a number is wanted
that is neither a number nor a word for one. -/
namespace RelayHub.Settings

section Texts

def Decimal (cs : List Char) : Prop :=
  ∃ sign ∈ [[], ['+'], ['-']], ∃ digits, cs = sign ++ digits ∧ digits ≠ [] ∧ ∀ c ∈ digits, c.isDigit = true

def TruthWord (s : String) : Prop := s.map Char.toLower ∈ ["true", "on", "yes", "false", "off", "no"]

def isScalarText (s : String) : Bool :=
  String.ofList (s.toList.map Char.toLower) ∈ ["true", "false"] ||
    (Environment.shortInteger? s.toList).isSome || (Binary64.ofText? s.toList).isSome

theorem naturalDigits {cs : List Char} {n : Nat} (read : Digits.natural? cs = some n) :
    cs ≠ [] ∧ ∀ c ∈ cs, c.isDigit = true := by
  rw [Digits.natural?] at read
  split at read
  · rename_i digits
    simpa [List.all_eq_true] using digits
  · contradiction

theorem unsignedDecimal {cs : List Char} {n : Nat} (read : Digits.unsigned? cs = some n) : Decimal cs := by
  unfold Digits.unsigned? at read
  split at read
  · exact ⟨['+'], by simp, _, rfl, naturalDigits read⟩
  · exact ⟨[], by simp, cs, rfl, naturalDigits read⟩

theorem integerDecimal {cs : List Char} {n : Int} (read : Digits.integer? cs = some n) : Decimal cs := by
  obtain ⟨m, digits, -⟩ := Option.bind_eq_some_iff.mp read
  split at digits
  · exact ⟨['-'], by simp, _, rfl, naturalDigits digits⟩
  · exact ⟨['+'], by simp, _, rfl, naturalDigits digits⟩
  · exact ⟨[], by simp, cs, rfl, naturalDigits digits⟩

theorem digitSmall {d : Char} (digit : d.isDigit = true) : d.toLower = d := by
  simp only [Char.isDigit, Bool.and_eq_true, decide_eq_true_eq] at digit
  have high : d.val.toNat ≤ 57 := UInt32.le_iff_toNat_le.mp digit.2
  refine dif_neg fun upper => ?_
  have low : 65 ≤ d.val.toNat := UInt32.le_iff_toNat_le.mp upper.1
  omega

theorem Decimal.digit {cs : List Char} (decimal : Decimal cs) : ∃ c ∈ cs, c.isDigit = true := by
  obtain ⟨sign, -, digits, rfl, some, all⟩ := decimal
  obtain ⟨d, rest, rfl⟩ := List.exists_cons_of_ne_nil some
  exact ⟨d, by simp, all d List.mem_cons_self⟩

theorem decimalNoWord {cs : List Char} {word : String} (decimal : Decimal cs)
    (letters : word.toList.all fun c => !c.isDigit) : String.ofList (cs.map Char.toLower) ≠ word := by
  rintro rfl
  obtain ⟨d, member, digit⟩ := decimal.digit
  have member : d ∈ (String.ofList (cs.map Char.toLower)).toList := by
    rw [String.toList_ofList]
    exact List.mem_map.mpr ⟨d, member, digitSmall digit⟩
  have letter := List.all_eq_true.mp letters d member
  rw [digit] at letter
  exact Bool.false_ne_true letter

end Texts

section Trees
variable {l : Leaf} {k : Kind} {t : Tree} {v : Value}

def inWord? (most : Nat) (n : Int) : Option Value :=
  if 0 ≤ n ∧ n ≤ most then some (.number n.toNat) else none

def textOf? : Tree → Option String
  | .leaf (.text s) _ => some s
  | _ => none

def Kind.ofTree? : Kind → Tree → Option Value
  | .text, t => (textOf? t).map .text
  | .texts, .list items _ => (items.mapM textOf?).map .texts
  | .word16, .leaf (.integer n) _ => inWord? maxWord16 n
  | .word64, .leaf (.integer n) _ => inWord? maxWord64 n
  | _, _ => none

def Kind.IsNumber : Kind → Prop
  | .word16 | .word64 => True
  | _ => False

instance : DecidablePred Kind.IsNumber := fun k => by
  cases k <;> unfold Kind.IsNumber <;> infer_instance

theorem textIs {s : String} (text : textOf? t = some s) : ∃ o, t = .leaf (.text s) o := by
  unfold textOf? at text
  split at text
  · cases text
    exact ⟨_, rfl⟩
  · contradiction

theorem textReads {s : String} (text : textOf? t = some s) : t.text = .ok s := by
  obtain ⟨o, rfl⟩ := textIs text
  rfl

theorem itemsRead {items : List Tree} {ss : List String} (texts : items.mapM textOf? = some ss) (i : Nat) :
    Tree.itemsFrom Tree.text i items = .ok ss := by
  induction items generalizing ss i with
  | nil => cases texts; rfl
  | cons t items ih =>
    rw [List.mapM_cons] at texts
    obtain ⟨s, first, texts⟩ := Option.bind_eq_some_iff.mp texts
    obtain ⟨rest, others, last⟩ := Option.bind_eq_some_iff.mp texts
    cases last
    simp [Tree.itemsFrom, textReads first, ih others, Except.mapError, bind, Except.bind, pure, Except.pure]

theorem inWordIff {most : Nat} {n : Int} : inWord? most n = some v ↔ (0 ≤ n ∧ n ≤ most) ∧ Value.number n.toNat = v := by
  rw [inWord?, Option.ite_none_right_eq_some, Option.some.injEq]

theorem unsignedReads {n : Int} (positive : 0 ≤ n) (o : Option Origin) :
    (Tree.leaf (.integer n) o).unsigned = .ok n.toNat := if_pos positive

theorem Kind.plain (value : k.ofTree? t = some v) : ¬ t.IsTable := by
  cases t with
  | leaf | list => exact id
  | table => cases k <;> cases value

theorem valueReads (value : k.ofTree? t = some v) : Tree.optional k.read (some t) = .ok (some v) := by
  unfold Kind.ofTree? at value
  split at value
  · rename_i t
    obtain ⟨s, text, rfl⟩ := Option.map_eq_some_iff.mp value
    obtain ⟨o, rfl⟩ := textIs text
    rfl
  · rename_i items o
    obtain ⟨ss, texts, rfl⟩ := Option.map_eq_some_iff.mp value
    simp [Tree.optional, Kind.read, Tree.listOf, itemsRead texts, Except.map]
  · rename_i n o
    obtain ⟨⟨positive, small⟩, rfl⟩ := inWordIff.mp value
    have within : n.toNat ≤ maxWord16 := by omega
    simp [Tree.optional, Kind.read, Tree.port, unsignedReads positive, within, bind, Except.bind, pure, Except.pure,
      Except.map]
  · rename_i n o
    obtain ⟨⟨positive, -⟩, rfl⟩ := inWordIff.mp value
    simp [Tree.optional, Kind.read, unsignedReads positive, Except.map]
  · contradiction

theorem wordRefused {w : String} (number : k.IsNumber) (truth : ¬ TruthWord w) (decimal : ¬ Decimal w.toList)
    (o : Option Origin) :
    Tree.optional k.read (some (.leaf (.text w) o)) = .error (.wrongType (.text w) "an integer" [] o) := by
  have noWord : Tree.truthWord? w = none := by
    simp only [TruthWord, List.mem_cons, List.not_mem_nil, or_false, not_or] at truth
    simp [Tree.truthWord?, truth]
  have noNumber : Tree.wordNumber? w = none := by
    rw [Tree.wordNumber?]
    cases read : Digits.unsigned? w.toList with
    | none => rfl
    | some n => exact absurd (unsignedDecimal read) decimal
  have refused : (Tree.leaf (.text w) o).unsigned = .error (.wrongType (.text w) "an integer" [] o) := by
    simp only [Tree.unsigned, noWord, noNumber]
    rfl
  cases k with
  | text | texts => exact absurd number id
  | word16 | word64 => simp [Tree.optional, Kind.read, Tree.port, refused, bind, Except.bind, Except.map]

end Trees

section Variables
variable {l : Leaf} {k : Kind} {v : Value} {key s : String}

def Kind.ofText? : Kind → String → Option Value
  | .text, s => if isScalarText s then none else some (.text s)
  | .texts, s => if isScalarText s then none else some (.texts ((s.toList.splitOn ',').map String.ofList))
  | .word16, s => (Environment.shortInteger? s.toList).bind (inWord? maxWord16)
  | .word64, s => (Environment.shortInteger? s.toList).bind (inWord? maxWord64)

theorem plainValue (plain : isScalarText s = false) (key : String) : Environment.value key s =
    if key = Environment.listKey then
      .list ((s.toList.splitOn ',').map fun piece => Environment.word (String.ofList piece)) Environment.origin
    else Environment.word s := by
  simp only [isScalarText, Bool.or_eq_false_iff, decide_eq_false_iff_not, List.mem_cons, List.not_mem_nil, or_false,
    not_or, Option.isSome_eq_false_iff, Option.isNone_iff_eq_none] at plain
  obtain ⟨⟨⟨true, false⟩, integer⟩, real⟩ := plain
  simp only [Environment.value, true, false, integer, real, if_false]

theorem integerValue {n : Int} (integer : Environment.shortInteger? s.toList = some n) (key : String) :
    Environment.value key s = .leaf (.integer n) Environment.origin := by
  have decimal : Decimal s.toList := integerDecimal (Option.filter_eq_some_iff.mp integer).1
  have true : String.ofList (s.toList.map Char.toLower) ≠ "true" := decimalNoWord decimal (by decide)
  have false : String.ofList (s.toList.map Char.toLower) ≠ "false" := decimalNoWord decimal (by decide)
  simp only [Environment.value, true, false, integer, if_false]

theorem variablePlain (key s : String) : ¬ (Environment.value key s).IsTable := by
  unfold Environment.value
  grind [Tree.IsTable, Environment.word]

end Variables

end RelayHub.Settings
