import RelayHub.Settings.Load
import RelayHub.Proofs.Message.Equality
import RelayHub.Proofs.Settings.Variables

/-! Layers of settings: what is said in a variable goes before what the file says, and that before the default, for
every setting by itself. -/
namespace RelayHub.Settings

def Sources.fileEntries (src : Sources) : Except Fault (List (String × Tree)) :=
  match File.chosen? src.files with
  | some (kind, content) => File.entries kind content
  | none => .ok []

section Order

/- A path that has nothing to do with a setting: it is not at one, nor before one, nor behind one. -/
def Apart (p : List Tree.Step) : Prop := ∀ l : Leaf, ¬ p <+: l.path ∧ ¬ l.path <+: p

def Indexes (p : List Tree.Step) : Prop := ∃ (l : Leaf) (i : Int), [.key l.part, .index i] <+: p

def Sited (k : String) : Prop :=
  (∃ l : Leaf, Path.ofText k = l.path) ∨ Apart (Path.ofText k) ∧ ¬ Indexes (Path.ofText k)

/- Only a table may stand for a whole section, and only a file has one. -/
structure Orderly (src : Sources) (file : List (String × Tree)) : Prop where
  inFile : ∀ e ∈ file, Sited e.1 ∨ ∃ l : Leaf, Path.ofText e.1 = [.key l.part] ∧ e.2.IsTable
  inVars : ∀ v ∈ src.environment, ∀ k, Environment.key? v.1 = some k → Sited k

theorem wholeSuits {e : String × Tree} {l : Leaf} (path : Path.ofText e.1 = [.key l.part]) (table : e.2.IsTable)
    (l' : Leaf) : Tree.Suits l'.part l'.name (Path.ofText e.1) e.2 := by
  rw [path]
  by_cases part : l.part = l'.part
  · rw [part]
    exact .whole table
  · exact .elsewhere e.2 part []

theorem Sited.suits {k : String} (sited : Sited k) (t : Tree) (l : Leaf) :
    Tree.Suits l.part l.name (Path.ofText k) t := by
  rcases sited with ⟨l', path⟩ | ⟨apart, within⟩
  · rw [path, Leaf.path]
    by_cases part : l'.part = l.part
    · rw [part]
      by_cases name : l'.name = l.name
      · rw [name]
        exact .place t
      · exact .beside t name []
    · exact .elsewhere t part _
  · obtain ⟨j, q, path⟩ := pathBegins k
    rw [path] at apart within ⊢
    by_cases part : j = l.part
    · subst part
      cases q with
      | nil => exact absurd ⟨[.key l.name], rfl⟩ (apart l).1
      | cons step q =>
        cases step with
        | index i => exact absurd ⟨l, i, q, rfl⟩ within
        | key j =>
          by_cases name : j = l.name
          · subst name
            exact absurd ⟨q, rfl⟩ (apart l).2
          · exact .beside t name q
    · exact .elsewhere t part q

theorem sitedOutside {k j : String} {q : List Tree.Step} (path : Path.ofText k = .key j :: q)
    (outside : ∀ l : Leaf, l.part ≠ j) : Sited k := by
  rw [Sited, path]
  refine .inr ⟨fun l => ⟨fun before => ?_, fun behind => ?_⟩, fun ⟨l, i, begins⟩ => ?_⟩
  · exact outside l (Tree.Step.key.inj (List.cons_prefix_cons.mp before).1).symm
  · exact outside l (Tree.Step.key.inj (List.cons_prefix_cons.mp behind).1)
  · exact outside l (Tree.Step.key.inj (List.cons_prefix_cons.mp begins).1)

end Order

inductive Said where
  | inVariable (s : String)
  | inFile (t : Tree)

namespace Said

def tree (l : Leaf) : Said → Tree
  | inVariable s => Environment.value l.key s
  | inFile t => t

def value? (k : Kind) : Said → Option Value
  | inVariable s => k.ofText? s
  | inFile t => k.ofTree? t

def word? : Said → Option String
  | inVariable s => if isScalarText s then none else some s
  | inFile t => textOf? t

structure Stray (l : Leaf) (w : String) (said : Said) : Prop where
  number : l.kind.IsNumber
  word : said.word? = some w
  truth : ¬ TruthWord w
  decimal : ¬ Decimal w.toList

end Said

def filed? (file : List (String × Tree)) (l : Leaf) : Option Tree :=
  (file.flatMap fun e => Tree.toldAt l.path (Path.ofText e.1) e.2).getLast?

def Sources.said? (src : Sources) (file : List (String × Tree)) (l : Leaf) : Option Said :=
  ((assigned? src.environment l).map .inVariable).or ((filed? file l).map .inFile)

section Said
variable {l : Leaf} {said : Said} {v : Value} {w : String}

theorem Said.valueReads (value : said.value? l.kind = some v) :
    Tree.optional l.read (some (said.tree l)) = .ok (some v) := by
  cases said with
  | inVariable s => exact Settings.valueReads (variableValue value)
  | inFile t => exact Settings.valueReads value

theorem Said.wordTree (number : l.kind.IsNumber) (word : said.word? = some w) :
    ∃ o, said.tree l = .leaf (.text w) o := by
  cases said with
  | inVariable s =>
    obtain ⟨plain, same⟩ := Option.ite_none_left_eq_some.mp word
    cases same
    exact ⟨_, variableWord number (Bool.eq_false_iff.mpr plain)⟩
  | inFile t => exact textIs word

theorem Said.Stray.refused (stray : said.Stray l w) : ∃ o, said.tree l = .leaf (.text w) o ∧
    Tree.optional l.read (some (said.tree l)) = .error (.wrongType (.text w) "an integer" [] o) := by
  obtain ⟨o, tree⟩ := Said.wordTree stray.number stray.word
  rw [tree]
  exact ⟨o, rfl, wordRefused stray.number stray.truth stray.decimal o⟩

theorem Said.valuePlain (value : said.value? l.kind = some v) : ¬ (said.tree l).IsTable := by
  cases said with
  | inVariable s => exact variablePlain l.key s
  | inFile t => exact Kind.plain value

end Said

section Whole
variable {src : Sources} {file : List (String × Tree)}

theorem Sources.layers (read : src.fileEntries = .ok file) :
    src.tree = .ok ((Tree.empty.layer file).layer (Environment.entries src.environment)) := by
  rw [Sources.fileEntries] at read
  rw [Sources.tree]
  cases chosen : File.chosen? src.files with
  | none =>
    rw [chosen] at read
    cases read
    rfl
  | some c =>
    rw [chosen] at read
    dsimp only at read ⊢
    rw [read]
    rfl

theorem Sources.saidAt (read : src.fileEntries = .ok file) (orderly : Orderly src file) :
    ∃ root, src.tree = .ok root ∧ ∀ l : Leaf, Tree.Clear l.part root ∧
      (src.said? file l = none → root.at? l.path = none) ∧
      ∀ said, src.said? file l = some said → ¬ (said.tree l).IsTable → root.at? l.path = some (said.tree l) := by
  refine ⟨_, Sources.layers read, fun l => ?_⟩
  have inFile : ∀ e ∈ file, Tree.Suits l.part l.name (Path.ofText e.1) e.2 := fun e member =>
    (orderly.inFile e member).elim (·.suits e.2 l) fun ⟨_, path, table⟩ => wholeSuits path table l
  have inVars : ∀ e ∈ Environment.entries src.environment, Tree.Suits l.part l.name (Path.ofText e.1) e.2 := by
    intro e member
    obtain ⟨v, among, key⟩ := (gathered src.environment).named e member
    exact (orderly.inVars v among e.1 key).suits e.2 l
  have blank : Tree.Clear l.part Tree.empty := ⟨[], none, rfl, fun t found => by cases found⟩
  obtain ⟨below, clear⟩ := Tree.laidAt blank inFile
  obtain ⟨above, clear⟩ := Tree.laidAt clear inVars
  refine ⟨clear, ?_⟩
  rw [Leaf.path, above, below, ← Leaf.path, variablesTold l inVars, Sources.said?]
  cases own : assigned? src.environment l with
  | some s =>
    refine ⟨fun no => (by cases no), fun said is plain => ?_⟩
    cases is
    exact Tree.overlaidLast rfl plain _
  | none =>
    cases last : filed? file l with
    | none =>
      rw [List.getLast?_eq_none_iff.mp last]
      exact ⟨fun _ => rfl, fun said is => by cases is⟩
    | some t =>
      refine ⟨fun no => (by cases no), fun said is plain => ?_⟩
      cases is
      exact Tree.overlaidLast last plain _

theorem Sources.readsSaid (read : src.fileEntries = .ok file) (orderly : Orderly src file) :
    ∃ root, load src = ofTree root ∧ ∀ l : Leaf, Tree.Clear l.part root ∧
      (src.said? file l = none → Tree.optional l.read (root.at? l.path) = .ok none) ∧
      ∀ said, src.said? file l = some said →
        (∀ v, said.value? l.kind = some v → Tree.optional l.read (root.at? l.path) = .ok (some v)) ∧
        ∀ w, said.Stray l w → ∃ o,
          Tree.optional l.read (root.at? l.path) = .error (.wrongType (.text w) "an integer" [] o) := by
  obtain ⟨root, tree, places⟩ := Sources.saidAt read orderly
  refine ⟨root, by rw [load, tree]; rfl, fun l => ?_⟩
  obtain ⟨clear, silent, saying⟩ := places l
  refine ⟨clear, fun unsaid => ?_, fun said is => ⟨fun v value => ?_, fun w stray => ?_⟩⟩
  · rw [silent unsaid]
    rfl
  · rw [saying said is (Said.valuePlain value)]
    exact Said.valueReads value
  · obtain ⟨o, text, refused⟩ := stray.refused
    rw [saying said is (text ▸ id)]
    exact ⟨o, refused⟩

theorem Sources.loadsSaid (read : src.fileEntries = .ok file) (orderly : Orderly src file)
    (values : ∀ l said, src.said? file l = some said → (said.value? l.kind).isSome) :
    ∃ s, load src = .ok s ∧ ∀ l : Leaf, l.of s = ((src.said? file l).bind (·.value? l.kind)).getD (l.of {}) := by
  obtain ⟨root, whole, places⟩ := Sources.readsSaid read orderly
  have each (l : Leaf) : Tree.optional l.read (root.at? l.path) = .ok ((src.said? file l).bind (·.value? l.kind)) := by
    obtain ⟨-, silent, saying⟩ := places l
    cases is : src.said? file l with
    | none => exact silent is
    | some said =>
      obtain ⟨v, value⟩ := Option.isSome_iff_exists.mp (values l said is)
      rw [Option.bind_some, value]
      exact (saying said is).1 v value
  rw [whole]
  rcases readAll fun l => (places l).1 with ⟨s, loads, reads⟩ | ⟨l, φ, refused, -⟩
  · refine ⟨s, loads, fun l => ?_⟩
    obtain ⟨v, read, sets⟩ := reads l
    cases (each l).symm.trans read
    exact sets
  · cases (each l).symm.trans refused

theorem Sources.refusesStray (read : src.fileEntries = .ok file) (orderly : Orderly src file) {l : Leaf} {said : Said}
    {w : String} (is : src.said? file l = some said) (stray : said.Stray l w) : ∃ φ, load src = .error φ := by
  obtain ⟨root, whole, places⟩ := Sources.readsSaid read orderly
  rw [whole]
  rcases readAll fun l => (places l).1 with ⟨s, -, reads⟩ | ⟨_, _, -, fails⟩
  · obtain ⟨v, read, -⟩ := reads l
    obtain ⟨o, refused⟩ := ((places l).2.2 said is).2 w stray
    cases refused.symm.trans read
  · exact ⟨_, fails⟩

theorem Sources.namesStray (read : src.fileEntries = .ok file) (orderly : Orderly src file)
    (known : ∀ l said, src.said? file l = some said → (said.value? l.kind).isSome ∨ ∃ w, said.Stray l w) {φ : Fault}
    (fails : load src = .error φ) : ∃ l said w o, src.said? file l = some said ∧ said.Stray l w ∧
      φ = .wrongType (.text w) "an integer" [.name l.part, .name l.name] o := by
  obtain ⟨root, whole, places⟩ := Sources.readsSaid read orderly
  rw [whole] at fails
  rcases readAll fun l => (places l).1 with ⟨s, loads, -⟩ | ⟨l, φ', refused, names⟩
  · cases loads.symm.trans fails
  · obtain ⟨-, silent, saying⟩ := places l
    cases is : src.said? file l with
    | none => cases (silent is).symm.trans refused
    | some said =>
      rcases known l said is with value | ⟨w, stray⟩
      · obtain ⟨v, value⟩ := Option.isSome_iff_exists.mp value
        cases ((saying said is).1 v value).symm.trans refused
      · obtain ⟨o, own⟩ := (saying said is).2 w stray
        cases own.symm.trans refused
        cases names.symm.trans fails
        exact ⟨l, said, w, o, is, stray, rfl⟩

/-- Whatever the file and the variables set, a setting is what its variable says, or else what the file says, or else
the default. A word where a number is wanted makes loading fail, whatever is said for the other settings; and where the
others are in order, the failure names such a setting. -/
theorem nearestLayerWins (read : src.fileEntries = .ok file) (orderly : Orderly src file) :
    ((∀ l said, src.said? file l = some said → (said.value? l.kind).isSome) →
      ∃ s, load src = .ok s ∧
        ∀ l : Leaf, l.of s = ((src.said? file l).bind (·.value? l.kind)).getD (l.of {})) ∧
    (∀ l said w, src.said? file l = some said → said.Stray l w → ∃ φ, load src = .error φ ∧
      ((∀ l said, src.said? file l = some said → (said.value? l.kind).isSome ∨ ∃ w, said.Stray l w) →
        ∃ l said w o, src.said? file l = some said ∧ said.Stray l w ∧
          φ = .wrongType (.text w) "an integer" [.name l.part, .name l.name] o)) := by
  refine ⟨Sources.loadsSaid read orderly, fun l said w is stray => ?_⟩
  obtain ⟨φ, fails⟩ := Sources.refusesStray read orderly is stray
  exact ⟨φ, fails, fun known => Sources.namesStray read orderly known fails⟩

end Whole

section Samples

def serverTold : Bytes :=
  Utf8.encode "\x7b\"server\":\x7b\"host\":\"::\",\"port\":\"x\",\"allowed_origins\":[\"a:\"]\x7d\x7d"

def serverMembers : List (String × Json) :=
  [("server", .object [("allowed_origins", .array [.string "a:"]), ("host", .string "::"), ("port", .string "x")])]

def serverEntries : List (String × Tree) := Tree.ofJsonMembers (some (.file "config/default.json")) serverMembers

def serverSources (vars : List (String × String)) : Sources where
  files := [("json", serverTold)]
  environment := vars

def portVars : List (String × String) := [("HubCast__Server__Port", "7000"), ("HUBCAST__OTHER__X", "1")]

theorem serverRead (vars : List (String × String)) : (serverSources vars).fileEntries = .ok serverEntries := by
  have chosen : File.chosen? [("json", serverTold)] = some (.json, serverTold) := by decide +kernel
  have read : (Json.read (Utf8.encode (File.text serverTold))).map Json.canonical = .ok (.object serverMembers) := by
    decide +kernel
  rw [Sources.fileEntries, serverSources, chosen]
  simp only [File.entries, read]
  rfl

theorem serverInFile : ∀ e ∈ serverEntries, Sited e.1 ∨ ∃ l : Leaf, Path.ofText e.1 = [.key l.part] ∧ e.2.IsTable := by
  intro e member
  cases List.mem_singleton.mp member
  exact .inr ⟨.port, by decide, trivial⟩

theorem portInVars : ∀ v ∈ portVars, ∀ k, Environment.key? v.1 = some k → Sited k := by
  intro v member k key
  rcases List.mem_pair.mp member with rfl | rfl
  · cases (by decide +kernel : Environment.key? "HubCast__Server__Port" = some "server.port").symm.trans key
    exact .inl ⟨.port, by decide⟩
  · cases (by decide +kernel : Environment.key? "HUBCAST__OTHER__X" = some "other.x").symm.trans key
    exact sitedOutside (by decide : Path.ofText "other.x" = [.key "other", .key "x"]) (by intro l; cases l <;> decide)

theorem portFromVariable :
    (∃ s, load (serverSources portVars) = .ok s ∧ s.server.host = "::" ∧ s.server.port = 7000 ∧ s.log.level = "info") ∧
    ∃ o, load (serverSources []) = .error (.wrongType (.text "x") "an integer" [.name "server", .name "port"] o) := by
  constructor
  · obtain ⟨loads, -⟩ := nearestLayerWins (serverRead portVars) ⟨serverInFile, portInVars⟩
    have values : ∀ l : Leaf, ((serverSources portVars).said? serverEntries l).all fun said =>
        (said.value? l.kind).isSome := by
      intro l
      cases l <;> decide +kernel
    obtain ⟨s, ok, reads⟩ := loads fun l said is => by simpa [is] using values l
    have host := (reads .host).trans (by decide +kernel : _ = Value.text "::")
    have port := (reads .port).trans (by decide +kernel : _ = Value.number 7000)
    have level := (reads .level).trans (by decide +kernel : _ = Value.text "info")
    exact ⟨s, ok, Value.text.inj host, Value.number.inj port, Value.text.inj level⟩
  · obtain ⟨-, strays⟩ := nearestLayerWins (serverRead []) ⟨serverInFile, nofun⟩
    have told : ∀ l : Leaf, ((serverSources []).said? serverEntries l).all fun said =>
        l = .port ∧ said.word? = some "x" ∨ ¬ l.kind.IsNumber ∧ (said.value? l.kind).isSome := by
      intro l
      cases l <;> decide +kernel
    have found : ((serverSources []).said? serverEntries .port).isSome := by decide +kernel
    have noTruth : ¬ TruthWord "x" := by
      unfold TruthWord
      decide +kernel
    have noNumber : ¬ Decimal "x".toList := fun decimal => by
      obtain ⟨d, member, digit⟩ := decimal.digit
      cases List.mem_singleton.mp member
      cases digit
    have only {l : Leaf} {said} (is : (serverSources []).said? serverEntries l = some said) :
        l = .port ∧ said.Stray l "x" ∨ ¬ l.kind.IsNumber ∧ (said.value? l.kind).isSome := by
      have one := told l
      rw [is, Option.all_some, decide_eq_true_iff] at one
      rcases one with ⟨rfl, word⟩ | other
      · exact .inl ⟨rfl, trivial, word, noTruth, noNumber⟩
      · exact .inr other
    obtain ⟨said, is⟩ := Option.isSome_iff_exists.mp found
    have stray := (only is).resolve_right fun other => other.1 trivial
    obtain ⟨φ, fails, names⟩ := strays .port said "x" is stray.2
    obtain ⟨l, said, w, o, is, other, rfl⟩ := names fun l said is =>
      (only is).elim (fun port => .inr ⟨"x", port.2⟩) fun other => .inl other.2
    rcases only is with ⟨rfl, own⟩ | ⟨noNumber, -⟩
    · cases own.word.symm.trans other.word
      exact ⟨o, fails⟩
    · exact absurd other.number noNumber

def sectionIndexed : Sources where
  environment := [("HUBCAST__SERVER[0]__X", "y")]

/- An index takes a section for a list, and what is put there for a setting, though nothing is said for one. -/
theorem sectionTakenForList :
    (∀ v ∈ sectionIndexed.environment, ∀ k, Environment.key? v.1 = some k → Apart (Path.ofText k)) ∧
    sectionIndexed.fileEntries = .ok [] ∧ (∀ l : Leaf, (sectionIndexed.said? [] l).isNone) ∧
    load sectionIndexed = .error (.wrongType .map "a string" [.name "server", .index 0] none) := by
  refine ⟨fun v member k key l => ?_, rfl, fun l => by cases l <;> decide +kernel, by decide +kernel⟩
  cases List.mem_singleton.mp member
  cases (by decide +kernel : Environment.key? "HUBCAST__SERVER[0]__X" = some "server[0].x").symm.trans key
  cases l <;> decide +kernel

end Samples

end RelayHub.Settings
