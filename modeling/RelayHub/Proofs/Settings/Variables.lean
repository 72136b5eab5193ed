import Mathlib.Data.List.Induction
import Mathlib.Data.List.Nodup
import RelayHub.Proofs.Settings.Values

/-! Variables as settings: which variable a setting has, and that a variable tells its own setting and no other one. -/
namespace RelayHub.Settings

namespace Leaf

def key (l : Leaf) : String := l.part ++ "." ++ l.name

theorem keyPath (l : Leaf) : Path.ofText l.key = l.path := by
  cases l <;> decide

theorem keyOfList (l : Leaf) : l.key = Environment.listKey ↔ l = .allowedOrigins := by
  cases l <;> decide

/- A name, in capital or small letters, that a variable for a setting has. A point in it stands for itself. -/
def Named (l : Leaf) (name : String) : Prop :=
  String.ofList (name.toList.map Char.toLower) ∈
    ["hubcast__" ++ l.part ++ "__" ++ l.name, "hubcast__" ++ l.part ++ "." ++ l.name]

instance (l : Leaf) : DecidablePred l.Named := fun _ => by unfold Named; infer_instance

end Leaf

section Names
variable {cs rest tail : List Char}

theorem behindIff (ahead cs rest : List Char) : Environment.behind? ahead cs = some rest ↔ cs = ahead ++ rest := by
  induction ahead generalizing cs with
  | nil => exact Option.some_inj
  | cons a ahead ih =>
    cases cs with
    | nil => simp [Environment.behind?]
    | cons c cs => by_cases same : a = c <;> simp [Environment.behind?, same, ih, Ne.symm]

theorem pointsName (points : Environment.points rest = cs ++ tail) (name : '.' ∉ cs) :
    ∃ more, rest = cs ++ more ∧ Environment.points more = tail := by
  induction cs generalizing rest with
  | nil => exact ⟨rest, rfl, points⟩
  | cons c cs ih =>
    obtain ⟨apart, others⟩ := not_or.mp (List.mem_cons.not.mp name)
    unfold Environment.points at points
    split at points
    · exact absurd (List.cons.inj points).1 apart
    · obtain ⟨rfl, later⟩ := List.cons.inj points
      obtain ⟨more, rfl, ended⟩ := ih later others
      exact ⟨more, rfl, ended⟩
    · cases points

theorem pointsMark (points : Environment.points rest = '.' :: tail) :
    ∃ more, (rest = '_' :: '_' :: more ∨ rest = '.' :: more) ∧ Environment.points more = tail := by
  unfold Environment.points at points
  split at points
  · exact ⟨_, .inl rfl, (List.cons.inj points).2⟩
  · obtain ⟨rfl, later⟩ := List.cons.inj points
    exact ⟨_, .inr rfl, later⟩
  · cases points

theorem pointsOver (points : Environment.points rest = []) : rest = [] := by
  unfold Environment.points at points
  split at points <;> first | rfl | cases points

theorem spelledList (l : Leaf) (mark : String) : ("hubcast__" ++ l.part ++ mark ++ l.name).toList =
    Environment.lead ++ (l.part.toList ++ (mark.toList ++ l.name.toList)) := by
  rw [String.toList_append, String.toList_append, String.toList_append, List.append_assoc, List.append_assoc]
  rfl

theorem namedIff (l : Leaf) (name : String) : l.Named name ↔ ∃ mark ∈ ["__", "."],
    name.toList.map Char.toLower = Environment.lead ++ (l.part.toList ++ (mark.toList ++ l.name.toList)) := by
  simp only [List.mem_cons, List.not_mem_nil, or_false, exists_eq_or_imp, exists_eq_left, ← spelledList]
  rw [Leaf.Named, List.mem_pair, ← String.toList_inj, ← String.toList_inj, String.toList_ofList]

theorem keyNamed (l : Leaf) (name : String) : Environment.key? name = some l.key ↔ l.Named name := by
  rw [namedIff]
  constructor
  · intro keyed
    obtain ⟨rest, behind, points⟩ := Option.bind_eq_some_iff.mp keyed
    have text : Environment.points rest = l.part.toList ++ '.' :: (l.name.toList ++ []) := by
      rw [← String.toList_ofList (l := Environment.points rest), Option.some.inj points, Leaf.key, String.toList_append,
        String.toList_append, List.append_nil, List.append_assoc]
      rfl
    obtain ⟨_, rfl, marked⟩ := pointsName text (by cases l <;> decide)
    obtain ⟨_, mark, named⟩ := pointsMark marked
    obtain ⟨_, rfl, ended⟩ := pointsName named (by cases l <;> decide)
    rw [pointsOver ended, List.append_nil] at mark
    rw [(behindIff ..).mp behind]
    rcases mark with rfl | rfl
    · exact ⟨"__", by simp, rfl⟩
    · exact ⟨".", by simp, rfl⟩
  · rintro ⟨mark, either, spelled⟩
    have points : Environment.points (l.part.toList ++ (mark.toList ++ l.name.toList)) = l.key.toList := by
      rcases List.mem_pair.mp either with rfl | rfl <;> cases l <;> rfl
    rw [Environment.key?, (behindIff ..).mpr spelled]
    exact congrArg some (String.toList_inj.mp ((String.toList_ofList ..).trans points))

end Names

section Paths
variable {a b s : String} {cs rest : List Char}

theorem nameSplits (named : Path.name? cs = some (a, rest)) : cs = a.toList ++ rest := by
  unfold Path.name? at named
  split at named
  · contradiction
  · obtain ⟨rfl, rfl⟩ := Prod.mk.inj (Option.some.inj named)
    rw [String.toList_ofList]
    exact (List.takeWhile_append_dropWhile ..).symm

theorem stepsCases {fuel : Nat} {p : List Tree.Step} (steps : Path.steps? fuel cs = some p) :
    cs = [] ∧ p = [] ∨
    (∃ a rest less q, cs = '.' :: (a.toList ++ rest) ∧ Path.steps? less rest = some q ∧ p = .key a :: q) ∨
    ∃ i q, p = .index i :: q := by
  unfold Path.steps? at steps
  split at steps
  · exact .inl ⟨rfl, (Option.some.inj steps).symm⟩
  · contradiction
  · split at steps
    · rename_i point
      obtain ⟨⟨a, rest⟩, named, steps⟩ := Option.bind_eq_some_iff.mp steps
      obtain ⟨q, later, last⟩ := Option.bind_eq_some_iff.mp steps
      exact .inr (.inl ⟨a, rest, _, q, by rw [point, nameSplits named], later, (Option.some.inj last).symm⟩)
    · split at steps
      · obtain ⟨⟨i, rest⟩, -, steps⟩ := Option.bind_eq_some_iff.mp steps
        obtain ⟨q, -, last⟩ := Option.bind_eq_some_iff.mp steps
        exact .inr (.inr ⟨i, q, (Option.some.inj last).symm⟩)
      · contradiction

theorem pathCases (s : String) : Path.ofText s = [.key s] ∨
    ∃ a rest fuel q, s.toList = a.toList ++ rest ∧ Path.steps? fuel rest = some q ∧ Path.ofText s = .key a :: q := by
  rw [Path.ofText]
  cases read : Path.ofText? s with
  | none => exact .inl rfl
  | some p =>
    obtain ⟨⟨a, rest⟩, named, read⟩ := Option.bind_eq_some_iff.mp read
    obtain ⟨q, steps, last⟩ := Option.bind_eq_some_iff.mp read
    exact .inr ⟨a, rest, _, q, nameSplits named, steps, (Option.some.inj last).symm⟩

theorem pathBegins (s : String) : ∃ k q, Path.ofText s = .key k :: q := by
  rcases pathCases s with own | ⟨a, _, _, q, -, -, path⟩
  · exact ⟨s, [], own⟩
  · exact ⟨a, q, path⟩

theorem stepsOver {fuel : Nat} (steps : Path.steps? fuel cs = some []) : cs = [] := by
  rcases stepsCases steps with ⟨ended, -⟩ | ⟨_, _, _, _, -, -, more⟩ | ⟨_, _, more⟩
  · exact ended
  · cases more
  · cases more

theorem stepsName {fuel : Nat} (steps : Path.steps? fuel cs = some [.key b]) : cs = '.' :: b.toList := by
  rcases stepsCases steps with ⟨-, none⟩ | ⟨a, rest, _, q, text, later, one⟩ | ⟨_, _, other⟩
  · cases none
  · cases one
    rw [text, stepsOver later, List.append_nil]
  · cases other

theorem pathOfNames (path : Path.ofText s = [.key a, .key b]) : s = a ++ "." ++ b := by
  rcases pathCases s with own | ⟨_, rest, _, q, text, steps, both⟩
  · cases own.symm.trans path
  · cases both.symm.trans path
    refine String.toList_inj.mp ?_
    rw [text, stepsName steps, String.toList_append, String.toList_append, List.append_assoc]
    rfl

end Paths

section Values
variable {l : Leaf} {v : Value} {s : String}

theorem wordsRead (ss : List String) : (ss.map Environment.word).mapM textOf? = some ss := by
  induction ss with
  | nil => rfl
  | cons s ss ih =>
    rw [List.map_cons, List.mapM_cons, ih]
    rfl

theorem variableValue (value : l.kind.ofText? s = some v) : l.kind.ofTree? (Environment.value l.key s) = some v := by
  cases kind : l.kind with
  | text =>
    rw [kind, Kind.ofText?, Option.ite_none_left_eq_some] at value
    obtain ⟨plain, same⟩ := value
    cases same
    have other : l ≠ .allowedOrigins := by rintro rfl; cases kind
    rw [plainValue (Bool.eq_false_iff.mpr plain), if_neg ((Leaf.keyOfList l).not.mpr other)]
    rfl
  | texts =>
    rw [kind, Kind.ofText?, Option.ite_none_left_eq_some] at value
    obtain ⟨plain, same⟩ := value
    cases same
    have here : l = .allowedOrigins := by cases l <;> first | rfl | cases kind
    have words := wordsRead ((s.toList.splitOn ',').map String.ofList)
    rw [List.map_map] at words
    rw [plainValue (Bool.eq_false_iff.mpr plain), if_pos ((Leaf.keyOfList l).mpr here)]
    exact congrArg (Option.map Value.texts) words
  | word16 | word64 =>
    rw [kind, Kind.ofText?] at value
    obtain ⟨n, integer, word⟩ := Option.bind_eq_some_iff.mp value
    rw [integerValue integer]
    exact word

theorem variableWord (number : l.kind.IsNumber) (plain : isScalarText s = false) :
    Environment.value l.key s = .leaf (.text s) Environment.origin := by
  have other : l ≠ .allowedOrigins := by rintro rfl; exact number
  rw [plainValue plain, if_neg ((Leaf.keyOfList l).not.mpr other)]
  rfl

end Values

section Entries
variable {entries : List (String × Tree)} {vars : List (String × String)}

def assigned? (vars : List (String × String)) (l : Leaf) : Option String :=
  (vars.filter fun v => l.Named v.1).getLast?.map (·.2)

structure Gathered (vars : List (String × String)) (entries : List (String × Tree)) : Prop where
  once : (entries.map (·.1)).Nodup
  plain : ∀ e ∈ entries, ¬ e.2.IsTable
  named : ∀ e ∈ entries, ∃ v ∈ vars, Environment.key? v.1 = some e.1
  found (l : Leaf) : entries.lookup l.key = (assigned? vars l).map (Environment.value l.key)

theorem assignedSnoc (vars : List (String × String)) (v : String × String) (l : Leaf) :
    assigned? (vars ++ [v]) l = if l.Named v.1 then some v.2 else assigned? vars l := by
  rw [assigned?, List.filter_append]
  split
  · rename_i own
    simp [own]
  · rename_i other
    simp [other, assigned?]

theorem entriesSnoc (vars : List (String × String)) (v : String × String) :
    Environment.entries (vars ++ [v]) = (Environment.key? v.1).elim (Environment.entries vars) fun key =>
      Table.put key (Environment.value key v.2) (Environment.entries vars) := by
  rw [Environment.entries, List.foldl_append, List.foldl_cons, List.foldl_nil]
  cases Environment.key? v.1 <;> rfl

theorem gathered (vars : List (String × String)) : Gathered vars (Environment.entries vars) := by
  induction vars using List.reverseRecOn with
  | nil => exact ⟨List.nodup_nil, nofun, nofun, fun l => rfl⟩
  | append_singleton vars v ih =>
    rw [entriesSnoc]
    have named : ∀ e ∈ Environment.entries vars, ∃ w ∈ vars ++ [v], Environment.key? w.1 = some e.1 := by
      intro e member
      obtain ⟨w, among, key⟩ := ih.named e member
      exact ⟨w, List.mem_append_left _ among, key⟩
    cases keyed : Environment.key? v.1 with
    | none =>
      refine ⟨ih.once, ih.plain, named, fun l => ?_⟩
      rw [assignedSnoc, if_neg fun named => by cases keyed.symm.trans ((keyNamed l v.1).mpr named)]
      exact ih.found l
    | some key =>
      refine ⟨Table.putDistinct _ _ ih.once, fun e member => ?_, fun e member => ?_, fun l => ?_⟩
      · rcases Table.putMember member with rfl | before
        · exact variablePlain key v.2
        · exact ih.plain e before
      · rcases Table.putMember member with rfl | before
        · exact ⟨v, List.mem_append_right _ List.mem_cons_self, keyed⟩
        · exact named e before
      · simp only [Option.elim_some, Table.lookupPut, assignedSnoc, ← keyNamed, keyed, Option.some.injEq, ih.found]
        by_cases own : key = l.key
        · rw [if_pos own.symm, if_pos own, own]
          rfl
        · rw [if_neg (Ne.symm own), if_neg own]

theorem onceFound (k : String) (once : (entries.map (·.1)).Nodup) :
    (entries.flatMap fun e => if e.1 = k then [e.2] else []) = (entries.lookup k).toList := by
  induction entries with
  | nil => rfl
  | cons e entries ih =>
    obtain ⟨fresh, once⟩ := List.nodup_cons.mp once
    rw [List.flatMap_cons, Table.lookupCons]
    by_cases here : k = e.1
    · have others : (entries.flatMap fun e => if e.1 = k then [e.2] else []) = [] :=
        List.flatMap_eq_nil_iff.mpr fun e' member => if_neg fun same =>
          fresh (List.mem_map.mpr ⟨e', member, same.trans here⟩)
      rw [if_pos here.symm, if_pos here, others]
      rfl
    · rw [if_neg (Ne.symm here), if_neg here]
      exact ih once

theorem variablesTold (l : Leaf)
    (suits : ∀ e ∈ Environment.entries vars, Tree.Suits l.part l.name (Path.ofText e.1) e.2) :
    ((Environment.entries vars).flatMap fun e => Tree.toldAt l.path (Path.ofText e.1) e.2) =
      ((assigned? vars l).map (Environment.value l.key)).toList := by
  obtain ⟨once, plain, -, found⟩ := gathered vars
  have each : ∀ e ∈ Environment.entries vars, Tree.toldAt l.path (Path.ofText e.1) e.2 =
      if e.1 = l.key then [e.2] else [] := by
    intro e member
    split
    · rename_i own
      rw [own, l.keyPath, Tree.placeTold]
    · rename_i other
      have suit := suits e member
      generalize path : Path.ofText e.1 = q at suit ⊢
      cases suit with
      | place => exact absurd (pathOfNames path) other
      | whole table => exact absurd table (plain e member)
      | elsewhere _ apart q => exact Tree.elsewhereTold apart _ q e.2
      | beside _ apart q => exact Tree.besideTold apart _ q e.2
  rw [List.flatMap_congr each, onceFound l.key once, found]

end Entries

end RelayHub.Settings
