import RelayHub.Settings.Path

/-! What stands at a place of a settings tree after other trees were laid over it: all that was told for that place, one
thing laid over the other, and nothing of what was told elsewhere. Places are names under a section; a path that goes
on by an index where the place has a name is kept out, since it takes the section itself away. -/
namespace RelayHub.Settings

namespace Tree
variable {k a b : String} {t root : Tree} {entries base : List (String × Tree)}

def IsTable : Tree → Prop
  | .table _ _ => True
  | _ => False

def at? : List Step → Tree → Option Tree
  | [], t => some t
  | .key k :: rest, .table entries _ => (entries.lookup k).bind (at? rest)
  | _ :: _, _ => none

def told : List Step → Tree → List Tree
  | [], t => [t]
  | .key k :: rest, .table entries _ => (entries.filter (·.1 = k)).flatMap fun e => told rest e.2
  | _ :: _, _ => []

def overlaid (old : Option Tree) (ts : List Tree) : Option Tree :=
  ts.foldl (fun old t => some (laidOver t old)) old

theorem lookupOver (k : String) (entries base : List (String × Tree)) :
    (entriesOver entries base).lookup k =
      overlaid (base.lookup k) ((entries.filter (·.1 = k)).map (·.2)) := by
  induction entries generalizing base with
  | nil => rfl
  | cons e entries ih =>
    rw [entriesOver, ih, Table.lookupPut]
    by_cases same : e.1 = k
    · subst same
      rw [if_pos rfl, List.filter_cons_of_pos (by exact decide_eq_true rfl)]
      rfl
    · rw [if_neg (Ne.symm same), List.filter_cons_of_neg (by simpa using same)]

theorem toldName (k : String) (entries : List (String × Tree)) (o : Option Origin) :
    told [.key k] (.table entries o) = (entries.filter (·.1 = k)).map (·.2) := by
  rw [told]
  exact List.map_eq_flatMap.symm

theorem atName (k : String) (entries : List (String × Tree)) (o : Option Origin) :
    at? [.key k] (.table entries o) = entries.lookup k := by
  rw [at?]
  exact Option.bind_fun_some _

theorem overlaidAppend (old : Option Tree) (ts us : List Tree) :
    overlaid old (ts ++ us) = overlaid (overlaid old ts) us := List.foldl_append

theorem laidPlain (plain : ¬ t.IsTable) (old : Option Tree) : laidOver t old = t := by
  cases t with
  | leaf | list => rfl
  | table => exact absurd trivial plain

theorem overlaidLast {ts : List Tree} (last : ts.getLast? = some t) (plain : ¬ t.IsTable) (old : Option Tree) :
    overlaid old ts = some t := by
  obtain ⟨before, rfl⟩ := List.getLast?_eq_some_iff.mp last
  rw [overlaidAppend]
  exact congrArg some (laidPlain plain _)

/- A tree at the end of a path is in order with a place in a section: it is for the place itself, for the section as a
whole, for another section, or for another place in this one. -/
inductive Suits (a b : String) : List Step → Tree → Prop where
  | place (t : Tree) : Suits a b [.key a, .key b] t
  | whole {t : Tree} (table : t.IsTable) : Suits a b [.key a] t
  | elsewhere (t : Tree) {c : String} (apart : c ≠ a) (q : List Step) : Suits a b (.key c :: q) t
  | beside (t : Tree) {c : String} (apart : c ≠ b) (q : List Step) : Suits a b (.key a :: .key c :: q) t

def toldAt (p q : List Step) (t : Tree) : List Tree :=
  if q <+: p then told (p.drop q.length) t else []

theorem elsewhereTold {c : String} (apart : c ≠ a) (p q : List Step) (t : Tree) :
    toldAt (.key a :: p) (.key c :: q) t = [] :=
  if_neg fun ahead => apart (Step.key.inj (List.cons_prefix_cons.mp ahead).1)

theorem besideTold {c : String} (apart : c ≠ b) (p q : List Step) (t : Tree) :
    toldAt (.key a :: .key b :: p) (.key a :: .key c :: q) t = [] :=
  if_neg fun ahead => apart (Step.key.inj (List.cons_prefix_cons.mp (List.cons_prefix_cons.mp ahead).2).1)

theorem placeTold (p : List Step) (t : Tree) : toldAt p p t = [t] := by
  rw [toldAt, if_pos (List.prefix_refl _), List.drop_length, told]

theorem wholeTold (a b : String) (entries : List (String × Tree)) (o : Option Origin) :
    toldAt [.key a, .key b] [.key a] (.table entries o) = (entries.filter (·.1 = b)).map (·.2) :=
  (if_pos ⟨[.key b], rfl⟩).trans (toldName ..)

def Clear (a : String) (root : Tree) : Prop :=
  ∃ entries o, root = .table entries o ∧ ∀ t, entries.lookup a = some t → t.IsTable

theorem atPlace (b : String) (o : Option Origin) (clear : ∀ t, entries.lookup a = some t → t.IsTable) :
    at? [.key a, .key b] (.table entries o) = (asTable (entries.lookup a)).1.lookup b := by
  rw [at?]
  cases found : entries.lookup a with
  | none => rfl
  | some t =>
    cases t with
    | leaf | list => exact absurd (clear _ found) id
    | table inner o' => exact atName b inner o'

theorem clearPut {o : Option Origin} (clear : ∀ t, entries.lookup a = some t → t.IsTable) (table : a = k → t.IsTable) :
    Clear a (.table (Table.put k t entries) o) := by
  refine ⟨_, _, rfl, fun u found => ?_⟩
  rw [Table.lookupPut] at found
  split at found
  · rename_i same
    exact Option.some.inj found ▸ table same
  · exact clear u found

theorem placed {q : List Step} (clear : Clear a root) (suits : Suits a b q t) :
    (place t q (some root)).at? [.key a, .key b] =
        overlaid (root.at? [.key a, .key b]) (toldAt [.key a, .key b] q t) ∧
      Clear a (place t q (some root)) := by
  obtain ⟨entries, o, rfl, clear⟩ := clear
  rw [atPlace b o clear]
  cases suits with
  | place =>
    refine ⟨?_, clearPut clear fun _ => trivial⟩
    rw [placeTold, place, asTable, at?, Table.lookupPut, if_pos rfl, Option.bind_some, place, atName,
      Table.lookupPut, if_pos rfl, place]
    rfl
  | whole table =>
    cases t with
    | leaf | list => exact absurd table id
    | table inner o' =>
      refine ⟨?_, clearPut clear fun _ => trivial⟩
      rw [wholeTold, place, asTable, at?, Table.lookupPut, if_pos rfl, Option.bind_some, place, laidOver, atName,
        lookupOver]
  | @elsewhere _ c apart q =>
    refine ⟨?_, clearPut clear fun same => absurd same apart.symm⟩
    rw [elsewhereTold apart, place, asTable, at?, Table.lookupPut, if_neg apart.symm]
    exact atPlace b o clear
  | @beside _ c apart q =>
    refine ⟨?_, clearPut clear fun _ => trivial⟩
    rw [besideTold apart, place, asTable, at?, Table.lookupPut, if_pos rfl, Option.bind_some, place, atName,
      Table.lookupPut, if_neg apart.symm]
    rfl

theorem laidAt (clear : Clear a root) (suits : ∀ e ∈ entries, Suits a b (Path.ofText e.1) e.2) :
    (root.layer entries).at? [.key a, .key b] = overlaid (root.at? [.key a, .key b])
        (entries.flatMap fun e => toldAt [.key a, .key b] (Path.ofText e.1) e.2) ∧
      Clear a (root.layer entries) := by
  induction entries generalizing root with
  | nil => exact ⟨rfl, clear⟩
  | cons e entries ih =>
    obtain ⟨first, suits⟩ := List.forall_mem_cons.mp suits
    obtain ⟨now, clear⟩ := placed clear first
    rw [List.flatMap_cons, overlaidAppend, ← now]
    exact ih clear suits

end Tree
end RelayHub.Settings
