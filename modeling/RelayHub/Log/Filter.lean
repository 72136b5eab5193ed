import RelayHub.Log.Directive
import RelayHub.Log.Entry

/-! Which log entries are shown. Each directive that does not ask for a span or for the value of a field
is a rule for entries; of the rules that apply to an entry the most specific one counts. -/
namespace RelayHub.Log

structure Rule where
  target : Option String := none
  names : List String := []
  rank : Rank
  deriving DecidableEq, Repr

/- No entry is written inside a span of work, where alone a span or the value of a field is known. -/
def Directive.rule? (d : Directive) : Option Rule :=
  if d.span.isSome ∨ d.fields.any (·.matched) then none
  else some ⟨d.target, d.fields.map (·.name), d.rank⟩

def isBefore : List String → List String → Bool
  | [], [] => false
  | [], _ :: _ => true
  | _ :: _, [] => false
  | a :: as, b :: bs => a < b || (a = b && isBefore as bs)

def Rule.targetSize (r : Rule) : Nat := (r.target.map fun t => t.utf8ByteSize + 1).getD 0

def Rule.isLess (a b : Rule) : Bool :=
  a.targetSize < b.targetSize || (a.targetSize = b.targetSize &&
    (a.names.length < b.names.length || (a.names.length = b.names.length && isBefore a.names b.names)))

/- Does the rule apply to entries of a source with these fields? Where `names` is `none` the question is
about the source alone. -/
def Rule.appliesTo (r : Rule) (source : String) (names : Option (List String)) : Bool :=
  (r.target.all fun t => t.toList.isPrefixOf source.toList) &&
    names.all fun names => r.names.all names.contains

abbrev Filter := List Rule

def Filter.ofText (s : String) : Except Directive.Fault Filter := do
  let directives ← ((s.toList.splitOn ',').filter fun p => !p.isEmpty).mapM Directive.read
  return directives.filterMap Directive.rule?

def levelRank (s : String) : Rank :=
  let word := s.map Char.toLower
  if word = "error" then 1
  else if word = "warn" ∨ word = "warning" then 2
  else if word = "debug" then 4
  else if word = "trace" then 5
  else 3

def Filter.ofLevel (s : String) : Filter := [{ rank := levelRank s }]

/- The filter of the environment if it is set and well formed, else the level of the settings. There
is no filter where a directive is cut inside a character. -/
def Filter.choose (level : String) (setting : Option String) : Option Filter :=
  match setting.map Filter.ofText with
  | none | some (.error .malformed) => some (.ofLevel level)
  | some (.ok filter) => some filter
  | some (.error .cut) => none

def better (best : Option Rule) (r : Rule) : Option Rule :=
  match best with
  | none => some r
  | some b => if r.isLess b then some b else some r

def Filter.rankFor (f : Filter) (source : String) (names : Option (List String)) : Rank :=
  (((f.filter (·.appliesTo source names)).foldl better none).map (·.rank)).getD 0

def Filter.enabled (f : Filter) (source : String) (level : Level) : Bool :=
  level.rank ≤ f.rankFor source none

def Filter.shows (f : Filter) (e : Entry) : Bool :=
  e.level.rank ≤ f.rankFor e.source.path (some ("message" :: e.fields.map (·.1)))

end RelayHub.Log
