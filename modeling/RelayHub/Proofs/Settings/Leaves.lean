import Mathlib.Data.List.Forall2
import RelayHub.Settings.Typed
import RelayHub.Proofs.Settings.Laying

/-! The settings one by one, each at its place in the tree. Reading the tree reads every place for itself: a setting is
what its place says, or the default where nothing is said, and the first place that does not read is the fault. -/
namespace RelayHub.Settings

inductive Leaf where
  | host
  | port
  | allowedOrigins
  | writeWaitMs
  | pongWaitMs
  | pingPeriodMs
  | maxMessageSize
  | sendBufferSize
  | readBufferSize
  | writeBufferSize
  | level
  deriving DecidableEq, Repr

inductive Kind where
  | text
  | texts
  | word16
  | word64
  deriving DecidableEq, Repr

inductive Value where
  | text (s : String)
  | texts (ss : List String)
  | number (n : Nat)
  deriving DecidableEq, Repr

namespace Leaf

def part : Leaf → String
  | .host | .port | .allowedOrigins => "server"
  | .level => "log"
  | _ => "hub"

def name : Leaf → String
  | .host => "host"
  | .port => "port"
  | .allowedOrigins => "allowed_origins"
  | .writeWaitMs => "write_wait_ms"
  | .pongWaitMs => "pong_wait_ms"
  | .pingPeriodMs => "ping_period_ms"
  | .maxMessageSize => "max_message_size"
  | .sendBufferSize => "send_buffer_size"
  | .readBufferSize => "read_buffer_size"
  | .writeBufferSize => "write_buffer_size"
  | .level => "level"

def path (l : Leaf) : List Tree.Step := [.key l.part, .key l.name]

def kind : Leaf → Kind
  | .host | .level => .text
  | .allowedOrigins => .texts
  | .port => .word16
  | _ => .word64

def of (s : Settings) : Leaf → Value
  | .host => .text s.server.host
  | .port => .number s.server.port
  | .allowedOrigins => .texts s.server.allowedOrigins
  | .writeWaitMs => .number s.hub.writeWaitMs
  | .pongWaitMs => .number s.hub.pongWaitMs
  | .pingPeriodMs => .number s.hub.pingPeriodMs
  | .maxMessageSize => .number s.hub.maxMessageSize
  | .sendBufferSize => .number s.hub.sendBufferSize
  | .readBufferSize => .number s.hub.readBufferSize
  | .writeBufferSize => .number s.hub.writeBufferSize
  | .level => .text s.log.level

end Leaf

def Kind.read (k : Kind) (t : Tree) : Except Fault Value :=
  match k with
  | .text => t.text.map .text
  | .texts => (t.listOf Tree.text).map .texts
  | .word16 => t.port.map .number
  | .word64 => t.unsigned.map .number

def Leaf.read (l : Leaf) : Tree → Except Fault Value := l.kind.read

section Fields
variable {S α : Type} {up : S → Settings} {l : Leaf} {ls : List Leaf} {f : Field S} {fields : List (Field S)}
  {read : Tree → Except Fault α} {set : S → α → S} {name : String} {entries : List (String × Tree)} {s : S}
  {φ : Fault}

theorem fieldPasses {x : Option α} {rest : List (Field S)}
    (passes : Tree.optional read (entries.lookup name) = .ok x) :
    Section.ofEntries entries (.of name read set :: rest) s = Section.ofEntries entries rest (x.elim s (set s)) := by
  rw [Section.ofEntries, Field.of]
  cases found : entries.lookup name with
  | none =>
    cases (found ▸ passes : Except.ok none = Except.ok x)
    rfl
  | some t =>
    rw [found] at passes
    simp only [passes]
    cases x <;> rfl

theorem fieldRefuses {rest : List (Field S)} (refuses : Tree.optional read (entries.lookup name) = .error φ) :
    Section.ofEntries entries (.of name read set :: rest) s = .error (φ.under (.name name)) := by
  rw [Section.ofEntries, Field.of]
  cases found : entries.lookup name with
  | none => cases (found ▸ refuses : Except.ok none = Except.error φ)
  | some t =>
    rw [found] at refuses
    simp only [refuses]
    rfl

/- A field is for a setting: it reads what stands at its place, puts it there, and leaves the other settings as they
are. `up` makes the settings of a section part of the whole. -/
structure Serves (up : S → Settings) (l : Leaf) (f : Field S) : Prop where
  passes {entries v} (rest s) (passes : Tree.optional l.read (entries.lookup l.name) = .ok v) :
    ∃ s', Section.ofEntries entries (f :: rest) s = Section.ofEntries entries rest s' ∧
      l.of (up s') = v.getD (l.of (up s)) ∧ ∀ other ≠ l, other.of (up s') = other.of (up s)
  refuses {entries rest s φ} (refuses : Tree.optional l.read (entries.lookup l.name) = .error φ) :
    Section.ofEntries entries (f :: rest) s = .error (φ.under (.name l.name))

theorem optionalMap (g : α → Value) (read : Tree → Except Fault α) (t : Option Tree) :
    Tree.optional (fun t => (read t).map g) t = (Tree.optional read t).map (Option.map g) := by
  match t with
  | none | some (.leaf .nothing _) => rfl
  | some (.leaf (.bool _) _) | some (.leaf (.integer _) _) | some (.leaf (.real _) _) | some (.leaf (.text _) _)
  | some (.list _ _) | some (.table _ _) =>
    simp only [Tree.optional]
    cases read _ <;> rfl

theorem fieldServes (g : α → Value) (reads : l.read = fun t => (read t).map g)
    (sets : ∀ s x, l.of (up (set s x)) = g x := by intros; rfl)
    (frame : ∀ s x, ∀ other ≠ l, other.of (up (set s x)) = other.of (up s) := by
      intro _ _ other apart; cases other <;> trivial) :
    Serves up l (.of l.name read set) where
  passes {entries v} rest s passes := by
    rw [reads, optionalMap] at passes
    cases tried : Tree.optional read (entries.lookup l.name) with
    | error φ => rw [tried] at passes; cases passes
    | ok x =>
      rw [tried] at passes
      cases passes
      refine ⟨_, fieldPasses tried, ?_⟩
      cases x with
      | none => exact ⟨rfl, fun _ _ => rfl⟩
      | some x => exact ⟨sets s x, frame s x⟩
  refuses {entries rest s φ} refuses := by
    rw [reads, optionalMap] at refuses
    cases tried : Tree.optional read (entries.lookup l.name) with
    | ok x => rw [tried] at refuses; cases refuses
    | error φ' =>
      rw [tried] at refuses
      cases refuses
      exact fieldRefuses tried

theorem sectionServed (serve : List.Forall₂ (Serves up) ls fields) (once : ls.Nodup)
    (entries : List (String × Tree)) (s : S) :
    (∃ s', Section.ofEntries entries fields s = .ok s' ∧
      (∀ l ∈ ls, ∃ v, Tree.optional l.read (entries.lookup l.name) = .ok v ∧
        l.of (up s') = v.getD (l.of (up s))) ∧
      ∀ other ∉ ls, other.of (up s') = other.of (up s)) ∨
    ∃ l ∈ ls, ∃ φ, Tree.optional l.read (entries.lookup l.name) = .error φ ∧
      Section.ofEntries entries fields s = .error (φ.under (.name l.name)) := by
  induction serve generalizing s with
  | nil => exact .inl ⟨s, rfl, by simp, fun _ _ => rfl⟩
  | @cons l f ls fields serves _ ih =>
    obtain ⟨fresh, once⟩ := List.nodup_cons.mp once
    cases tried : Tree.optional l.read (entries.lookup l.name) with
    | error φ => exact .inr ⟨l, List.mem_cons_self, φ, tried, serves.refuses tried⟩
    | ok v =>
      obtain ⟨next, step, sets, frame⟩ := serves.passes fields s tried
      rw [step]
      rcases ih once next with ⟨s', read, rest, others⟩ | ⟨l', member, φ, refused, fails⟩
      · refine .inl ⟨s', read, List.forall_mem_cons.mpr ⟨⟨v, tried, ?_⟩, fun l' member => ?_⟩, fun other absent => ?_⟩
        · exact (others l fresh).trans sets
        · obtain ⟨v', read', sets'⟩ := rest l' member
          have apart : l' ≠ l := fun same => fresh (same ▸ member)
          exact ⟨v', read', frame l' apart ▸ sets'⟩
        · have apart : other ≠ l := List.ne_of_not_mem_cons absent
          exact (others other (List.not_mem_of_not_mem_cons absent)).trans (frame other apart)
      · exact .inr ⟨l', List.mem_cons_of_mem _ member, φ, refused, fails⟩

end Fields

structure Part (S : Type) where
  fields : Section S
  leaves : List Leaf
  up : S → Settings
  start : S
  key : String
  once : leaves.Nodup
  keys : ∀ l ∈ leaves, l.part = key
  blank : up start = {}
  serve : List.Forall₂ (Serves up) leaves fields.fields

def serverPart : Part ServerSettings where
  fields := serverSection
  leaves := [.host, .port, .allowedOrigins]
  up s := { server := s }
  start := {}
  key := "server"
  once := by decide
  keys := by decide
  blank := rfl
  serve := .cons (fieldServes .text rfl) <| .cons (fieldServes .number rfl) <| .cons (fieldServes .texts rfl) .nil

def hubPart : Part HubSettings where
  fields := hubSection
  leaves := [.writeWaitMs, .pongWaitMs, .pingPeriodMs, .maxMessageSize, .sendBufferSize, .readBufferSize,
    .writeBufferSize]
  up s := { hub := s }
  start := {}
  key := "hub"
  once := by decide
  keys := by decide
  blank := rfl
  serve :=
    .cons (fieldServes .number rfl) <| .cons (fieldServes .number rfl) <| .cons (fieldServes .number rfl) <|
    .cons (fieldServes .number rfl) <| .cons (fieldServes .number rfl) <| .cons (fieldServes .number rfl) <|
    .cons (fieldServes .number rfl) .nil

def logPart : Part LogSettings where
  fields := logSection
  leaves := [.level]
  up s := { log := s }
  start := {}
  key := "log"
  once := by decide
  keys := by decide
  blank := rfl
  serve := .cons (fieldServes .text rfl) .nil

section Whole
variable {S : Type} {entries : List (String × Tree)} {o : Option Origin} {root : Tree}

theorem atLeaf (l : Leaf) : Tree.at? l.path (.table entries o) =
    (entries.lookup l.part).bind (Tree.at? [.key l.name]) := by
  rw [Leaf.path, Tree.at?]

theorem Part.read (p : Part S) (clear : ∀ t, entries.lookup p.key = some t → t.IsTable) :
    (∃ x, Tree.optional (p.fields.read p.start) (entries.lookup p.key) = .ok x ∧
      ∀ l ∈ p.leaves, ∃ v, Tree.optional l.read (Tree.at? l.path (.table entries o)) = .ok v ∧
        l.of (p.up (x.getD p.start)) = v.getD (l.of {})) ∨
    ∃ l ∈ p.leaves, ∃ φ, Tree.optional l.read (Tree.at? l.path (.table entries o)) = .error φ ∧
      Tree.optional (p.fields.read p.start) (entries.lookup p.key) = .error (φ.under (.name l.name)) := by
  cases found : entries.lookup p.key with
  | none =>
    refine .inl ⟨none, rfl, fun l member => ⟨none, ?_, congrArg (Leaf.of · l) p.blank⟩⟩
    rw [atLeaf, p.keys l member, found]
    rfl
  | some t =>
    cases t with
    | leaf | list => exact absurd (clear _ found) id
    | table inner o' =>
      have here : ∀ l ∈ p.leaves, Tree.at? l.path (.table entries o) = inner.lookup l.name := by
        intro l member
        rw [atLeaf, p.keys l member, found]
        exact Tree.atName l.name inner o'
      have whole : Tree.optional (p.fields.read p.start) (some (.table inner o')) =
        (Section.ofEntries inner p.fields.fields p.start).map some := rfl
      rw [whole, ← p.blank]
      rcases sectionServed p.serve p.once inner p.start with ⟨s, read, leaves, -⟩ | ⟨l, member, φ, refused, fails⟩
      · refine .inl ⟨some s, congrArg (Except.map some) read, fun l member => ?_⟩
        rw [here l member]
        exact leaves l member
      · rw [← here l member] at refused
        exact .inr ⟨l, member, φ, refused, congrArg (Except.map some) fails⟩

theorem readAll (clear : ∀ l : Leaf, Tree.Clear l.part root) :
    (∃ s, ofTree root = .ok s ∧
      ∀ l : Leaf, ∃ v, Tree.optional l.read (root.at? l.path) = .ok v ∧ l.of s = v.getD (l.of {})) ∨
    ∃ (l : Leaf) (φ : Fault), Tree.optional l.read (root.at? l.path) = .error φ ∧
      ofTree root = .error ((φ.under (.name l.name)).under (.name l.part)) := by
  obtain ⟨entries, o, rfl, server⟩ := clear .host
  obtain ⟨_, _, same, hub⟩ := clear .writeWaitMs
  cases same
  obtain ⟨_, _, same, log⟩ := clear .level
  cases same
  have whole : ofTree (.table entries o) = Section.ofEntries entries [
      .of serverPart.key (serverPart.fields.read serverPart.start) fun s x => { s with server := x },
      .of hubPart.key (hubPart.fields.read hubPart.start) fun s x => { s with hub := x },
      .of logPart.key (logPart.fields.read logPart.start) fun s x => { s with log := x }] {} := rfl
  rw [whole]
  rcases serverPart.read (o := o) server with ⟨x, read, servers⟩ | ⟨l, member, φ, refused, fails⟩
  · rw [fieldPasses read]
    rcases hubPart.read (o := o) hub with ⟨y, read, hubs⟩ | ⟨l, member, φ, refused, fails⟩
    · rw [fieldPasses read]
      rcases logPart.read (o := o) log with ⟨z, read, logs⟩ | ⟨l, member, φ, refused, fails⟩
      · rw [fieldPasses read]
        refine .inl ⟨⟨x.getD {}, y.getD {}, z.getD {}⟩, by cases x <;> cases y <;> cases z <;> rfl, fun l => ?_⟩
        cases l with
        | host | port | allowedOrigins => exact servers _ (by decide)
        | level => exact logs _ (by decide)
        | _ => exact hubs _ (by decide)
      · exact .inr ⟨l, φ, refused, (fieldRefuses fails).trans (by rw [logPart.keys l member])⟩
    · exact .inr ⟨l, φ, refused, (fieldRefuses fails).trans (by rw [hubPart.keys l member])⟩
  · exact .inr ⟨l, φ, refused, (fieldRefuses fails).trans (by rw [serverPart.keys l member])⟩

end Whole

end RelayHub.Settings
