import RelayHub.Proofs.Scene.Sparing
import RelayHub.Proofs.Scene.Visit

/-! The first message of a client whose connection is accepted. It is the welcome, unless somebody else gets there
first: between its registration and its greeting a client is within reach of everybody. -/
namespace RelayHub

namespace Scene
variable {config : HubConfig} {s s' : Scene} {stage stage' : Acceptance} {h : Handle} {c c' : Client}

theorem ownGiven (own : Own s stage stage' s') (mine : stage.client? = some h) (early : stage ≠ .greeting h) :
    s'.hub.given? h = s.hub.given? h := by
  cases own with
  | build => contradiction
  | register k => exact Hub.givenRegister s.hub k
  | flush k => exact Hub.givenFlush s.hub
  | flushed => rfl
  | lost k _ entry => exact Session.noteGiven s.session k entry
  | take k _ => exact takeQueueGiven s k
  | refused k entry => exact (Hub.givenClose _ k).trans (Session.noteGiven s.session k entry)
  | mark k => exact Hub.givenUpdate s.hub k fun _ => rfl
  | attach k => rfl
  | greet k =>
    cases Option.some.inj mine
    exact absurd rfl early

theorem greetSends (own : Own s (.greeting h) stage' s') (found : s.hub.client? h = some c) :
    s'.hub = (s.hub.send h (ServerMessage.welcome c.id c.user).encode).2 := by
  have found : s.session.hub.client? h = some c := found
  cases own with
  | greet =>
    simp only [hub, Acceptance.greet, found]
    rfl

theorem ownDone (own : Own s stage (.done h) s') : stage = .greeting h := by
  cases own with
  | greet => rfl

end Scene

namespace Visit
open Scene
variable {config : HubConfig} {h : Handle} {id user : String} {v v' : Visit} {c c' : Client} {a : Action} {move : Move}

structure Kept (config : HubConfig) (h : Handle) (id user : String) (v : Visit) : Prop where
  sound : v.scene.Sound config
  stage : v.stage.client? = some h ∨ v.stage = .failed
  booked : v.stage.Booked v.scene
  known : ∃ c, v.scene.hub.client? h = some c ∧ c.id = id ∧ c.user = user ∧
    (v.stage = .done h → c.sender = true → c.arrived ≠ [])

namespace Kept
variable (kept : Kept config h id user v)
include kept

theorem has {k : Handle} (mine : v.stage.client? = some k) : v.scene.has k = true := by
  obtain ⟨c, found, -⟩ := kept.known
  have inside := (List.getElem?_eq_some_iff.mp found).1
  rcases kept.stage with here | failed
  · cases Option.some.inj (mine.symm.trans here)
    exact decide_eq_true inside
  · rw [failed] at mine
    contradiction

theorem effects (moved : v.move? move = some v') : v'.scene = v.scene ∨ ∃ a, Effect v.scene a v'.scene := by
  cases move with
  | own => exact (Scene.own moved).effect (fun k => kept.has) kept.booked
  | other a => exact .inr ⟨a, effect (otherActs moved).2.1⟩

theorem soundStep (moved : v.move? move = some v') : v'.scene.Sound config := by
  rcases kept.effects moved with same | ⟨a, effect⟩
  · exact same ▸ kept.sound
  · exact kept.sound.step effect

theorem onward (moved : v.move? move = some v') (found : v.scene.hub.client? h = some c) :
    ∃ c', v'.scene.hub.client? h = some c' ∧ c.Onward c' := by
  rcases kept.effects moved with same | ⟨a, effect⟩
  · exact ⟨c, same ▸ found, .refl c⟩
  · exact kept.sound.onward effect found

theorem ownStep (valid : config.fault? = none) (moved : v.own? = some v') : Kept config h id user v' := by
  have own := Scene.own moved
  have moved : v.move? .own = some v' := moved
  obtain ⟨c, found, rfl, rfl, -⟩ := kept.known
  obtain ⟨c', found', onward⟩ := kept.onward moved found
  have traits := onward.traits
  refine ⟨kept.soundStep moved, ?_, own.books, c', found', congrArg Traits.id traits, congrArg Traits.user traits, ?_⟩
  · rcases kept.stage with mine | failed
    · exact own.client mine
    · rw [failed] at own
      cases own
  · intro done sends given
    rw [done] at own
    have greeting := ownDone own
    rw [greeting] at own
    -- the greeting finds an open client that was given nothing, and so it gets through
    have fresh : c.arrived = [] := List.prefix_nil.mp (given ▸ onward.more)
    obtain ⟨c'', found'', arrived⟩ := kept.sound.firstSend valid found fresh (onward.sending sends) _
    rw [← greetSends own found] at found''
    cases found'.symm.trans found''
    exact absurd (given.symm.trans arrived) (by simp)

theorem otherStep (moved : v.other? a = some v') : Kept config h id user v' := by
  obtain ⟨foreign, acted, same⟩ := otherActs moved
  have booked := bookedOther kept.booked foreign (effect acted)
  have moved : v.move? (.other a) = some v' := moved
  obtain ⟨c, found, rfl, rfl, last⟩ := kept.known
  obtain ⟨c', found', onward⟩ := kept.onward moved found
  have traits := onward.traits
  refine ⟨kept.soundStep moved, same ▸ kept.stage, same ▸ booked, c', found',
    congrArg Traits.id traits, congrArg Traits.user traits, fun done sends given => ?_⟩
  have fresh : c.arrived = [] := List.prefix_nil.mp (given ▸ onward.more)
  exact last (same.symm.trans done) (onward.sending sends) fresh

theorem step (valid : config.fault? = none) (moved : v.move? move = some v') : Kept config h id user v' := by
  cases move with
  | own => exact kept.ownStep valid moved
  | other a => exact kept.otherStep moved

theorem firstStays (valid : config.fault? = none) {m : Bytes} (given : v.scene.hub.first? h = some m)
    {moves : List Move} (ran : v.run? moves = some v') : v'.scene.hub.first? h = some m := by
  refine (runInduction (P := fun t => Kept config h id user t ∧ t.scene.hub.first? h = some m) ⟨kept, given⟩ ?_ ran).2
  rintro t move t' ⟨kept, given⟩ moved
  obtain ⟨c, found, -⟩ := kept.known
  obtain ⟨c', found', onward⟩ := kept.onward moved found
  refine ⟨kept.step valid moved, ?_⟩
  rw [Hub.firstOf found] at given
  rw [Hub.firstOf found']
  obtain ⟨new, whole⟩ := onward.more
  rw [← whole, List.head?_append, given]
  rfl

end Kept

/- How a new client may come to its first message: by its greeting, or through somebody who names it or who finds
it registered before. -/
inductive Gives (h : Handle) (welcome m : Bytes) (v : Visit) : Move → Prop where
  | greeting (stage : v.stage = .greeting h) (first : m = welcome) : Gives h welcome m v .own
  | overtaking {a : Action} (early : v.stage ≠ .done h) (reach : a.names h = true ∨ v.scene.hub.Held h) :
      Gives h welcome m v (.other a)

theorem Kept.gives (kept : Kept config h id user v) (moved : v.move? move = some v')
    (before : v.scene.hub.first? h = none) {m : Bytes} (after : v'.scene.hub.first? h = some m) :
    Gives h (ServerMessage.welcome id user).encode m v move := by
  obtain ⟨c, found, rfl, rfl, last⟩ := kept.known
  have differ : v'.scene.hub.given? h ≠ v.scene.hub.given? h := by
    intro same
    rw [Hub.first?, same] at after
    exact absurd (before.symm.trans after) (by simp)
  have fresh : c.arrived = [] := by
    rw [Hub.firstOf found] at before
    exact List.head?_eq_none_iff.mp before
  obtain ⟨c', found', onward⟩ := kept.onward moved found
  cases move with
  | own =>
    have own := Scene.own moved
    by_cases greeting : v.stage = .greeting h
    · refine .greeting greeting ?_
      rw [greeting] at own
      obtain ⟨x, sent, arrived⟩ := Hub.sendResult found (ServerMessage.welcome c.id c.user).encode
      rw [← greetSends own found, found'] at sent
      cases Option.some.inj sent
      rw [Hub.firstOf found', arrived, fresh] at after
      split at after
      · exact (Option.some.inj after).symm
      · contradiction
    · rcases kept.stage with mine | failed
      · exact absurd (ownGiven own mine greeting) differ
      · rw [failed] at own
        cases own
  | other a =>
    obtain ⟨-, acted, -⟩ := otherActs moved
    have reach : a.names h = true ∨ v.scene.hub.Held h := by
      rcases namedOrRegistered kept.sound.settling kept.sound.truthful found acted with names | same | held
      · exact .inl names
      · exact absurd same differ
      · exact .inr held
    refine .overtaking (fun done => ?_) reach
    -- who was greeted and given nothing is shut, and so there is nothing more to come
    have gone : c.sender = false := by
      cases sends : c.sender with
      | false => rfl
      | true => exact absurd fresh (last done sends)
    rw [Hub.firstOf found', (onward.silent gone).2, fresh] at after
    contradiction

def setOut (s : Scene) (params : ConnectParams) (id peer : String) : Visit := ⟨.building params id peer, s⟩

theorem keptBuilt {s : Scene} (sound : s.Sound config) (params : ConnectParams) (id peer : String)
    (built : (setOut s params id peer).own? = some v) :
    Kept config s.hub.clients.length id params.user v ∧ v.scene.hub.first? s.hub.clients.length = none := by
  cases Option.some.inj built
  have found : (s.build (params.profile id peer)).hub.client? s.hub.clients.length = some (params.client id peer) :=
    List.getElem?_concat_length
  refine ⟨?_, Hub.firstOf found⟩
  exact {
    sound := sound.step (.build (params.profile id peer))
    stage := .inl rfl
    booked := trivial
    known := ⟨_, found, rfl, rfl, nofun⟩ }

end Visit

namespace Scene
open Visit (Gives setOut)

/-- The first message of a client whose connection is accepted, whatever else happens from before it is built. If it
is still open when it has been greeted, it was given something by then. And its first message is the welcome with
its own id and user, and comes with its greeting; or before that, an action of somebody else has got ahead of the
greeting. Such an action is a send to the client itself or comes of its own frames, or else it has found the client
registered. -/
theorem welcomedFirstOrOvertaken {config : HubConfig} (valid : config.fault? = none) {as : List Action} {s : Scene}
    (reached : (opening config).run? as = some s) (params : ConnectParams) (id peer : String)
    {moves : List Visit.Move} {v : Visit} (ran : (setOut s params id peer).run? (.own :: moves) = some v) :
    (∃ c, v.scene.hub.client? s.hub.clients.length = some c ∧ c.id = id ∧ c.user = params.user ∧
      (v.stage = .done s.hub.clients.length → c.sender = true → c.arrived ≠ [])) ∧
    ∀ m, v.scene.hub.first? s.hub.clients.length = some m → ∃ front move back t t', moves = front ++ move :: back ∧
      (setOut s params id peer).run? (.own :: front) = some t ∧ t.move? move = some t' ∧
      t.scene.hub.first? s.hub.clients.length = none ∧ t'.scene.hub.first? s.hub.clients.length = some m ∧
      Gives s.hub.clients.length (ServerMessage.welcome id params.user).encode m t move := by
  obtain ⟨built, own, later⟩ := Option.bind_eq_some_iff.mp ran
  obtain ⟨kept, before⟩ := Visit.keptBuilt (sound reached) params id peer own
  have keptRun : ∀ {ms t}, built.run? ms = some t → Visit.Kept config s.hub.clients.length id params.user t :=
    fun ran => Visit.runInduction kept (fun _ _ _ kept moved => kept.step valid moved) ran
  refine ⟨(keptRun later).known, fun m given => ?_⟩
  obtain ⟨front, move, back, t, t', split, early, moved, late, silent, heard⟩ :=
    Visit.runTurns (P := fun t => t.scene.hub.first? s.hub.clients.length ≠ none) later (not_not.mpr before)
      (by simp [given])
  have silent := not_not.mp silent
  obtain ⟨m', first⟩ := Option.ne_none_iff_exists'.mp heard
  have here := keptRun early
  have stays := (here.step valid moved).firstStays valid first late
  cases stays.symm.trans given
  exact ⟨front, move, back, t, t', split, Option.bind_eq_some_iff.mpr ⟨built, own, early⟩, moved, silent, first,
    here.gives moved silent first⟩

def servingHub : List Action := [.run, .turn .run]

def guest : ConnectParams := { user := "u", tenant := "t", token := none }

def acceptedAlone : List Visit.Move :=
  [.own, .other (.turn .loop), .own, .other (.turn .loop), .own, .own, .own, .own, .own]

theorem guestIsWelcomed : ∃ s v c, (opening {}).run? servingHub = some s ∧
    (setOut s guest "c" "p").run? (.own :: acceptedAlone) = some v ∧ v.scene.hub.client? 0 = some c ∧
    v.stage = .done 0 ∧ c.sender = true ∧ c.arrived ≠ [] := by
  have shown : ((opening {}).run? servingHub).bind (fun s => ((setOut s guest "c" "p").run? (.own :: acceptedAlone)).map
      fun v => (s.hub.clients.length, v.stage, (v.scene.hub.client? 0).map (·.sender))) =
        some (0, .done 0, some true) := by
    rfl
  obtain ⟨s, reached, shown⟩ := Option.bind_eq_some_iff.mp shown
  obtain ⟨v, ran, shown⟩ := Option.map_eq_some_iff.mp shown
  simp only [Prod.mk.injEq] at shown
  obtain ⟨first, done, shown⟩ := shown
  obtain ⟨c, found, sends⟩ := Option.map_eq_some_iff.mp shown
  obtain ⟨⟨c', found', -, -, given⟩, -⟩ := welcomedFirstOrOvertaken (by decide) reached guest "c" "p" ran
  rw [first] at found' given
  cases found.symm.trans found'
  exact ⟨s, v, c, reached, ran, found, done, sends, given done sends⟩

def acceptedBesideBroadcast : List Visit.Move :=
  [.own, .other (.turn .loop), .own, .other (.turn .loop), .other (.broadcast [101]), .own, .own, .own, .own, .own]

theorem welcomeOvertaken : ¬ ∀ config as s params id peer moves v c m, HubConfig.fault? config = none →
    (opening config).run? as = some s → (setOut s params id peer).run? (.own :: moves) = some v →
    v.scene.hub.client? s.hub.clients.length = some c → c.arrived.head? = some m →
    m = (ServerMessage.welcome id params.user).encode := by
  intro welcomes
  have shown : ((opening {}).run? servingHub).bind (fun s =>
      ((setOut s guest "c" "p").run? (.own :: acceptedBesideBroadcast)).map fun v =>
        (s.hub.clients.length, (v.scene.hub.client? 0).map (·.arrived.head?))) = some (0, some (some [101])) := by
    rfl
  obtain ⟨s, reached, shown⟩ := Option.bind_eq_some_iff.mp shown
  obtain ⟨v, ran, shown⟩ := Option.map_eq_some_iff.mp shown
  obtain ⟨first, shown⟩ := Prod.mk.inj shown
  obtain ⟨c, found, arrived⟩ := Option.map_eq_some_iff.mp shown
  have same := welcomes {} servingHub s guest "c" "p" acceptedBesideBroadcast v c [101] (by decide) reached ran
    (first ▸ found) arrived
  exact absurd same (by decide +kernel)

end Scene
end RelayHub
