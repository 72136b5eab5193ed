import RelayHub.Connect.Transport
import RelayHub.Settings.Basic
import RelayHub.Proofs.Scene.Silence

/-! What is asked of the layers below in a run whose configuration was accepted. A value that is too low is turned
down before there is a hub. One that is too high passes, and it is the queue, the connection or the clock that gives
way, at every client anew. -/
namespace RelayHub

namespace HubConfig
variable {c : HubConfig}

theorem acceptedFaultless {hub : Hub} (accepted : Hub.ofConfig c = .ok hub) :
    c.fault? = none ∧ (Scene.opening c).hub = hub := by
  cases valid : c.fault? with
  | some fault => simp [Hub.ofConfig, checked, valid, bind, Except.bind] at accepted
  | none =>
    simp only [Hub.ofConfig, checked, valid, bind, Except.bind, pure, Except.pure, Except.ok.injEq] at accepted
    exact ⟨rfl, accepted⟩

section Faultless
variable (valid : c.fault? = none)
include valid

theorem queueTooLarge : c.queueFault? = if maxQueue < c.sendBufferSize then some .queueCapacity else none := by
  obtain ⟨-, -, -, room, -⟩ := faultless.mp valid
  simp [queueFault?, Nat.ne_of_gt room]

theorem tickerWithin (now : Nat) : (c.tickerFault? now).or (c.deadlineFault? now) = c.deadlineFault? now := by
  obtain ⟨below, period, -⟩ := faultless.mp valid
  have ticks : c.pingPeriod.isZero = false := decide_eq_false (Nat.ne_of_gt period)
  rw [tickerFault?, ticks, if_neg Bool.false_ne_true]
  split
  · rename_i past
    have later : lastInstant < now + c.pongWait.nanos := by omega
    rw [deadlineFault?, if_pos later]
    rfl
  · exact Option.none_or

theorem setupTooLarge (now : Nat) : c.setupFault? now =
    if maxQueue < c.sendBufferSize then some .queueCapacity
    else if maxWord64 ≤ c.writeBufferSize then some .writeBuffer
    else if lastInstant < now + c.pongWait.nanos then some .clock
    else none := by
  rw [setupFault?, queueTooLarge valid, startFault?, tickerWithin valid, Transport.fault?, deadlineFault?]
  split
  · rfl
  · rw [Option.none_or]
    exact apply_ite (Option.or · _) _ _ _

theorem setupEarlier {now later : Nat} (forward : now ≤ later) (usable : c.setupFault? later = none) :
    c.setupFault? now = none := by
  rw [setupTooLarge valid] at usable ⊢
  grind

end Faultless

theorem settingsWithin {set : HubSettings} (word : set.pongWaitMs ≤ maxWord64) {now : Nat}
    (early : now + maxWord64 * 1000000 ≤ lastInstant) : now + set.config.pongWait.nanos ≤ lastInstant := by
  have wait : set.config.pongWait.nanos ≤ maxWord64 * 1000000 := Nat.mul_le_mul_right _ word
  exact (Nat.add_le_add_left wait now).trans early

end HubConfig

namespace Scene
variable {c : HubConfig} {as : List Action} {s s' t : Scene} {a : Action} {h : Handle}

/- The fault that the layers below meet with in an action. A write deadline is none of them: one that lies behind the
end of the clock just never comes. -/
def raises? (s : Scene) : Action → Option SetupFault
  | .build _ => s.session.config.queueFault?
  | .attach _ _ => s.session.config.startFault? s.session.clock
  | .turn (.readNext h) =>
    if (s.session.link? h).any (·.incoming.head? = some .pong) then s.session.config.deadlineFault? s.session.clock
    else none
  | _ => none

theorem raisesNothing (usable : s.session.config.setupFault? s.session.clock = none) (a : Action) :
    s.raises? a = none := by
  obtain ⟨queue, start⟩ := Option.or_eq_none_iff.mp usable
  obtain ⟨-, timers⟩ := Option.or_eq_none_iff.mp start
  obtain ⟨-, deadline⟩ := Option.or_eq_none_iff.mp timers
  unfold raises?
  split
  · exact queue
  · exact start
  · split
    · exact deadline
    · rfl
  · rfl

theorem setupRaises {f : SetupFault} (fault : s.session.config.setupFault? s.session.clock = some f) :
    (∀ p, s.raises? (.build p) = some f) ∨ ∀ h sink, s.raises? (.attach h sink) = some f := by
  rcases Option.or_eq_some_iff.mp fault with queue | ⟨-, start⟩
  · exact .inl fun _ => queue
  · exact .inr fun _ _ => start

theorem clockRun (ran : s.run? as = some s') : s.session.clock ≤ s'.session.clock := by
  refine runInduction (P := fun u => s.session.clock ≤ u.session.clock) (Nat.le_refl _) ?_ ran
  intro t a t' _ before acted
  exact before.trans (clockForward (effect acted))

theorem Does.clock (does : s.Does as t a) (ran : s.run? as = some s') : t.session.clock ≤ s'.session.clock := by
  obtain ⟨before, after, rfl, earlier⟩ := does
  rw [runAppend, earlier] at ran
  exact clockRun ran

def Timely (c : HubConfig) (s : Scene) : Prop :=
  ∀ h l deadline, s.session.link? h = some l → l.reading = some deadline →
    deadline ≤ s.session.clock + c.pongWait.nanos

theorem timelyStep (conform : Conform (fun _ => False) s) (settings : s.session.config = c) (timely : s.Timely c)
    (acted : s.act? a = some s') : s'.Timely c := by
  intro h l' deadline found' reading'
  have forward := clockForward (effect acted)
  have now : s.session.clock + c.pongWait.nanos ≤ s'.session.clock + c.pongWait.nanos :=
    Nat.add_le_add_right forward _
  cases found : s.session.link? h with
  | none =>
    -- a connection that was not there before is that of a client which is set going now
    by_cases start : ∃ sink, a = .attach h sink
    · obtain ⟨sink, rfl⟩ := start
      obtain ⟨begun, rfl⟩ := ifSome acted
      obtain ⟨-, -, attached⟩ := attachedLink conform begun sink
      cases found'.symm.trans attached
      cases reading'
      rw [settings]
      exact now
    · have never : ∀ sink, a ≠ .attach h sink := fun sink here => start ⟨sink, here⟩
      exact absurd (found'.symm.trans (unlinkedStep acted never found)) (by simp)
  | some l =>
    obtain ⟨x, held⟩ := conform.linked found
    obtain ⟨l'', found'', listens⟩ := listens conform held found acted
    cases found'.symm.trans found''
    rcases deadlineMoves listens with ⟨-, -, -, put⟩ | ⟨-, same | ended⟩
    · cases reading'.symm.trans put
      rw [Session.readDeadline, settings]
      exact now
    · exact (timely h l deadline found (same ▸ reading')).trans now
    · exact absurd (ended.symm.trans reading') (by simp)

theorem timelyRun (ran : (opening c).run? as = some s) : s.Timely c := by
  obtain ⟨conform, start⟩ := peopled (show (opening c).run? [] = some (opening c) from rfl)
  refine (conform.along (P := fun s => Peopled c s ∧ s.Timely c) ⟨start, ?_⟩ ?_ ran).2.2
  · intro h l deadline found
    simp [opening, Session.link?] at found
  · rintro t a t' conform ⟨peopled, timely⟩ acted
    exact ⟨peopledStep conform peopled (effect acted), timelyStep conform peopled.settings timely acted⟩

theorem queueWithin (ran : (opening c).run? as = some s) {x : Client} (held : s.hub.client? h = some x) :
    x.queue.length ≤ c.sendBufferSize := by
  obtain ⟨life, lived, lives⟩ := (peopled ran).2.lives h x held
  cases Option.some.inj (lives.client.symm.trans held)
  exact (Life.livedSound lived).room

/-- What an accepted configuration can still ask too much of: a queue beyond the largest one, a write buffer that
leaves nothing to hold back, and a wait for pongs that goes on behind the end of the clock; all else was turned down
before. Settings, in milliseconds, never come near that end. No run outgrows what was asked: a queue keeps within its
capacity, and a deadline within one wait of the clock. And so a run in which the configuration suits its last moment
has met with no fault at any of its clients, while one that does not suit fails at every client that is built or set
going. -/
theorem acceptedWithinReach {hub : Hub} (accepted : Hub.ofConfig c = .ok hub) :
    (opening c).hub = hub ∧
    (∀ now, c.setupFault? now =
      if maxQueue < c.sendBufferSize then some .queueCapacity
      else if maxWord64 ≤ c.writeBufferSize then some .writeBuffer
      else if lastInstant < now + c.pongWait.nanos then some .clock
      else none) ∧
    (∀ set : HubSettings, set.config = c → set.pongWaitMs ≤ maxWord64 →
      ∀ now, now + maxWord64 * 1000000 ≤ lastInstant → c.setupFault? now ≠ some .clock) ∧
    ∀ as s, (opening c).run? as = some s →
      (∀ h x, s.hub.client? h = some x → x.queue.length ≤ c.sendBufferSize) ∧
      (∀ h l deadline, s.session.link? h = some l → l.reading = some deadline →
        deadline ≤ s.session.clock + c.pongWait.nanos) ∧
      (c.setupFault? s.session.clock = none → ∀ t a, (opening c).Does as t a → t.raises? a = none) ∧
      (∀ f, c.setupFault? s.session.clock = some f →
        (∀ p, s.raises? (.build p) = some f) ∨ ∀ h sink, s.raises? (.attach h sink) = some f) := by
  obtain ⟨valid, same⟩ := HubConfig.acceptedFaultless accepted
  refine ⟨same, HubConfig.setupTooLarge valid, ?_, fun as s ran => ?_⟩
  · rintro set rfl word now early
    have within := HubConfig.settingsWithin word early
    rw [HubConfig.setupTooLarge valid, if_neg (Nat.not_lt.mpr within)]
    grind
  · refine ⟨fun h x => queueWithin ran, timelyRun ran, fun usable t a does => ?_, fun f fault => ?_⟩
    · have earlier := HubConfig.setupEarlier valid (does.clock ran) usable
      obtain ⟨before, after, -, reached⟩ := does
      have settings : t.session.config = c := (peopled reached).2.settings
      exact raisesNothing (settings.symm ▸ earlier) a
    · have settings : s.session.config = c := (peopled ran).2.settings
      exact setupRaises (settings.symm ▸ fault)

def largestConfig : HubConfig where
  sendBufferSize := maxQueue
  writeBufferSize := maxWord64 - 1
  pongWait := ⟨lastInstant⟩

def plainProfile : Profile := { id := "c", user := "u", tenant := "t" }

def startPlain : List Action := [.build plainProfile, .takeQueue 0, .markStarted 0, .attach 0 .ok]

theorem largestConfigStarts : ∃ hub s, Hub.ofConfig largestConfig = .ok hub ∧
    (opening largestConfig).run? startPlain = some s ∧
    (∀ t a, (opening largestConfig).Does startPlain t a → t.raises? a = none) ∧
    (s.session.link? 0).any (·.reading = some lastInstant) = true ∧ largestConfig.setupFault? 1 = some .clock := by
  have ran : ((opening largestConfig).run? startPlain).any (fun s => s.session.clock = 0 &&
    (s.session.link? 0).any (·.reading = some lastInstant)) = true := by decide +kernel
  obtain ⟨s, ran, shown⟩ := (Option.any_eq_true ..).mp ran
  obtain ⟨clock, reading⟩ := (Bool.and_eq_true ..).mp shown
  have accepted : Hub.ofConfig largestConfig = .ok { config := largestConfig } := rfl
  obtain ⟨-, fault, -, runs⟩ := acceptedWithinReach accepted
  obtain ⟨-, -, quiet, -⟩ := runs startPlain s ran
  have usable : largestConfig.setupFault? s.session.clock = none := by
    rw [of_decide_eq_true clock]
    decide
  exact ⟨_, s, accepted, ran, quiet usable, reading, fault 1⟩

/- One place more in the queue is accepted too, and no client can be built. -/
theorem acceptedBeyondReach : ¬ ∀ c hub as s t a, Hub.ofConfig c = .ok hub → (opening c).run? as = some s →
    (opening c).Does as t a → t.raises? a = none := by
  intro usable
  have accepted : Hub.ofConfig { sendBufferSize := maxQueue + 1 } =
    .ok { config := { sendBufferSize := maxQueue + 1 } } := rfl
  have none := usable _ _ [.build plainProfile] _ _ (.build plainProfile) accepted rfl ⟨[], [], rfl, rfl⟩
  exact absurd none (by decide)

end Scene
end RelayHub
