import RelayHub.Proofs.Scene.Setup
import RelayHub.Proofs.Session.Working

/-! The loops come to rest by themselves. While nobody calls anything and nothing comes in, they have only so many
turns to take, in whatever order they take them and however the outgoing sides behave; more of them come with the
clock only, and for any time that passes a limited number. -/
namespace RelayHub

def Action.isTurn : Action → Bool
  | .turn _ => true
  | _ => false

/- What goes on without a call or a peer: the loops, the end of close calls that are half done, outgoing sides that
change, and time. -/
def Action.isUnprompted : Action → Bool
  | .turn _ | .finishClose _ | .setSink .. | .pass _ => true
  | _ => false

namespace Session
variable {s : Session}

theorem settledIff : s.settled = true ↔ ∀ t, s.take? t = none := by
  constructor
  · intro settled t
    by_cases here : t ∈ s.turns
    · exact settledTurn settled here
    · cases t with
      | run | loop => simp [turns] at here
      | readCancelled h | readNext h | readExpired h | takeMessage h | tick h | write h | writeExpired h =>
        have outside : s.links.length ≤ h := by simpa [turns] using here
        have absent : s.link? h = none := by simp [link?, outside]
        simp [take?, readCancelled?, readNext?, readExpired?, takeMessage?, tick?, write?, writeExpired?, absent]
  · intro stuck
    simp [settled, stuck]

end Session

namespace Scene
open Session (Ticking)
variable {s s' : Scene} {a : Action} {as : List Action} {h : Handle} {ticks : Nat → Nat}

/-- The scenes there may be. A hub is made from settings that are accepted; then anything may happen in any order. A
close call inside another call may come to rest between its two steps, and at any time everyone may let go of
the hub. -/
inductive Arises : Scene → Prop where
  | start {c : HubConfig} {hub : Hub} (accepted : Hub.ofConfig c = .ok hub) : Arises { session := { hub } }
  | act {s s' : Scene} {a : Action} (before : Arises s) (acted : s.act? a = some s') : Arises s'
  | late {s : Scene} {h : Handle} {events : List Event} (before : Arises s)
      (last : s.hub.events = events ++ [.unregister h]) (shut : s.hub.isOpen h = false) :
      Arises { s.onHub (fun hub => { hub with events }) with closing := h :: s.closing }
  | dropped {s : Scene} (before : Arises s) : Arises (s.onHub Hub.release)

theorem Arises.run (arises : Arises s) (ran : s.run? as = some s') : Arises s' :=
  runInduction arises (fun _ _ _ _ before acted => .act before acted) ran

theorem filedStep (filed : s.hub.Filed) (effect : Effect s a s') : s'.hub.Filed := by
  cases effect with
  | build p => exact filed.build p.client
  | register h _ => exact filed.register h
  | beginClose h _ => exact filed.same rfl fun k _ own => (Hub.beginCloseMember s.hub h k).trans own
  | finishClose h _ =>
    have registry : (s.hub.finishClose h).registry = s.hub.registry :=
      congrArg Outline.registry (Hub.finishCloseOutline s.hub h)
    exact filed.same registry fun k _ own => (Hub.finishCloseMember s.hub h k).trans own
  | takeQueue h _ => exact filed.outline (takeQueueOutline s h)
  | markStarted h _ => exact filed.outline (Hub.outlineUpdate fun _ _ => rfl)
  | setMetadata h key value _ => exact filed.outline (Hub.outlineUpdate fun _ _ => rfl)
  | flush => exact filed.flush
  | shutdown => exact filed.shutdown
  | attach | setSink | pass => exact filed
  | run => exact filed.same rfl fun _ _ own => own
  | begin began =>
    cases Hub.begun began with
    | first | another => exact filed.same rfl fun _ _ own => own
  | loop stepped => exact filed.loopStep (Hub.loopSteps stepped)
  | write _ _ step =>
    rcases Session.writeOutline step with same | closed
    · exact filed.outline same
    · exact (filed.close _).outline closed
  | call _ aside => exact Hub.Filed.calls aside.hub filed

structure Fit (s : Scene) : Prop where
  filed : s.hub.Filed
  period : 0 < s.session.config.pingPeriod.nanos

theorem Fit.act (fit : s.Fit) (acted : s.act? a = some s') : s'.Fit where
  filed := filedStep fit.filed (effect acted)
  period := by
    have config : s'.session.config = s.session.config := (steady (effect acted)).1
    rw [config]
    exact fit.period

theorem Fit.run (fit : s.Fit) (ran : s.run? as = some s') : s'.Fit :=
  runInduction fit (fun _ _ _ _ before acted => before.act acted) ran

theorem arisesFit (arises : Arises s) : s.Fit := by
  induction arises with
  | @start c hub accepted =>
    obtain ⟨valid, rfl⟩ := HubConfig.acceptedFaultless accepted
    obtain ⟨-, period, -⟩ := HubConfig.faultless.mp valid
    exact ⟨fun u i m held => absurd held (Registry.emptyHolds u i m), period⟩
  | act _ acted before => exact before.act acted
  | late _ _ _ before => exact ⟨before.filed, before.period⟩
  | dropped _ before => exact ⟨before.filed, before.period⟩

section Alone

def load (s : Scene) (ticks : Nat → Nat) : Nat := s.session.workBy ticks + s.closing.length

theorem loadStep (fit : s.Fit) (ticking : Ticking ticks s.session.clock s.session.config.pingPeriod.nanos)
    (alone : a.isUnprompted = true) (acted : s.act? a = some s') :
    (if a.isTurn then 1 else 0) + s'.load ticks ≤ s.load ticks := by
  cases a with
  | turn t =>
    obtain ⟨session, taken, rfl⟩ := Option.map_eq_some_iff.mp acted
    have less := Session.workTurn fit.filed ticking taken
    simp only [load, Action.isTurn, if_true]
    omega
  | finishClose h =>
    obtain ⟨begun, rfl⟩ := ifSome acted
    have told : (s.session.onHub (·.finishClose h)).workBy ticks ≤ s.session.workBy ticks + 1 :=
      Session.workOnHub 1 (Hub.Later.finishClose s.hub h).length (Hub.workFinishClose s.hub h)
    have fewer := List.length_erase_of_mem begun
    have some := List.length_pos_of_mem begun
    simp only [load, finishClose, onHub, Action.isTurn, Bool.false_eq_true, if_false]
    omega
  | setSink h mode =>
    cases Option.some.inj acted
    have same : (s.session.setSink h mode).workBy ticks ≤ s.session.workBy ticks :=
      Session.workUpdateLinkLe fun _ _ => Nat.le_refl _
    simp only [load, Action.isTurn, Bool.false_eq_true, if_false]
    omega
  | pass nanos =>
    cases Option.some.inj acted
    exact (Nat.zero_add _).le
  | _ => contradiction

/- What goes on by itself, with the number of turns. A close call inside a turn may come to rest between its two
steps. -/
inductive Undisturbed (s : Scene) : Nat → Scene → Prop where
  | start : Undisturbed s 0 s
  | act {n : Nat} {t t' : Scene} {a : Action} (before : Undisturbed s n t) (alone : a.isUnprompted = true)
      (acted : t.act? a = some t') : Undisturbed s ((if a.isTurn then 1 else 0) + n) t'
  | late {n : Nat} {t : Scene} {h : Handle} {events : List Event} (before : Undisturbed s n t)
      (last : t.hub.events = events ++ [.unregister h]) (shut : t.hub.isOpen h = false) :
      Undisturbed s n { t.onHub (fun hub => { hub with events }) with closing := h :: t.closing }

theorem loadLate {events : List Event} (last : s.hub.events = events ++ [.unregister h]) (ticks : Nat → Nat) :
    Scene.load { s.onHub (fun hub => { hub with events }) with closing := h :: s.closing } ticks = s.load ticks := by
  have length : s.session.hub.events.length = events.length + 1 := by
    rw [show s.session.hub.events = _ from last, List.length_append, List.length_singleton]
  simp only [load, Session.workBy, Hub.work, onHub, Session.onHub, List.length_cons, length]
  omega

theorem Undisturbed.load {n time : Nat} (fit : s.Fit)
    (ticking : ∀ now, now ≤ time → Ticking ticks now s.session.config.pingPeriod.nanos) (run : s.Undisturbed n s')
    (inTime : s'.session.clock ≤ time) :
    s'.Fit ∧ s'.session.config = s.session.config ∧ n + s'.load ticks ≤ s.load ticks := by
  induction run with
  | start => exact ⟨fit, rfl, (Nat.zero_add _).le⟩
  | @act n t t' a before alone acted ih =>
    have effect := effect acted
    have earlier := (clockForward effect).trans inTime
    obtain ⟨fit', config, less⟩ := ih earlier
    have step := loadStep fit' (config ▸ ticking _ earlier) alone acted
    refine ⟨fit'.act acted, (steady effect).1.trans config, ?_⟩
    omega
  | late before last _ ih =>
    obtain ⟨fit', config, less⟩ := ih inTime
    exact ⟨⟨fit'.filed, fit'.period⟩, config, loadLate last ticks ▸ less⟩

theorem turnsUntil {n : Nat} (fit : s.Fit) (run : s.Undisturbed n s') :
    n ≤ s.session.workUntil s'.session.clock + s.closing.length := by
  have positive := fit.period
  obtain ⟨-, -, bound⟩ := run.load fit (fun _ => Session.tickingUntil positive) (Nat.le_refl _)
  exact (Nat.le_add_right _ _).trans bound

end Alone

section Settle

theorem turnWork (fit : s.Fit) {t : Session.Turn} (acted : s.act? (.turn t) = some s') :
    s'.session.work < s.session.work := by
  have effect := effect acted
  have config : s'.session.config = s.session.config := (steady effect).1
  have clock : s'.session.clock = s.session.clock := by
    rcases clockMoves effect with still | ⟨nanos, passes, -⟩
    · exact still
    · contradiction
  have same : s'.session.ticksNow = s.session.ticksNow := by
    funext due
    rw [Session.ticksNow, Session.ticksNow, config, clock]
  obtain ⟨session, taken, rfl⟩ := Option.map_eq_some_iff.mp acted
  rw [Session.workNow, Session.workNow, same]
  exact Session.workTurn fit.filed (Session.tickingNow fit.period) taken

theorem turnsWork (fit : s.Fit) {ts : List Session.Turn} (ran : s.run? (ts.map .turn) = some s') :
    ts.length + s'.session.work ≤ s.session.work := by
  induction ts generalizing s with
  | nil =>
    cases ran
    exact (Nat.zero_add _).le
  | cons t rest ih =>
    obtain ⟨next, acted, later⟩ := Option.bind_eq_some_iff.mp ran
    have less := turnWork fit acted
    have others := ih (fit.act acted) later
    rw [List.length_cons]
    omega

def RestsIn (s : Scene) (session : Session) : Prop :=
  ∃ ts : List Session.Turn, s.run? (ts.map .turn) = some { s with session } ∧ ∀ t, session.take? t = none

theorem RestsIn.stuck {session : Session} (rests : s.RestsIn session) (t : Session.Turn) : session.take? t = none := by
  obtain ⟨-, -, stuck⟩ := rests
  exact stuck t

theorem restsWith (fit : s.Fit) {fuel : Nat} (enough : s.session.work < fuel) :
    s.RestsIn (s.session.settleWith fuel) := by
  induction fuel generalizing s with
  | zero => contradiction
  | succ fuel ih =>
    simp only [Session.settleWith]
    cases next : s.session.turns.findSome? s.session.take? with
    | none =>
      refine ⟨[], rfl, Session.settledIff.mp ?_⟩
      have stuck := List.findSome?_eq_none_iff.mp next
      exact List.all_eq_true.mpr fun t here => by rw [stuck t here]; rfl
    | some session =>
      obtain ⟨t, -, taken⟩ := List.exists_of_findSome?_eq_some next
      have acted : s.act? (.turn t) = some { s with session } := Option.map_eq_some_iff.mpr ⟨session, taken, rfl⟩
      have less := turnWork fit acted
      obtain ⟨ts, ran, stuck⟩ := ih (fit.act acted) (Nat.lt_of_lt_of_le less (Nat.le_of_lt_succ enough))
      refine ⟨t :: ts, ?_, stuck⟩
      rw [List.map_cons, run?, acted]
      exact ran

theorem restsSettled (fit : s.Fit) : s.RestsIn s.session.settle := restsWith fit (Nat.lt_succ_self _)

end Settle

section Advance

/- The clock of the run goes on as that of `Responsive` and `LeftAlone` does, for all clients. -/
def Punctual (s : Scene) (as : List Action) : Prop :=
  ∀ t nanos, s.Does as t (.pass nanos) → ∀ h, t.session.mayPass h nanos = true ∧ t.session.heeds h nanos = true

def Advances (s : Scene) (time : Nat) (session : Session) : Prop :=
  ∃ as, (∀ a ∈ as, a.isTurn = true ∨ a.nanos?.isSome = true) ∧ s.run? as = some { s with session } ∧
    session.clock = time ∧ s.Punctual as

theorem turnsStand {ts : List Session.Turn} (ran : s.run? (ts.map .turn) = some s') :
    s'.session.clock = s.session.clock := by
  refine runInduction (P := fun t => t.session.clock = s.session.clock) rfl ?_ ran
  rintro u a u' member before acted
  obtain ⟨t, -, rfl⟩ := List.mem_map.mp member
  rcases clockMoves (effect acted) with still | ⟨nanos, passes, -⟩
  · exact still.trans before
  · contradiction

theorem Advances.clock {session : Session} {time : Nat} (advances : s.Advances time session) :
    session.clock = time := by
  obtain ⟨-, -, -, clock, -⟩ := advances
  exact clock

theorem RestsIn.advances {session : Session} (rests : s.RestsIn session) : s.Advances s.session.clock session := by
  obtain ⟨ts, ran, -⟩ := rests
  refine ⟨ts.map .turn, fun a member => ?_, ran, turnsStand ran, fun t nanos does => ?_⟩
  · obtain ⟨t, -, rfl⟩ := List.mem_map.mp member
    exact .inl rfl
  · obtain ⟨t, -, same⟩ := List.mem_map.mp does.done
    contradiction

theorem Advances.trans {session session' : Session} {time time' : Nat} (first : s.Advances time session)
    (second : ({ s with session } : Scene).Advances time' session') : s.Advances time' session' := by
  obtain ⟨as, unprompted, ran, -, punctual⟩ := first
  obtain ⟨bs, unprompted', ran', clock, punctual'⟩ := second
  refine ⟨as ++ bs, fun a member => ?_, ?_, clock, fun t nanos does => ?_⟩
  · exact (List.mem_append.mp member).elim (unprompted a) (unprompted' a)
  · rw [runAppend, ran]
    exact ran'
  · exact (does.split ran).elim (punctual t nanos) (punctual' t nanos)

theorem advancesTo (stuck : ∀ t, s.session.take? t = none) {time : Nat} (later : s.session.clock ≤ time)
    (within : ∀ first, s.session.nextTimer? = some first → time ≤ first) :
    s.Advances time { s.session with clock := time } := by
  have there := Nat.add_sub_of_le later
  refine ⟨[.pass (time - s.session.clock)], by simp [Action.nanos?], by simp [run?, act?, there], rfl, ?_⟩
  intro t nanos does h
  obtain ⟨same, here⟩ := does.only
  cases same
  rw [here]
  have settled := Session.settledIff.mpr stuck
  have within : ∀ first, s.session.nextTimer? = some first → s.session.clock + (time - s.session.clock) ≤ first :=
    there.symm ▸ within
  exact ⟨Session.settledPasses settled within h, Session.settledHeeds settled within h⟩

theorem Advances.fit {session : Session} {time : Nat} (fit : s.Fit) (advances : s.Advances time session) :
    ({ s with session } : Scene).Fit := by
  obtain ⟨as, -, ran, -⟩ := advances
  exact fit.run ran

theorem laterTimer {s : Session} {time : Nat} (next : s.nextTimer? = some time) : s.clock < time := by
  have member := List.min?_mem next
  exact of_decide_eq_true (List.mem_filter.mp member).2

theorem advancesWith (fit : s.Fit) {target fuel : Nat} (ahead : s.session.clock ≤ target)
    (enough : target - s.session.clock < fuel) : s.Advances target (s.session.advanceWith target fuel) := by
  induction fuel generalizing s with
  | zero => contradiction
  | succ fuel ih =>
    have rests := restsSettled fit
    have clock := rests.advances.clock
    have onwards : ∀ {time}, s.session.settle.clock ≤ time →
        (∀ first, s.session.settle.nextTimer? = some first → time ≤ first) →
        s.Advances time { s.session.settle with clock := time } :=
      fun later within => rests.advances.trans (advancesTo rests.stuck later within)
    -- what is left when no timer comes before the target
    have straight : (∀ first, s.session.settle.nextTimer? = some first → target ≤ first) →
        s.Advances target { s.session.settle with clock := max s.session.settle.clock target } := by
      rw [clock, Nat.max_eq_right ahead]
      exact onwards (clock.trans_le ahead)
    simp only [Session.advanceWith]
    split
    · rename_i time next
      split
      · rename_i inTime
        have later := laterTimer next
        have reached := onwards later.le fun first found => (Option.some.inj (next.symm.trans found)).le
        exact reached.trans (ih (reached.fit fit) inTime (by dsimp only; omega))
      · rename_i beyond
        refine straight fun first found => ?_
        cases next.symm.trans found
        exact Nat.le_of_not_le beyond
    · rename_i idle
      exact straight fun first found => absurd (idle.symm.trans found) (by simp)

theorem advances (fit : s.Fit) (nanos : Nat) :
    s.Advances (s.session.clock + nanos) (s.session.advance nanos) ∧
      ∀ t, (s.session.advance nanos).take? t = none := by
  have reached : s.Advances _ (s.session.advanceWith (s.session.clock + nanos) (nanos + 1)) :=
    advancesWith fit (Nat.le_add_right _ nanos) (by omega)
  have rests := restsSettled (reached.fit fit)
  exact ⟨reached.clock ▸ reached.trans rests.advances, rests.stuck⟩

end Advance

/-- The loops come to rest. From any scene that may arise, a sequence of turns is no longer than the work that the
session has, whatever the order of the turns, so no order goes on for ever; and settling takes turns until nobody has
one. Up to any time there are only so many turns, among them all that are due to a timer, as long as nobody calls
anything and nothing comes in, however the outgoing sides behave meanwhile and whenever a close call that is half done
goes on. A clock that is moved on by any time gets there, timer by timer, and then again nobody has a turn; it is
moved on while nobody has one, and past no timer. -/
theorem loopsComeToRest (arises : Arises s) :
    (∀ (ts : List Session.Turn) s', s.run? (ts.map .turn) = some s' → ts.length + s'.session.work ≤ s.session.work) ∧
    (∀ order : Nat → Session.Turn, ∃ n, s.run? (((List.range n).map order).map .turn) = none) ∧
    s.RestsIn s.session.settle ∧
    (∀ n s', s.Undisturbed n s' → n ≤ s.session.workUntil s'.session.clock + s.closing.length) ∧
    ∀ nanos, s.Advances (s.session.clock + nanos) (s.session.advance nanos) ∧
      ∀ t, (s.session.advance nanos).take? t = none := by
  have fit := arisesFit arises
  refine ⟨fun ts s' => turnsWork fit, fun order => ?_, restsSettled fit, fun n s' => turnsUntil fit, advances fit⟩
  refine ⟨s.session.work + 1, Option.eq_none_iff_forall_ne_some.mpr fun s' ran => ?_⟩
  have bound := turnsWork fit ran
  rw [List.length_map, List.length_range] at bound
  omega

theorem arisesRun {c : HubConfig} (valid : c.fault? = none) (ran : (opening c).run? as = some s) : Arises s := by
  have accepted : Hub.ofConfig c = .ok { config := c } := by
    simp only [Hub.ofConfig, HubConfig.checked, valid]
    rfl
  exact (Arises.start accepted).run ran

/- Three clients with something to do for each other: one relays and is about to leave, one sends back what it gets
while its outgoing side is stuck and it is being closed, and one closes itself at the first frame. -/
def threeBusyClients : List Action := [
  .build { id := "a", user := "u", tenant := "t", onMessage := some .relay },
  .build { id := "b", user := "v", tenant := "t", onMessage := some .echo },
  .build { id := "c", user := "w", tenant := "t", onMessage := some .close },
  .run, .register 0, .register 1, .register 2, .takeQueue 0, .markStarted 0, .attach 0 .ok, .takeQueue 1,
  .markStarted 1, .attach 1 .stall, .takeQueue 2, .markStarted 2, .attach 2 .ok, .send 1 [1], .receive 0 (.text [2]),
  .receive 1 (.binary [3]), .receive 2 (.text [4]), .receive 0 .finish, .beginClose 1, .pass 54000000000]

theorem busyClientsComeToRest : ∃ s, (opening {}).run? threeBusyClients = some s ∧ s.session.settled = false ∧
    (∀ (ts : List Session.Turn) s', s.run? (ts.map .turn) = some s' → ts.length ≤ 91) ∧
    (∀ t, s.session.settle.take? t = none) ∧
    (∀ n s', s.Undisturbed n s' → s'.session.clock = 114000000000 → n ≤ 101) ∧
    (s.session.advance 60000000000).clock = 114000000000 ∧
    ∀ t, (s.session.advance 60000000000).take? t = none := by
  have shown : ((opening {}).run? threeBusyClients).map (fun s => (s.session.settled, s.session.work,
      s.session.workUntil 114000000000 + s.closing.length, s.session.clock)) = some (false, 91, 101, 54000000000) := by
    decide +kernel
  obtain ⟨s, ran, shown⟩ := Option.map_eq_some_iff.mp shown
  simp only [Prod.mk.injEq] at shown
  obtain ⟨busy, work, inAll, clock⟩ := shown
  obtain ⟨turns, -, rests, bounded, advances⟩ := loopsComeToRest (arisesRun (by decide) ran)
  obtain ⟨advances, stuck⟩ := advances 60000000000
  refine ⟨s, ran, busy, fun ts s' ran' => ?_, rests.stuck, fun n s' run time => ?_, ?_, stuck⟩
  · exact (Nat.le_add_right _ _).trans ((turns ts s' ran').trans_eq work)
  · have turns := bounded n s' run
    rwa [time, inAll] at turns
  · rw [advances.clock, clock]

end Scene
end RelayHub
