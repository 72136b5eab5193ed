import RelayHub.Proofs.Hub.Gathering
import RelayHub.Proofs.Scene.Registration

/-! No registration is lost behind a flush: once a flush is answered, every client that was passed for
registration before it is registered for as long as it is open. -/
namespace RelayHub
open Hub (Quiet LoopStep Accounted Assured Covered Gathering)

def Action.isLoop : Action → Bool
  | .turn .loop => true
  | _ => false

namespace Hub

def Numbered (hub : Hub) : Prop := ∀ t, .flush t ∈ hub.events → t < hub.flushes.length

namespace Numbered
variable {hub hub' : Hub}

theorem quiet (numbered : Numbered hub) (quiet : Quiet hub hub') : Numbered hub' := by
  intro t member
  obtain ⟨more, events, notices, -⟩ := quiet.events
  rw [events] at member
  rw [quiet.flushes]
  rcases List.mem_append.mp member with before | fresh
  · exact numbered t before
  · exact absurd (notices _ fresh) (by simp [Event.isNotice])

theorem loopStep (numbered : Numbered hub) (step : LoopStep hub hub') : Numbered hub' := by
  obtain ⟨events, flushes, loop, runs, left, same, quieter⟩ := loopQuiet step
  have popped : Numbered { hub with events, flushes, loop, runs } := by
    intro t member
    exact same ▸ numbered t (left.subset member)
  exact popped.quiet quieter

theorem issue (numbered : Numbered hub) (s : FlushState) :
    Numbered { hub.submit (.flush hub.flushes.length) with flushes := hub.flushes ++ [s] } := by
  intro t member
  simp only [List.length_append, List.length_singleton]
  rcases List.mem_append.mp member with before | here
  · exact Nat.lt_succ_of_lt (numbered t before)
  · cases List.mem_singleton.mp here
    exact Nat.lt_succ_self _

end Numbered

namespace Stir
variable {hub hub' : Hub} {a : Action} {h : Handle} {ticket : Nat}

theorem numbered (stir : hub.Stir a hub') (before : Numbered hub) : Numbered hub' := by
  cases stir with
  | quiet _ quiet => exact before.quiet quiet
  | build | lateShutdown | run | begin | turnAway => exact before
  | flush => exact before.issue .pending
  | lateFlush =>
    intro t member
    simpa using Nat.lt_succ_of_lt (before t member)
  | shutdown =>
    intro t member
    exact before t (by simpa [submit] using member)
  | loop step => exact before.loopStep step

theorem wasOpen (stir : hub.Stir a hub') (known : h < hub.clients.length) (isOpen : hub'.isOpen h = true) :
    hub.isOpen h = true := by
  cases before : hub.isOpen h with
  | true => rfl
  | false => exact absurd ((stir.shuts known before).symm.trans isOpen) (by simp)

theorem covered (stir : hub.Stir a hub') (known : h < hub.clients.length)
    (before : Covered h ticket hub) : Covered h ticket hub' := by
  have issued : ∀ s : FlushState, s ≠ .done → hub.flushes[ticket]? ≠ some .done →
      (hub.flushes ++ [s])[ticket]? ≠ some .done := by
    intro s other unanswered
    rw [List.getElem?_append]
    split
    · exact unanswered
    · intro answered
      exact other (List.mem_singleton.mp (List.mem_of_getElem? answered)).symm
  intro isOpen
  rcases before (stir.wasOpen known isOpen) with held | ⟨unanswered, waits⟩
  · exact .inl (stir.keeps held isOpen)
  · cases stir with
    | quiet _ quiet =>
      obtain ⟨more, events, -⟩ := quiet.events
      refine .inr ⟨quiet.flushes ▸ unanswered, ?_⟩
      rw [quiet.loop]
      exact waits.imp_right (Hub.aheadMore events)
    | build | lateShutdown | run | turnAway => exact .inr ⟨unanswered, waits⟩
    | flush => exact .inr ⟨issued .pending (by simp) unanswered, waits.imp_right (Hub.aheadMore rfl)⟩
    | lateFlush => exact .inr ⟨issued .closed (by simp) unanswered, waits⟩
    | shutdown => exact .inr ⟨unanswered, waits.imp_right (Hub.aheadMore rfl)⟩
    | begin _ idle =>
      refine .inr ⟨unanswered, .inr (waits.resolve_left ?_)⟩
      simp [idle, LoopState.ended]
    | loop step => exact before.loopStep step isOpen

end Stir
end Hub

namespace Scene

theorem numbered {c : HubConfig} {s : Scene} {as : List Action} (ran : (opening c).run? as = some s) :
    s.hub.Numbered := by
  refine runInduction (P := fun s => s.hub.Numbered) ?_ ?_ ran
  · intro t member
    simp [opening, Scene.hub] at member
  · exact fun _ _ _ _ before acted => (stir (effect acted)).numbered before

theorem knownRun {h : Handle} {s s' : Scene} {as : List Action} (known : h < s.hub.clients.length)
    (ran : s.run? as = some s') : h < s'.hub.clients.length :=
  runInduction (P := fun s => h < s.hub.clients.length) known
    (fun _ _ _ _ before acted => Settles.knownStep before (stir (effect acted))) ran

theorem coveredRun {h : Handle} {ticket : Nat} {s s' : Scene} {as : List Action}
    (known : h < s.hub.clients.length) (covered : Covered h ticket s.hub) (ran : s.run? as = some s') :
    Covered h ticket s'.hub :=
  (knownAlong known covered (fun _ _ _ stir => stir.covered) ran).2

theorem heldRun {h : Handle} {s s' : Scene} {as : List Action} (known : h < s.hub.clients.length)
    (held : s.hub.isOpen h = true → s.hub.Held h) (ran : s.run? as = some s') :
    s'.hub.isOpen h = true → s'.hub.Held h := by
  refine (knownAlong (P := fun hub => hub.isOpen h = true → hub.Held h) known held ?_ ran).2
  exact fun _ _ _ stir inside before isOpen => stir.keeps (before (stir.wasOpen inside isOpen)) isOpen

theorem heldBehindFlush {c : HubConfig} {h : Handle} {front later : List Action} {t s : Scene}
    (before : (opening c).run? front = some t) (asked : .register h ∈ front)
    (ran : t.run? (.flush :: later) = some s)
    (resolved : s.hub.flushResult? t.hub.flush.1 = some (.ok ())) :
    h < s.hub.clients.length ∧ (s.hub.isOpen h = true → s.hub.Held h) := by
  obtain ⟨known, waits⟩ := (Settles.run before).asked h asked
  obtain ⟨called, acted, ran⟩ := Option.bind_eq_some_iff.mp ran
  cases Option.some.inj acted
  have known' : h < (t.onHub fun hub => hub.flush.2).hub.clients.length :=
    Settles.knownStep known (stir .flush)
  have covered := coveredRun known' (Covered.atFlush waits (numbered before)) ran
  rw [Hub.flushTicket] at resolved
  exact ⟨knownRun known' ran, covered.answered resolved⟩

theorem loopServes {t : Scene} {e : Event} {rest : List Event} (serving : t.hub.loop = .serving)
    (next : t.hub.events = e :: rest) : ∃ t', t.act? (.turn .loop) = some t' ∧
      t'.hub = Hub.apply { t.hub with events := rest } e := by
  have stepped : t.hub.loopStep? = some (Hub.apply { t.hub with events := rest } e) := by
    simp [Hub.loopStep?, serving, next]
  refine ⟨{ t with session := { t.session with hub := Hub.apply { t.hub with events := rest } e } }, ?_, rfl⟩
  have taken : t.session.take? .loop =
      some { t.session with hub := Hub.apply { t.hub with events := rest } e } :=
    Option.map_eq_some_iff.mpr ⟨_, stepped, rfl⟩
  exact Option.map_eq_some_iff.mpr ⟨_, taken, rfl⟩

structure Gathers (base : Hub) (hs : List Handle) (s : Scene) : Prop where
  settling : s.Settling
  hub : Gathering base hs s.hub

namespace Gathers
variable {base : Hub} {hs : List Handle} {s s' : Scene}

theorem loop (g : Gathers base hs s) (distinct : (hs.map base.key?).Nodup)
    (acted : s.act? (.turn .loop) = some s') : Gathers base hs s' :=
  ⟨settlingStep g.settling (effect acted), g.hub.loopStep g.settling distinct (loopTurn acted)⟩

theorem registrations (g : Gathers base hs s) (distinct : (hs.map base.key?).Nodup) {as : List Action}
    (calls : as.filter (!·.isLoop) = hs.map .register) (ran : s.run? as = some s') : Gathers base hs s' := by
  refine runInduction (P := Gathers base hs) g (fun t a t' member before acted => ?_) ran
  cases turn : a.isLoop with
  | true =>
    have here : a = .turn .loop := by
      unfold Action.isLoop at turn
      split at turn
      · rfl
      · contradiction
    exact before.loop distinct (here ▸ acted)
  | false =>
    have called : a ∈ hs.map .register := calls ▸ List.mem_filter.mpr ⟨member, by simp [turn]⟩
    obtain ⟨h, listed, rfl⟩ := List.mem_map.mp called
    obtain ⟨-, rfl⟩ := onClientSome acted
    exact ⟨Accounted.register before.settling h, before.hub.register listed⟩

theorem flush (g : Gathers base hs s) : Gathers base hs (s.onHub fun hub => hub.flush.2) :=
  ⟨Accounted.flush g.settling, g.hub.flush⟩

theorem turns (g : Gathers base hs s) (distinct : (hs.map base.key?).Nodup) {n : Nat}
    (ran : s.run? (List.replicate n (.turn .loop)) = some s') : Gathers base hs s' := by
  refine runInduction (P := Gathers base hs) g (fun t a t' member before acted => ?_) ran
  cases List.eq_of_mem_replicate member
  exact before.loop distinct acted

theorem answers (g : Gathers base hs s) (distinct : (hs.map base.key?).Nodup) {ticket : Nat}
    (issued : ticket < s.hub.flushes.length) {ahead behind : List Event}
    (waits : s.hub.events = ahead ++ .flush ticket :: behind) :
    ∃ s', s.run? (List.replicate (ahead.length + 1) (.turn .loop)) = some s' ∧
      s'.hub.flushResult? ticket = some (.ok ()) := by
  induction ahead generalizing s behind with
  | nil =>
    obtain ⟨s', acted, after⟩ := loopServes g.hub.serving waits
    refine ⟨s', by simp [run?, acted], ?_⟩
    have done : s'.hub.flushes[ticket]? = some .done := by
      rw [after]
      simp [Hub.apply, Hub.settleFlush, issued]
    simp [Hub.flushResult?, done]
  | cons e ahead ih =>
    obtain ⟨next, acted, after⟩ := loopServes g.hub.serving waits
    obtain ⟨new, events⟩ := Hub.applyEvents { s.hub with events := ahead ++ .flush ticket :: behind } e
    have waits' : next.hub.events = ahead ++ .flush ticket :: (behind ++ new) :=
      after ▸ events.trans (List.append_assoc ahead _ new)
    have issued' : ticket < next.hub.flushes.length := by
      rw [after, Hub.applyFlushes, Event.answeredLength]
      exact issued
    obtain ⟨s', ran, answered⟩ := ih (g.loop distinct acted) issued' waits'
    refine ⟨s', ?_, answered⟩
    rw [List.length_cons, List.replicate_succ, run?, acted]
    exact ran

end Gathers

theorem gatheredBehindFlush {c : HubConfig} {past calls later : List Action} {s t s' : Scene} {hs : List Handle}
    (before : (opening c).run? past = some s) (called : calls.filter (!·.isLoop) = hs.map .register)
    (ran : s.run? calls = some t) (flushed : t.run? (.flush :: later) = some s')
    (resolved : s'.hub.flushResult? t.hub.flush.1 = some (.ok ())) (isOpen : ∀ h ∈ hs, s'.hub.isOpen h = true) :
    ∀ h ∈ hs, s'.hub.Held h := by
  intro h listed
  have front : (opening c).run? (past ++ calls) = some t := by
    rw [runAppend, before]
    exact ran
  have asked : .register h ∈ calls.filter (!·.isLoop) := called ▸ List.mem_map.mpr ⟨h, listed, rfl⟩
  have member := List.mem_append_right past (List.mem_filter.mp asked).1
  exact (heldBehindFlush front member flushed resolved).2 (isOpen h listed)

/-- Once a flush has been answered, every client that was passed for registration before it is registered for
as long as it is open, and after that no group takes it in. So registering any clients under different
keys and flushing leaves exactly them beside those who were registered under other keys. -/
theorem flushVouches (c : HubConfig) :
    (∀ front later more t s s' h, (opening c).run? front = some t → .register h ∈ front →
      t.run? (.flush :: later) = some s → s.hub.flushResult? t.hub.flush.1 = some (.ok ()) →
      s.run? more = some s' → ∃ x, Assured s'.hub h x) ∧
    (∀ past calls s t (hs : List Handle), (opening c).run? past = some s → s.hub.loop = .serving →
      s.hub.events = [] → (∀ h ∈ hs, s.hub.isOpen h = true) → (hs.map s.hub.key?).Nodup →
      calls.filter (!·.isLoop) = hs.map .register → s.run? calls = some t →
      (∃ n s', t.run? (.flush :: List.replicate n (.turn .loop)) = some s' ∧
        s'.hub.flushResult? t.hub.flush.1 = some (.ok ())) ∧
      ∀ n s', t.run? (.flush :: List.replicate n (.turn .loop)) = some s' →
        s'.hub.flushResult? t.hub.flush.1 = some (.ok ()) → s'.hub.registry.members.Perm
          (hs.filterMap s.hub.member? ++
            s.hub.registry.members.filter fun m => some (m.user, m.id) ∉ hs.map s.hub.key?)) := by
  refine ⟨fun front later more t s s' h before asked ran resolved on => ?_,
    fun past calls s t hs before serving none isOpen distinct called ran => ?_⟩
  · obtain ⟨known, held⟩ := heldBehindFlush before asked ran resolved
    have whole : (opening c).run? (front ++ .flush :: (later ++ more)) = some s' := by
      rw [runAppend, before, Option.bind_some, ← List.cons_append, runAppend, ran]
      exact on
    have settled : Accounted s'.closing s'.hub := settling (reachedRun whole)
    have there := List.getElem?_eq_getElem (knownRun known on)
    exact ⟨_, settled.assured there (heldRun known held on)⟩
  · have settled := settling (reachedRun before)
    -- all through the round the entries under other keys stay as they were
    have start : Gathers s.hub hs s := ⟨settled, .start serving isOpen none⟩
    have gathers := start.registrations distinct called ran
    have flushed := gathers.flush
    have accepting : t.hub.accepting = true := by simp [Hub.accepting, gathers.hub.serving]
    constructor
    · have after : (t.onHub fun hub => hub.flush.2).hub = { t.hub.submit (.flush t.hub.flushes.length) with
          flushes := t.hub.flushes ++ [.pending] } := Hub.flushAccepted accepting
      have waits : (t.onHub fun hub => hub.flush.2).hub.events =
          t.hub.events ++ .flush t.hub.flushes.length :: [] := congrArg Hub.events after
      have issued : t.hub.flushes.length < (t.onHub fun hub => hub.flush.2).hub.flushes.length := by
        simp [after]
      obtain ⟨s', ran', answered⟩ := flushed.answers distinct issued waits
      exact ⟨t.hub.events.length + 1, s', ran', (Hub.flushTicket t.hub).symm ▸ answered⟩
    · intro n s' after resolved
      obtain ⟨_, acted, turned⟩ := Option.bind_eq_some_iff.mp after
      cases Option.some.inj acted
      have gathered := flushed.turns distinct turned
      have held := gatheredBehindFlush before called ran after resolved gathered.hub.isOpen
      exact gathered.hub.gathered gathered.settling settled distinct held

def arrivals : List Action := [
  .build { id := "c", user := "u", tenant := "t" }, .build { id := "d", user := "u", tenant := "t" },
  .build { id := "c", user := "u", tenant := "t" }, .build { id := "c", user := "v", tenant := "t" },
  .run, .turn .run, .register 0, .register 1, .turn .loop, .turn .loop]

def newcomers : List Action := [.register 3, .turn .loop, .register 2]

theorem newcomersGathered : ∃ s t s', (opening {}).run? arrivals = some s ∧ s.run? newcomers = some t ∧
    t.run? [.flush, .turn .loop, .turn .loop] = some s' ∧
    (∃ x, Assured s'.hub 0 x ∧ x.isOpen = false) ∧ (∃ x, Assured s'.hub 2 x ∧ x.isOpen = true) ∧
    s'.hub.registry.members.Perm [⟨3, "v", "c", "t"⟩, ⟨2, "u", "c", "t"⟩, ⟨1, "u", "d", "t"⟩] := by
  have shown : ((opening {}).run? arrivals).bind (fun s => (s.run? newcomers).bind fun t =>
      (t.run? [.flush, .turn .loop, .turn .loop]).map fun s' =>
        (s.hub.loop, s.hub.events, s.hub.isOpen 3, s.hub.isOpen 2, s.hub.member? 3, s.hub.member? 2,
          s.hub.registry.members, s'.hub.flushResult? t.hub.flush.1, s'.hub.isOpen 0, s'.hub.isOpen 2)) =
      some (.serving, [], true, true, some ⟨3, "v", "c", "t"⟩, some ⟨2, "u", "c", "t"⟩,
        [⟨0, "u", "c", "t"⟩, ⟨1, "u", "d", "t"⟩], some (.ok ()), false, true) := by
    rfl
  obtain ⟨s, past, shown⟩ := Option.bind_eq_some_iff.mp shown
  obtain ⟨t, calls, shown⟩ := Option.bind_eq_some_iff.mp shown
  obtain ⟨s', flushed, shown⟩ := Option.map_eq_some_iff.mp shown
  simp only [Prod.mk.injEq] at shown
  obtain ⟨serving, none, open3, open2, known3, known2, listed, resolved, shut0, still2⟩ := shown
  have front : (opening {}).run? (arrivals ++ newcomers) = some t := by
    rw [runAppend, past]
    exact calls
  obtain ⟨vouches, gathers⟩ := flushVouches {}
  obtain ⟨x0, first⟩ := vouches _ _ [] t s' s' 0 front (by simp [arrivals]) flushed resolved rfl
  obtain ⟨x2, heir⟩ := vouches _ _ [] t s' s' 2 front (by simp [newcomers]) flushed resolved rfl
  have keys : [3, 2].map s.hub.key? = [some ("v", "c"), some ("u", "c")] := by
    simp [Hub.key?, known3, known2]
  have members := (gathers arrivals newcomers s t [3, 2] past serving none (by simp [open3, open2])
    (keys ▸ by decide) rfl calls).2 2 s' flushed resolved
  refine ⟨s, t, s', past, calls, flushed, ⟨x0, first, ?_⟩, ⟨x2, heir, ?_⟩, ?_⟩
  · simpa [Hub.isOpen, first.known] using shut0
  · simpa [Hub.isOpen, heir.known] using still2
  · rw [keys, listed] at members
    simpa [known3, known2] using members

end Scene
end RelayHub
