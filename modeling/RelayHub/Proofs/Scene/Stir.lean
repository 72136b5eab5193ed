import RelayHub.Proofs.Hub.Flushing
import RelayHub.Proofs.Hub.Queues
import RelayHub.Proofs.Hub.Running
import RelayHub.Proofs.Scene.Quiescence

/-! What each action does to the event loop and to what waits for it, and what therefore holds all along a
run: who has the events, which flushes are answered, and that a client once passed for registration is
registered, waits for it, or is closed. -/
namespace RelayHub
open Hub (Quiet LoopStep Flushing Answering Manned)

def Action.isShutdown : Action → Bool
  | .shutdown => true
  | _ => false

def Action.isFlush : Action → Bool
  | .flush => true
  | _ => false

def Action.isRun : Action → Bool
  | .run => true
  | _ => false

structure Action.Plain (a : Action) : Prop where
  shutdown : a.isShutdown = false
  flush : a.isFlush = false
  run : a.isRun = false
  loop : a ≠ .turn .loop

def flushesBefore : List Action → Nat
  | [] => 0
  | a :: rest => if a.isShutdown then 0 else (if a.isFlush then 1 else 0) + flushesBefore rest

theorem flushesBeforeSnoc (as : List Action) (a : Action) : flushesBefore (as ++ [a]) =
    if as.any Action.isShutdown then flushesBefore as
    else flushesBefore as + if a.isFlush && !a.isShutdown then 1 else 0 := by
  induction as with
  | nil => cases shuts : a.isShutdown <;> simp [flushesBefore, shuts]
  | cons b rest ih =>
    cases shuts : b.isShutdown with
    | true => simp [flushesBefore, shuts]
    | false =>
      simp only [List.cons_append, flushesBefore, shuts, ih, List.any_cons, Bool.false_or,
        Bool.false_eq_true, if_false]
      cases rest.any Action.isShutdown with
      | true => rfl
      | false => exact (Nat.add_assoc _ _ _).symm

inductive Hub.Stir (hub : Hub) : Action → Hub → Prop where
  | quiet {a : Action} {hub' : Hub} (plain : a.Plain) (quiet : Quiet hub hub')
      (held : ∀ k, hub'.isOpen k = true → hub.Held k → hub'.Held k)
      (asked : ∀ h, a = .register h → h < hub.clients.length ∧
        (hub'.isOpen h = true → .register h ∈ hub'.events)) : Stir hub a hub'
  | build (p : Profile) : Stir hub (.build p) (hub.build p.client).2
  | flush (accepting : hub.accepting = true) : Stir hub .flush
      { hub.submit (.flush hub.flushes.length) with flushes := hub.flushes ++ [.pending] }
  | lateFlush (refusing : hub.accepting = false) :
      Stir hub .flush { hub with flushes := hub.flushes ++ [.closed] }
  | shutdown (accepting : hub.accepting = true) : Stir hub .shutdown (hub.submit .shutdown)
  | lateShutdown (refusing : hub.accepting = false) : Stir hub .shutdown hub
  | run : Stir hub .run hub.run
  | begin {i : Nat} (waits : hub.waitingRun? = some i) (idle : hub.loop = .idle) (entry : Log.Entry) :
      Stir hub (.turn .run) ({ hub with loop := .serving, runs := hub.runs.set i .active }.write entry)
  | turnAway {i : Nat} (waits : hub.waitingRun? = some i) (begun : hub.loop ≠ .idle) :
      Stir hub (.turn .run) { hub with runs := hub.runs.set i (.returned (.error .alreadyRunning)) }
  | loop {hub' : Hub} (step : LoopStep hub hub') : Stir hub (.turn .loop) hub'

namespace Hub.Stir
variable {hub hub' : Hub}

theorem ofFlush (hub : Hub) : hub.Stir .flush hub.flush.2 := by
  unfold Hub.flush
  split
  · exact .flush (by assumption)
  · rename_i refusing
    exact .lateFlush (by simpa using refusing)

theorem ofShutdown (hub : Hub) : hub.Stir .shutdown hub.shutdown := by
  unfold Hub.shutdown
  split
  · exact .shutdown (by assumption)
  · rename_i refusing
    exact .lateShutdown (by simpa using refusing)

theorem ofBegun (began : hub.beginRun? = some hub') : hub.Stir (.turn .run) hub' := by
  cases Hub.begun began with
  | first waits idle entry => exact .begin waits idle entry
  | another waits begun => exact .turnAway waits begun

end Hub.Stir

namespace Scene

theorem registerAsks {hub : Hub} {h : Handle} (isOpen : (hub.register h).isOpen h = true) :
    .register h ∈ (hub.register h).events := by
  unfold Hub.register at isOpen ⊢
  split at isOpen
  · rename_i accepting
    simp [accepting, Hub.submit]
  · simp [Hub.closeOpen] at isOpen

theorem callPlain {a : Action} (call : a.isCall = true ∨ a.isWrite = true) :
    a.Plain ∧ ∀ h, a ≠ .register h := by
  cases a with
  | register _ | flush | shutdown | run => simp [Action.isCall, Action.isWrite] at call
  | turn t =>
    refine ⟨⟨rfl, rfl, rfl, ?_⟩, by simp⟩
    rintro ⟨⟩
    simp [Action.isCall, Action.isWrite] at call
  | _ => exact ⟨⟨rfl, rfl, rfl, by simp⟩, by simp⟩

theorem stir {s s' : Scene} {a : Action} (effect : Effect s a s') : s.hub.Stir a s'.hub := by
  have unasked : ∀ {a : Action} {hub' : Hub}, (∀ h, a ≠ .register h) → ∀ h, a = .register h →
      h < s.hub.clients.length ∧ (hub'.isOpen h = true → .register h ∈ hub'.events) :=
    fun other h here => absurd here (other h)
  have same : ∀ {a : Action} {hub' : Hub},
      a.Plain → (∀ h, a ≠ .register h) → hub'.outline = s.hub.outline → s.hub.Stir a hub' :=
    fun plain other same => .quiet plain (.same same)
      (fun _ _ held => held.same (Hub.sameRegistry same)) (unasked other)
  cases effect with
  | build p => exact .build p
  | register h known =>
    refine .quiet ⟨rfl, rfl, rfl, by simp⟩ (Hub.Noticed.register s.hub h).toQuiet (fun _ _ held => held.register h) ?_
    rintro _ ⟨⟩
    exact ⟨by simpa [has] using known, registerAsks⟩
  | beginClose h _ =>
    exact .quiet ⟨rfl, rfl, rfl, by simp⟩ (.beginClose s.hub h) (fun _ _ held => held.same rfl)
      (unasked (by simp))
  | finishClose h _ =>
    have registry := congrArg Outline.registry (Hub.finishCloseOutline s.hub h)
    exact .quiet ⟨rfl, rfl, rfl, by simp⟩ (.finishClose s.hub h) (fun _ _ held => held.same registry)
      (unasked (by simp))
  | takeQueue h _ => exact same ⟨rfl, rfl, rfl, by simp⟩ (by simp) (takeQueueOutline s h)
  | markStarted h _ => exact same ⟨rfl, rfl, rfl, by simp⟩ (by simp) (Hub.outlineUpdate fun _ _ => rfl)
  | attach h sink _ => exact same ⟨rfl, rfl, rfl, by simp⟩ (by simp) rfl
  | setMetadata h key value _ =>
    exact same ⟨rfl, rfl, rfl, by simp⟩ (by simp) (Hub.outlineUpdate fun _ _ => rfl)
  | flush => exact .ofFlush s.hub
  | shutdown => exact .ofShutdown s.hub
  | run => exact .run
  | setSink h mode => exact same ⟨rfl, rfl, rfl, by simp⟩ (by simp) rfl
  | pass nanos => exact same ⟨rfl, rfl, rfl, by simp⟩ (by simp) rfl
  | begin began => exact .ofBegun began
  | loop stepped => exact .loop (Hub.loopSteps stepped)
  | @write _ h _ _ turn _ step =>
    obtain ⟨plain, other⟩ := callPlain (.inr turn)
    rcases Session.writeOutline step with unchanged | closed
    · exact same plain other unchanged
    · refine .quiet plain ((Hub.Noticed.close s.hub h).toQuiet.trans (.same closed)) (fun _ _ held => ?_)
        (unasked other)
      exact held.same ((Hub.sameRegistry closed).trans (Hub.closeRegistry s.hub h))
  | call calls aside =>
    obtain ⟨plain, other⟩ := callPlain (.inl calls)
    exact .quiet plain (Hub.Noticed.calls aside.hub).toQuiet (fun _ isOpen held => held.calls aside.hub isOpen)
      (unasked other)

structure Settles (as : List Action) (hub : Hub) : Prop where
  manned : Manned hub
  emptied : hub.loop = .stopped → hub.events = []
  answering : Answering (as.any Action.isShutdown) (flushesBefore as) hub
  issued : hub.flushes.length = as.countP Action.isFlush
  called : hub.runs.length = as.countP Action.isRun
  asked : ∀ h, .register h ∈ as → h < hub.clients.length ∧ hub.Asked h

namespace Settles
variable {as : List Action} {a : Action} {hub hub' : Hub}

theorem start (c : HubConfig) : Settles [] (opening c).hub where
  manned := .idle rfl (by simp [opening, Scene.hub])
  emptied _ := rfl
  answering := ⟨[], [], .start rfl rfl rfl⟩
  issued := rfl
  called := rfl
  asked h member := by simp at member

theorem mannedStep (before : Manned hub) (stir : hub.Stir a hub') : Manned hub' := by
  cases stir with
  | quiet _ quiet => exact before.quiet quiet
  | lateShutdown => exact before
  | build | flush | lateFlush | shutdown => exact before.same rfl rfl
  | run => exact before.run
  | begin waits idle entry => exact before.begin waits idle entry
  | turnAway waits begun => exact before.turnAway waits begun
  | loop step => exact before.loopStep step

theorem stoppedStep (before : hub.loop = .stopped) (stir : hub.Stir a hub') :
    hub'.loop = .stopped ∧ hub'.events = hub.events := by
  have refusing : hub.accepting = false := by simp [Hub.accepting, before]
  cases stir with
  | quiet _ quiet =>
    obtain ⟨more, events, -, none⟩ := quiet.events
    rw [none refusing, List.append_nil] at events
    exact ⟨quiet.loop.trans before, events⟩
  | build | lateFlush | lateShutdown | run | turnAway => exact ⟨before, rfl⟩
  | flush accepting | shutdown accepting => exact absurd (refusing.symm.trans accepting) (by simp)
  | begin _ idle => exact absurd (before.symm.trans idle) (by simp)
  | loop step =>
    cases step with
    | applied serving | drains serving | discarded serving | stopped serving => simp [before] at serving

theorem emptiedStep (before : hub.loop = .stopped → hub.events = []) (stir : hub.Stir a hub')
    (stopped : hub'.loop = .stopped) : hub'.events = [] := by
  by_cases already : hub.loop = .stopped
  · exact (stoppedStep already stir).2.trans (before already)
  · cases stir with
    | quiet _ quiet => exact absurd (quiet.loop.symm.trans stopped) already
    | build | flush | lateFlush | shutdown | lateShutdown | run | turnAway => exact absurd stopped already
    | begin => contradiction
    | loop step => exact Hub.loopStops step stopped

theorem plainStep (after : Answering (as.any Action.isShutdown) (flushesBefore as) hub')
    (plain : a.isShutdown = false ∧ a.isFlush = false) :
    Answering ((as ++ [a]).any Action.isShutdown) (flushesBefore (as ++ [a])) hub' := by
  have called : (as ++ [a]).any Action.isShutdown = as.any Action.isShutdown := by simp [plain.1]
  have issued : flushesBefore (as ++ [a]) = flushesBefore as := by simp [flushesBeforeSnoc, plain.2]
  rwa [called, issued]

theorem answeringStep (before : Answering (as.any Action.isShutdown) (flushesBefore as) hub)
    (stir : hub.Stir a hub') :
    Answering ((as ++ [a]).any Action.isShutdown) (flushesBefore (as ++ [a])) hub' := by
  obtain ⟨ahead, behind, f⟩ := before
  have shuts : (as ++ [Action.shutdown]).any Action.isShutdown = true := by simp [Action.isShutdown]
  have bound : flushesBefore (as ++ [Action.shutdown]) = flushesBefore as := by
    simp [flushesBeforeSnoc, Action.isFlush]
  have any : (as ++ [Action.flush]).any Action.isShutdown = as.any Action.isShutdown := by
    simp [Action.isShutdown]
  cases stir with
  | quiet plain quiet => exact plainStep (f.quiet quiet) ⟨plain.shutdown, plain.flush⟩
  | build | run | turnAway => exact plainStep ⟨ahead, behind, f.same rfl rfl rfl⟩ ⟨rfl, rfl⟩
  | flush =>
    rw [any, flushesBeforeSnoc]
    cases called : as.any Action.isShutdown with
    | true =>
      rw [called] at f
      exact f.flushBehind
    | false =>
      rw [called] at f
      exact f.flushAhead
  | lateFlush refusing =>
    have called := f.calledRefusing refusing
    rw [called] at f
    rw [any, flushesBeforeSnoc, called]
    exact ⟨ahead, behind, f.flushRefused⟩
  | shutdown =>
    rw [shuts, bound]
    exact f.shutdown
  | lateShutdown refusing =>
    rw [shuts, bound]
    exact ⟨ahead, behind, f.calledRefusing refusing ▸ f⟩
  | begin waits idle entry =>
    have serves : LoopState.ended .serving = hub.loop.ended := by rw [idle]; rfl
    exact plainStep ⟨ahead, behind, f.same rfl serves rfl⟩ ⟨rfl, rfl⟩
  | loop step => exact plainStep (f.loopStep step) ⟨rfl, rfl⟩

theorem countStep {kind : Action → Bool} {n n' : Nat} (before : n = as.countP kind)
    (raised : n' = if kind a then n + 1 else n) : n' = (as ++ [a]).countP kind := by
  rw [raised, before, List.countP_append, List.countP_singleton]
  split
  · rfl
  · rfl

theorem issuedStep (stir : hub.Stir a hub') :
    hub'.flushes.length = if a.isFlush then hub.flushes.length + 1 else hub.flushes.length := by
  cases stir with
  | quiet plain quiet => simp [plain.flush, quiet.flushes]
  | flush | lateFlush => simp [Action.isFlush]
  | build | shutdown | lateShutdown | run | begin | turnAway => rfl
  | loop step => exact (Hub.loopLengths step).1

theorem calledStep (stir : hub.Stir a hub') :
    hub'.runs.length = if a.isRun then hub.runs.length + 1 else hub.runs.length := by
  cases stir with
  | quiet plain quiet => simp [plain.run, quiet.runs]
  | build | flush | lateFlush | shutdown | lateShutdown => rfl
  | run => simp [Action.isRun, Hub.run]
  | begin | turnAway => exact List.length_set
  | loop step => exact (Hub.loopLengths step).2

theorem askedStep {h : Handle} (before : hub.Asked h) (known : h < hub.clients.length)
    (stir : hub.Stir a hub') : hub'.Asked h := by
  cases stir with
  | quiet _ quiet held _ => exact before.quiet quiet (held h)
  | build p =>
    intro isOpen
    have same : (hub.build p.client).2.client? h = hub.client? h := List.getElem?_append_left known
    rw [Hub.isOpen, same] at isOpen
    exact before isOpen
  | flush | shutdown => exact before.same rfl rfl rfl
  | lateFlush => exact before.same rfl rfl (List.append_nil _).symm
  | lateShutdown | run | begin | turnAway => exact before
  | loop step => exact before.loopStep step

theorem knownStep {h : Handle} (known : h < hub.clients.length) (stir : hub.Stir a hub') :
    h < hub'.clients.length := by
  cases stir with
  | quiet _ quiet => exact quiet.length ▸ known
  | build p =>
    have grown : (hub.build p.client).2.clients.length = hub.clients.length + 1 := by simp [Hub.build]
    exact grown ▸ Nat.lt_succ_of_lt known
  | flush | lateFlush | shutdown | lateShutdown | run | begin | turnAway => exact known
  | loop step => exact (Hub.Dealt.loopStep step).length ▸ known

theorem step (before : Settles as hub) (stir : hub.Stir a hub') : Settles (as ++ [a]) hub' where
  manned := mannedStep before.manned stir
  emptied := emptiedStep before.emptied stir
  answering := answeringStep before.answering stir
  issued := countStep before.issued (issuedStep stir)
  called := countStep before.called (calledStep stir)
  asked h member := by
    rcases List.mem_append.mp member with earlier | here
    · obtain ⟨known, asked⟩ := before.asked h earlier
      exact ⟨knownStep known stir, askedStep asked known stir⟩
    · have here := List.mem_singleton.mp here
      subst here
      cases stir with
      | quiet _ quiet _ fresh =>
        obtain ⟨known, waits⟩ := fresh h rfl
        exact ⟨quiet.length ▸ known, fun isOpen => .inl (waits isOpen)⟩

theorem run {c : HubConfig} {s : Scene} (ran : (opening c).run? as = some s) : Settles as s.hub :=
  runHistory (P := fun as s => Settles as s.hub) (start c)
    (fun _ _ _ _ before acted => before.step (stir (effect acted))) ran

end Settles

theorem knownAlong {P : Hub → Prop} {s s' : Scene} {as : List Action} {h : Handle} (known : h < s.hub.clients.length)
    (start : P s.hub) (step : ∀ hub a hub', hub.Stir a hub' → h < hub.clients.length → P hub → P hub')
    (ran : s.run? as = some s') : h < s'.hub.clients.length ∧ P s'.hub := by
  refine runInduction (P := fun t => h < t.hub.clients.length ∧ P t.hub) ⟨known, start⟩ ?_ ran
  rintro t a t' - ⟨inside, before⟩ acted
  have stir := stir (effect acted)
  exact ⟨Settles.knownStep inside stir, step _ a _ stir inside before⟩

end Scene
end RelayHub
