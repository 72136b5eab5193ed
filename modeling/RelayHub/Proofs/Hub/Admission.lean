import RelayHub.Proofs.Hub.Standing

/-! Who gets into an index, and who stays. A client gains an entry only while it is open; once it is shut
it is never open again; and a registered client that is still open is still registered. -/
namespace RelayHub

theorem Hub.loopQuiet {hub hub' : Hub} (step : LoopStep hub hub') : ∃ events flushes loop runs,
    events <:+ hub.events ∧ flushes.length = hub.flushes.length ∧
      Quiet { hub with events, flushes, loop, runs } hub' := by
  cases step with
  | @applied e rest serving next =>
    have taken : rest <:+ hub.events := next ▸ List.suffix_cons e rest
    cases e with
    | register h => exact ⟨rest, _, _, _, taken, rfl, (Noticed.applyRegister { hub with events := rest } h).toQuiet⟩
    | unregister h => exact ⟨rest, _, _, _, taken, rfl, (Noticed.applyUnregister { hub with events := rest } h).toQuiet⟩
    | flush ticket => exact ⟨rest, _, _, hub.runs, taken, List.length_set, .refl _⟩
    | shutdown =>
      have cleared := Noticed.clearAll { hub with events := rest }
      obtain ⟨more, events, notices, -⟩ := cleared.events
      exact ⟨rest, hub.flushes, .stopping, hub.runs, taken, rfl, cleared.length, rfl, cleared.flushes,
        cleared.runs, ⟨more, events, notices, by simp [accepting]⟩, cleared.isOpen⟩
  | drains => exact ⟨hub.events, hub.flushes, .draining, hub.runs, List.suffix_refl _, rfl, .refl _⟩
  | @discarded e rest draining next =>
    have taken : rest <:+ hub.events := next ▸ List.suffix_cons e rest
    cases e with
    | register h => exact ⟨rest, _, _, _, taken, rfl, (Noticed.close { hub with events := rest } h).toQuiet⟩
    | flush ticket => exact ⟨rest, _, _, hub.runs, taken, List.length_set, .refl _⟩
    | unregister _ | shutdown => exact ⟨rest, _, _, hub.runs, taken, rfl, .refl _⟩
  | stopped =>
    exact ⟨hub.events, hub.flushes, .stopped, hub.runs.map returnActive, List.suffix_refl _, rfl, .same rfl⟩

theorem Hub.loopShuts {hub hub' : Hub} (step : LoopStep hub hub') {k : Handle}
    (isOpen : hub'.isOpen k = true) : hub.isOpen k = true := by
  obtain ⟨_, _, _, _, -, -, quiet⟩ := Hub.loopQuiet step
  exact quiet.isOpen k isOpen

theorem Hub.Held.loopStep {hub hub' : Hub} {k : Handle} (held : hub.Held k) (step : LoopStep hub hub')
    (isOpen : hub'.isOpen k = true) : hub'.Held k := by
  cases step with
  | @applied e rest serving next =>
    have before : Held { hub with events := rest } k := held
    cases e with
    | register h => exact Held.applyRegister (.inr before) isOpen
    | unregister h => exact before.applyUnregister isOpen
    | flush ticket => exact held
    | shutdown => exact absurd (before.applyShutdown.symm.trans isOpen) (by simp)
  | drains | stopped => exact held
  | @discarded e rest draining next =>
    have before : Held { hub with events := rest } k := held
    cases e with
    | register h => exact before.same (closeRegistry _ h)
    | unregister _ | flush _ | shutdown => exact held

namespace Hub

theorem knownOpen {hub : Hub} {h : Handle} (isOpen : hub.isOpen h = true) : ∃ c, hub.client? h = some c ∧
    c.isOpen = true ∧ hub.member? h = some (c.member h) := by
  obtain ⟨c, found, open'⟩ := (Option.any_eq_true ..).mp isOpen
  exact ⟨c, found, open', by simp [member?, found]⟩

theorem handleOf {hub : Hub} {h : Handle} {m : Member} (known : hub.member? h = some m) : m.handle = h := by
  obtain ⟨c, -, rfl⟩ := Option.map_eq_some_iff.mp known
  rfl

theorem insertedRegistry {hub : Hub} {h : Handle} {m : Member} (known : hub.member? h = some m)
    (isOpen : hub.isOpen h = true) : (hub.applyRegister h).registry = (hub.registry.insert m).2 := by
  obtain ⟨c, found, open', own⟩ := knownOpen isOpen
  cases known.symm.trans own
  exact congrArg Outline.registry (registerOutline found open')

theorem passedRegistry {hub : Hub} {h : Handle} (shut : hub.isOpen h = false) :
    (hub.applyRegister h).registry = hub.registry := sameRegistry (registerShut shut)

theorem removedRegistry (hub : Hub) (h : Handle) : (hub.applyUnregister h).registry =
    match hub.member? h with
    | some m => (hub.registry.remove m).2
    | none => hub.registry := by
  cases found : hub.client? h with
  | none => simp [Hub.applyUnregister, member?, found]
  | some c =>
    have removed : (hub.applyUnregister h).registry = (hub.registry.remove (c.member h)).2 :=
      (congrArg Outline.registry (unregisterOutline found)).trans (closeRegistry _ h)
    simpa [member?, found] using removed

theorem clearedRegistry (hub : Hub) : hub.applyShutdown.registry = {} := closeAllRegistry _ _

theorem disconnectedRegistry (hub : Hub) (user : String) :
    (hub.disconnectUser user).2.registry = (hub.registry.removeUser user).2 := closeAllRegistry _ _

theorem registerRegistry (hub : Hub) (h : Handle) : (hub.register h).registry = hub.registry := by
  unfold register
  split
  · rfl
  · exact (closeRegistry _ h).trans (sameRegistry (outlineNote hub h _))

theorem flushRegistry (hub : Hub) : hub.flush.2.registry = hub.registry := by
  unfold flush
  split
  · rfl
  · rfl

theorem shutdownRegistry (hub : Hub) : hub.shutdown.registry = hub.registry := by
  unfold shutdown
  split
  · rfl
  · rfl

theorem joinAccepted {hub : Hub} {h : Handle} {c : Client} (known : hub.client? h = some c)
    (isOpen : c.isOpen = true) (held : hub.registry.contains (c.member h) = true) (group : String) :
    (hub.joinGroup group h).1 = true ∧ ∃ e, (hub.joinGroup group h).2 =
      { hub with registry := hub.registry.join group (c.member h) }.write e := by
  unfold joinGroup
  simp only [known, isOpen, held, Bool.not_true, Bool.or_self, Bool.false_eq_true, if_false]
  exact ⟨trivial, _, rfl⟩

theorem joinRefused {hub : Hub} {h : Handle} {c : Client} (known : hub.client? h = some c)
    (unfit : c.isOpen = false ∨ hub.registry.contains (c.member h) = false) (group : String) :
    (hub.joinGroup group h).1 = false ∧ ∃ e, (hub.joinGroup group h).2 = hub.write e := by
  have refused : (!c.isOpen || !hub.registry.contains (c.member h)) = true := by
    rcases unfit with shut | absent
    · simp [shut]
    · simp [absent]
  unfold joinGroup
  simp only [known, refused, if_true]
  exact ⟨trivial, _, rfl⟩

theorem joinCases {hub : Hub} {h : Handle} {c : Client} (known : hub.client? h = some c) (group : String) :
    (∃ e, hub.joinGroup group h =
      (true, { hub with registry := hub.registry.join group (c.member h) }.write e)) ∨
    ∃ e, hub.joinGroup group h = (false, hub.write e) := by
  by_cases fit : c.isOpen = true ∧ hub.registry.contains (c.member h) = true
  · obtain ⟨joined, e, after⟩ := joinAccepted known fit.1 fit.2 group
    exact .inl ⟨e, Prod.ext joined after⟩
  · have unfit : c.isOpen = false ∨ hub.registry.contains (c.member h) = false := by
      simpa [Classical.or_iff_not_imp_left] using fit
    obtain ⟨refused, e, after⟩ := joinRefused known unfit group
    exact .inr ⟨e, Prod.ext refused after⟩

structure Admits (hub hub' : Hub) : Prop where
  client : ∀ u i m, hub.isOpen m.handle = false → hub'.registry.client? u i = some m →
    hub.registry.client? u i = some m
  group : ∀ g u i m, hub.isOpen m.handle = false → hub'.registry.groupMember? g u i = some m →
    hub.registry.groupMember? g u i = some m

namespace Admits
variable {hub hub' hub'' : Hub}

theorem within (within : hub'.registry.Within hub.registry) : Admits hub hub' where
  client u i m _ held := within.client u i m held
  group g u i m _ held := within.group g u i m held

theorem same (registry : hub'.registry = hub.registry) : Admits hub hub' :=
  .within (registry ▸ hub'.registry.withinSelf)

theorem trans (first : Admits hub hub') (second : Admits hub' hub'')
    (shut : ∀ k, hub'.isOpen k = true → hub.isOpen k = true) : Admits hub hub'' := by
  have stays : ∀ k, hub.isOpen k = false → hub'.isOpen k = false := by
    intro k closed
    cases isOpen : hub'.isOpen k with
    | false => rfl
    | true => exact absurd (closed.symm.trans (shut k isOpen)) (by simp)
  exact {
    client := fun u i m closed held => first.client u i m closed (second.client u i m (stays _ closed) held)
    group := fun g u i m closed held =>
      first.group g u i m closed (second.group g u i m (stays _ closed) held) }

theorem calls {asked : List Handle} (calls : Calls asked hub hub') : Admits hub hub' := by
  induction calls with
  | refl | log | notice => exact .same rfl
  | send hub h m => exact .same (sameRegistry (outlineSend hub h m))
  | close hub h => exact .same (closeRegistry hub h)
  | join hub group m known isOpen held =>
    refine ⟨fun _ _ _ _ held => held, fun g u i x shut held => ?_⟩
    rw [Registry.joinGroupMember] at held
    split at held
    · cases held
      exact absurd (shut.symm.trans isOpen) (by simp)
    · exact held
  | leave hub group m known => exact .within (hub.registry.leaveWithin m group)
  | disconnect hub user =>
    exact .within (disconnectedRegistry hub user ▸ hub.registry.removeUserWithin user)
  | trans first _ ih ih' => exact ih.trans ih' (Noticed.calls first).isOpen

theorem applyRegister (hub : Hub) (h : Handle) : Admits hub (hub.applyRegister h) := by
  cases isOpen : hub.isOpen h with
  | false => exact .same (passedRegistry isOpen)
  | true =>
    obtain ⟨c, -, -, known⟩ := knownOpen isOpen
    have registry := insertedRegistry known isOpen
    refine ⟨fun u i m shut held => ?_, fun g u i m _ held => ?_⟩
    · rw [registry, Registry.insertClient] at held
      split at held
      · cases held
        exact absurd (shut.symm.trans isOpen) (by simp)
      · exact held
    · rw [registry] at held
      exact held

theorem applyUnregister (hub : Hub) (h : Handle) : Admits hub (hub.applyUnregister h) := by
  have registry := removedRegistry hub h
  cases known : hub.member? h with
  | none => exact .same (by simpa [known] using registry)
  | some m =>
    rw [known] at registry
    exact .within (registry ▸ hub.registry.removeWithin m)

theorem loopStep (step : LoopStep hub hub') : Admits hub hub' := by
  cases step with
  | @applied e rest serving next =>
    have popped : Admits hub { hub with events := rest } := .same rfl
    refine popped.trans ?_ fun _ isOpen => isOpen
    cases e with
    | register h => exact applyRegister _ h
    | unregister h => exact applyUnregister _ h
    | flush ticket => exact .same rfl
    | shutdown =>
      have registry := clearedRegistry { hub with events := rest }
      exact .within (registry ▸ Registry.emptyWithin hub.registry)
  | drains | stopped => exact .same rfl
  | @discarded e rest draining next =>
    cases e with
    | register h => exact .same (closeRegistry _ h)
    | unregister _ | flush _ | shutdown => exact .same rfl

end Admits
end Hub
end RelayHub
