import RelayHub.Proofs.Hub.Serving

/-! What stays as it is outside the event loop: the loop itself, the answers to flush and run calls, and
the events that wait. Notices join the end of the queue, clients only ever close, and an open client that
is registered stays so. -/
namespace RelayHub

def Event.isNotice : Event → Bool
  | .register _ | .unregister _ => true
  | .flush _ | .shutdown => false

namespace Hub

structure Quiet (hub hub' : Hub) : Prop where
  length : hub'.clients.length = hub.clients.length
  loop : hub'.loop = hub.loop
  flushes : hub'.flushes = hub.flushes
  runs : hub'.runs = hub.runs
  events : ∃ more, hub'.events = hub.events ++ more ∧ (∀ e ∈ more, e.isNotice = true) ∧
    (hub.accepting = false → more = [])
  isOpen : ∀ k, hub'.isOpen k = true → hub.isOpen k = true

theorem sameAccepting {hub hub' : Hub} (loop : hub'.loop = hub.loop) : hub'.accepting = hub.accepting := by
  simp [accepting, loop]

namespace Quiet
variable {hub hub' hub'' : Hub}

theorem same {r : Registry} (same : hub'.outline = { hub.outline with registry := r }) :
    Quiet hub hub' where
  length := by simpa [outline] using congrArg (fun o => o.faces.length) same
  loop := congrArg Outline.loop same
  flushes := congrArg Outline.flushes same
  runs := congrArg Outline.runs same
  events := by
    have events : hub'.events = hub.events := congrArg Outline.events same
    exact ⟨[], by rw [events, List.append_nil], by simp, fun _ => rfl⟩
  isOpen k isOpen := by
    rw [isOpenFace, same] at isOpen
    rwa [isOpenFace]

theorem refl (hub : Hub) : Quiet hub hub := .same rfl

theorem trans (first : Quiet hub hub') (second : Quiet hub' hub'') : Quiet hub hub'' where
  length := second.length.trans first.length
  loop := second.loop.trans first.loop
  flushes := second.flushes.trans first.flushes
  runs := second.runs.trans first.runs
  events := by
    obtain ⟨one, events, notices, refusing⟩ := first.events
    obtain ⟨two, events', notices', refusing'⟩ := second.events
    refine ⟨one ++ two, by rw [events', events, List.append_assoc], ?_, ?_⟩
    · intro e member
      rcases List.mem_append.mp member with early | late
      · exact notices e early
      · exact notices' e late
    · intro closed
      rw [refusing closed, refusing' ((sameAccepting first.loop).trans closed), List.append_nil]
  isOpen k isOpen := first.isOpen k (second.isOpen k isOpen)

theorem notices {es : List Event} (notices : ∀ e ∈ es, e.isNotice = true)
    (refusing : hub.accepting = false → es = []) : Quiet hub { hub with events := hub.events ++ es } where
  length := rfl
  loop := rfl
  flushes := rfl
  runs := rfl
  events := ⟨es, rfl, notices, refusing⟩
  isOpen _ isOpen := isOpen

theorem submit (accepting : hub.accepting = true) {e : Event} (notice : e.isNotice = true) :
    Quiet hub (hub.submit e) := by
  refine .notices ?_ fun refusing => ?_
  · intro e' member
    rw [List.mem_singleton.mp member]
    exact notice
  · simp [accepting] at refusing

theorem ofNotice (hub : Hub) (h : Handle) : Quiet hub { hub with events := hub.events ++ hub.notice h } := by
  refine .notices ?_ fun refusing => ?_
  · intro e member
    unfold notice at member
    split at member
    · rw [List.mem_singleton.mp member]
      rfl
    · contradiction
  · simp [notice, refusing]

theorem beginClose (hub : Hub) (h : Handle) : Quiet hub (hub.beginClose h).2 where
  length := by simp [Hub.beginClose, update]
  loop := rfl
  flushes := rfl
  runs := rfl
  events := ⟨[], by simp [Hub.beginClose, update], by simp, fun _ => rfl⟩
  isOpen k isOpen := by
    rw [beginCloseOpen] at isOpen
    exact (Bool.and_eq_true _ _ ▸ isOpen).1

theorem finishClose (hub : Hub) (h : Handle) : Quiet hub (hub.finishClose h) :=
  (ofNotice hub h).trans (.same (finishCloseOutline hub h))

end Quiet

def removals (hub : Hub) (k : Handle) : Nat := hub.events.count (.unregister k)

def isHeard (hub : Hub) : Bool := hub.reachable && hub.accepting

/- The notices that an end gives rise to, if there is one and the hub hears of it. -/
def partings (heard before after : Bool) : Nat := if heard && before && !after then 1 else 0

theorem partingsAdd {heard a b c : Bool} (first : b = true → a = true) (second : c = true → b = true) :
    partings heard a b + partings heard b c = partings heard a c := by
  cases a <;> cases b <;> cases c <;> simp_all [partings]

theorem partingsKept {heard a b : Bool} (kept : a = true → b = true) : partings heard a b = 0 := by
  cases a <;> simp_all [partings]

theorem partingsSame (heard a : Bool) : partings heard a a = 0 := partingsKept id

theorem noticeCount (hub : Hub) (h k : Handle) :
    (hub.notice h).count (.unregister k) = if k = h then partings hub.isHeard true false else 0 := by
  have told : hub.notice h = if hub.isHeard then [.unregister h] else [] := rfl
  rw [told]
  cases hub.isHeard with
  | false => simp [partings]
  | true =>
    by_cases here : k = h
    · simp [here, partings]
    · simp [here, Ne.symm here]

theorem closingCount (hub : Hub) (h k : Handle) :
    (hub.closing h).count (.unregister k) = if k = h then partings hub.isHeard (hub.isOpen h) false else 0 := by
  rw [closing]
  cases hub.isOpen h with
  | true => exact noticeCount hub h k
  | false => simp [partings]

/- Removals are asked for, or come from close calls that find their clients open. -/
structure Noticed (asked : List Handle) (hub hub' : Hub) : Prop extends Quiet hub hub' where
  owned : hub'.owned = hub.owned
  removals (k : Handle) :
    hub'.removals k = hub.removals k + asked.count k + partings hub.isHeard (hub.isOpen k) (hub'.isOpen k)

namespace Noticed
variable {hub hub' hub'' : Hub} {asked : List Handle}

theorem heard (noticed : Noticed asked hub hub') : hub'.isHeard = hub.isHeard := by
  simp [isHeard, reachable, accepting, noticed.owned, noticed.runs, noticed.flushes, noticed.loop]

theorem trans (first : Noticed asked hub hub') (second : Noticed [] hub' hub'') : Noticed asked hub hub'' where
  toQuiet := first.toQuiet.trans second.toQuiet
  owned := second.owned.trans first.owned
  removals k := by
    have parts := @partingsAdd hub.isHeard _ _ _ (first.isOpen k) (second.isOpen k)
    rw [second.removals, first.removals, first.heard, List.count_nil, ← parts]
    omega

theorem same {r : Registry} (same : hub'.outline = { hub.outline with registry := r }) : Noticed [] hub hub' where
  toQuiet := .same same
  owned := congrArg Outline.owned same
  removals k := by
    have events : hub'.events = hub.events := congrArg Outline.events same
    have isOpen : hub'.isOpen k = hub.isOpen k := by rw [isOpenFace, same, isOpenFace]
    rw [Hub.removals, events, isOpen, partingsSame]
    rfl

theorem refl (hub : Hub) : Noticed [] hub hub := .same rfl

theorem submit {e : Event} (accepting : hub.accepting = true) (notice : e.isNotice = true) :
    Noticed e.parting hub (hub.submit e) where
  toQuiet := .submit accepting notice
  owned := rfl
  removals k := by
    have isOpen : (hub.submit e).isOpen k = hub.isOpen k := rfl
    have joined : (hub.submit e).removals k = hub.removals k + [e].count (.unregister k) := List.count_append
    rw [isOpen, partingsSame, joined]
    cases e with
    | unregister h => simp [Event.parting, List.count_singleton]
    | register => simp [Event.parting]
    | flush | shutdown => contradiction

theorem close (hub : Hub) (h : Handle) : Noticed [] hub (hub.close h) where
  toQuiet := by
    cases isOpen : hub.isOpen h with
    | true =>
      rw [closeOfOpen isOpen]
      exact (Quiet.beginClose hub h).trans (.finishClose _ h)
    | false =>
      rw [closeOfShut isOpen]
      exact .refl hub
  owned := closeOwned hub h
  removals k := by
    have joined : (hub.close h).removals k = hub.removals k + (hub.closing h).count (.unregister k) := by
      rw [Hub.removals, closeEvents, List.count_append]
      rfl
    rw [joined, closeOpen]
    rw [closingCount]
    by_cases here : k = h
    · simp [here]
    · simp [here, partingsSame]

theorem closeAll (hub : Hub) (hs : List Handle) : Noticed [] hub (hub.closeAll hs) := by
  induction hs generalizing hub with
  | nil => exact refl hub
  | cons h rest ih => exact (close hub h).trans (ih _)

theorem clearAll (hub : Hub) :
    Noticed [] hub (Hub.closeAll { hub with registry := {} } (hub.registry.members.map (·.handle))) := by
  have cleared : Noticed [] hub { hub with registry := {} } := .same rfl
  exact cleared.trans (closeAll _ _)

theorem disconnect (hub : Hub) (user : String) : Noticed [] hub (hub.disconnectUser user).2 := by
  have removed : Noticed [] hub { hub with registry := (hub.registry.removeUser user).2 } := .same rfl
  exact removed.trans ((closeAll _ _).trans (.same rfl))

theorem calls (calls : Calls asked hub hub') : Noticed asked hub hub' := by
  induction calls with
  | refl hub => exact refl hub
  | log | join | leave => exact .same rfl
  | send hub h m => exact .same (outlineSend hub h m)
  | close hub h => exact close hub h
  | notice hub h accepting => exact submit (e := .unregister h) accepting rfl
  | disconnect hub user => exact disconnect hub user
  | trans _ _ first second => exact first.trans second

theorem register (hub : Hub) (h : Handle) : Noticed [] hub (hub.register h) := by
  unfold Hub.register
  split
  · exact submit (e := .register h) (by assumption) rfl
  · exact Noticed.trans (.same (outlineNote hub h _)) (close _ h)

theorem applyRegister (hub : Hub) (h : Handle) : Noticed [] hub (hub.applyRegister h) := by
  cases isOpen : hub.isOpen h with
  | false => exact .same (registerShut isOpen)
  | true =>
    obtain ⟨c, found, isOpen⟩ := (Option.any_eq_true ..).mp isOpen
    exact (closeAll hub (hub.displaced (c.member h))).trans (.same (registerOutline found isOpen))

theorem applyUnregister (hub : Hub) (h : Handle) : Noticed [] hub (hub.applyUnregister h) := by
  cases found : hub.client? h with
  | none =>
    have same : hub.applyUnregister h = hub := by simp [Hub.applyUnregister, found]
    rw [same]
    exact refl hub
  | some c =>
    have removed : Noticed [] hub { hub with registry := (hub.registry.remove (c.member h)).2 } := .same rfl
    exact removed.trans ((close _ h).trans (.same (unregisterOutline found)))

end Noticed

def Held (hub : Hub) (k : Handle) : Prop := ∃ u i m, hub.registry.client? u i = some m ∧ m.handle = k

namespace Held
variable {hub hub' : Hub} {k : Handle}

theorem same (held : hub.Held k) (registry : hub'.registry = hub.registry) : hub'.Held k := by
  rw [Held, registry]
  exact held

theorem disconnect (held : hub.Held k) {user : String}
    (isOpen : (hub.disconnectUser user).2.isOpen k = true) : (hub.disconnectUser user).2.Held k := by
  obtain ⟨u, i, m, found, rfl⟩ := held
  let members := (hub.registry.removeUser user).1.getD []
  have closed : Hub.isOpen (closeAll { hub with registry := (hub.registry.removeUser user).2 }
      (members.map (·.handle))) m.handle = true := isOpen
  rw [closeAllOpen] at closed
  have spared : m.handle ∉ members.map (·.handle) := of_decide_eq_true (Bool.and_eq_true _ _ ▸ closed).2
  have other : u ≠ user := by
    rintro rfl
    refine spared (List.mem_map.mpr ⟨m, ?_, rfl⟩)
    obtain ⟨b, bucket, stored⟩ := Option.bind_eq_some_iff.mp found
    have listed : members = b.values := by simp [members, Registry.removeUser, bucket]
    rw [listed]
    exact (b.memValues m).mpr ⟨i, stored⟩
  refine ⟨u, i, m, ?_, rfl⟩
  have registry : (hub.disconnectUser user).2.registry = (hub.registry.removeUser user).2 :=
    closeAllRegistry _ _
  rw [registry, Registry.removeUserClient, if_neg other]
  exact found

theorem calls {asked : List Handle} (calls : Calls asked hub hub') (held : hub.Held k) (isOpen : hub'.isOpen k = true) :
    hub'.Held k := by
  induction calls with
  | refl => exact held
  | log => exact held.same rfl
  | send hub h m => exact held.same (sameRegistry (outlineSend hub h m))
  | close hub h => exact held.same (closeRegistry hub h)
  | notice => exact held.same rfl
  | join => exact held
  | leave => exact held
  | disconnect hub user => exact held.disconnect isOpen
  | trans _ second ih ih' => exact ih' (ih held ((Noticed.calls second).isOpen k isOpen)) isOpen

theorem register (held : hub.Held k) (h : Handle) : (hub.register h).Held k := by
  refine held.same ?_
  unfold Hub.register
  split
  · rfl
  · exact (closeRegistry _ h).trans (sameRegistry (outlineNote hub h _))

theorem applyRegister {h : Handle} (held : k = h ∨ hub.Held k)
    (isOpen : (hub.applyRegister h).isOpen k = true) : (hub.applyRegister h).Held k := by
  have before := (Noticed.applyRegister hub h).isOpen k isOpen
  cases open' : hub.isOpen h with
  | false =>
    have other : k ≠ h := by
      rintro rfl
      simp [open'] at before
    exact (held.resolve_left other).same (sameRegistry (registerShut open'))
  | true =>
    obtain ⟨c, found, open'⟩ := (Option.any_eq_true ..).mp open'
    have outline := registerOutline found open'
    have registry : (hub.applyRegister h).registry = (hub.registry.insert (c.member h)).2 :=
      congrArg Outline.registry outline
    have spared : k ∉ hub.displaced (c.member h) := by
      rw [isOpenFace, outline, ← isOpenFace, closeAllOpen] at isOpen
      exact of_decide_eq_true (Bool.and_eq_true _ _ ▸ isOpen).2
    have self : (hub.applyRegister h).Held h := by
      refine ⟨c.user, c.id, c.member h, ?_, rfl⟩
      rw [registry, Registry.insertClient]
      exact if_pos ⟨rfl, rfl⟩
    rcases held with rfl | ⟨u, i, m, found', rfl⟩
    · exact self
    · by_cases own : m.handle = h
      · rw [own]
        exact self
      · refine ⟨u, i, m, ?_, rfl⟩
        rw [registry, Registry.insertClient]
        refine (if_neg ?_).trans found'
        rintro ⟨rfl, rfl⟩
        exact spared ((memDisplaced hub _ _).mpr ⟨own, m, found', rfl⟩)

theorem applyUnregister {h : Handle} (held : hub.Held k)
    (isOpen : (hub.applyUnregister h).isOpen k = true) : (hub.applyUnregister h).Held k := by
  cases found : hub.client? h with
  | none =>
    have same : hub.applyUnregister h = hub := by simp [Hub.applyUnregister, found]
    rw [same]
    exact held
  | some c =>
    have outline := unregisterOutline found
    have registry : (hub.applyUnregister h).registry = (hub.registry.remove (c.member h)).2 :=
      (congrArg Outline.registry outline).trans (closeRegistry _ h)
    obtain ⟨u, i, m, found', rfl⟩ := held
    have other : m.handle ≠ h := by
      rw [isOpenFace, outline, ← isOpenFace, closeOpen] at isOpen
      exact of_decide_eq_true (Bool.and_eq_true _ _ ▸ isOpen).2
    refine ⟨u, i, m, ?_, rfl⟩
    rw [registry, Registry.removeClient]
    refine (if_neg ?_).trans found'
    rintro ⟨rfl, rfl, contains⟩
    rw [Registry.containsIff, found'] at contains
    exact other (of_decide_eq_true contains)

theorem applyShutdown (held : hub.Held k) : hub.applyShutdown.isOpen k = false := by
  obtain ⟨u, i, m, found, rfl⟩ := held
  have listed : m.handle ∈ hub.registry.members.map (·.handle) :=
    List.mem_map.mpr ⟨m, (Users.memMembers _ m).mpr ⟨u, i, found⟩, rfl⟩
  rw [isOpenFace, shutdownOutline, ← isOpenFace, closeAllOpen]
  simp [listed]

end Held

/- A client that was to be registered: while it is open it waits for that, or is registered. -/
def Asked (h : Handle) (hub : Hub) : Prop :=
  hub.isOpen h = true → .register h ∈ hub.events ∨ hub.Held h

namespace Asked
variable {hub hub' : Hub} {k : Handle}

theorem same (a : Asked k hub) (clients : hub'.clients = hub.clients)
    (registry : hub'.registry = hub.registry) {more : List Event} (events : hub'.events = hub.events ++ more) :
    Asked k hub' := by
  intro isOpen
  rw [Hub.isOpen, client?, clients] at isOpen
  rcases a isOpen with waits | held
  · rw [events]
    exact .inl (List.mem_append_left _ waits)
  · exact .inr (held.same registry)

theorem quiet (a : Asked k hub) (quiet : Quiet hub hub')
    (held : hub'.isOpen k = true → hub.Held k → hub'.Held k) : Asked k hub' := by
  intro isOpen
  obtain ⟨more, events, -⟩ := quiet.events
  rcases a (quiet.isOpen k isOpen) with waits | there
  · rw [events]
    exact .inl (List.mem_append_left _ waits)
  · exact .inr (held isOpen there)

theorem taken (a : Asked k hub) {e : Event} {rest : List Event} (next : hub.events = e :: rest) :
    e = .register k ∨ Asked k { hub with events := rest } := by
  by_cases here : e = .register k
  · exact .inl here
  · refine .inr fun isOpen => ?_
    refine (a isOpen).imp_left fun waits => ?_
    rw [next] at waits
    exact (List.mem_cons.mp waits).resolve_left (Ne.symm here)

theorem applyShutdown (a : Asked k hub) : Asked k hub.applyShutdown := by
  intro isOpen
  have closed := Noticed.clearAll hub
  have before : hub.isOpen k = true := closed.isOpen k isOpen
  obtain ⟨more, events, -⟩ := closed.events
  rcases a before with waits | held
  · have events : hub.applyShutdown.events = hub.events ++ more := events
    rw [events]
    exact .inl (List.mem_append_left _ waits)
  · exact absurd (held.applyShutdown.symm.trans isOpen) (by simp)

theorem loopStep (a : Asked k hub) (step : LoopStep hub hub') : Asked k hub' := by
  cases step with
  | @applied e rest serving next =>
    rcases a.taken next with rfl | a
    · intro isOpen
      exact .inr (Held.applyRegister (.inl rfl) isOpen)
    · cases e with
      | register h =>
        exact a.quiet (Noticed.applyRegister _ h).toQuiet fun isOpen held => Held.applyRegister (.inr held) isOpen
      | unregister h =>
        exact a.quiet (Noticed.applyUnregister _ h).toQuiet fun isOpen held => held.applyUnregister isOpen
      | flush ticket => exact a
      | shutdown => exact a.applyShutdown
  | drains => exact a
  | @discarded e rest draining next =>
    rcases a.taken next with rfl | a
    · intro isOpen
      have shut : ((Hub.close { hub with events := rest } k).isOpen k) = false := by
        rw [closeOpen]
        simp
      exact absurd (shut.symm.trans isOpen) (by simp)
    · cases e with
      | register h => exact a.quiet (Noticed.close _ h).toQuiet fun _ held => held.same (closeRegistry _ h)
      | unregister _ | flush _ | shutdown => exact a
  | stopped => exact a

end Asked
end Hub
end RelayHub
