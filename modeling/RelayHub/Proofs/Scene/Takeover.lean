import RelayHub.Proofs.Scene.Registration

/-! Group entries whose client is not registered as that entry. One thing alone brings them about: an open
client registered under the key of another one, which stays in its groups until the notice of its end
is applied. -/
namespace RelayHub
open Hub (Accounted Calls LoopStep)

namespace Registry

/- The entry of a group that the clients index does not bear out. -/
def Dangles (r : Registry) (g u i : String) (m : Member) : Prop :=
  r.groupMember? g u i = some m ∧ r.client? u i ≠ some m

def Firm (r r' : Registry) : Prop := ∀ g u i m, r'.Dangles g u i m → r.Dangles g u i m

namespace Firm
variable {r r' r'' : Registry}

theorem same (same : r' = r) : r.Firm r' := by
  subst same
  exact fun _ _ _ _ dangles => dangles

theorem trans (first : r.Firm r') (second : r'.Firm r'') : r.Firm r'' :=
  fun g u i m dangles => first g u i m (second g u i m dangles)

theorem within (within : r'.Within r) (stays : ∀ g u i m, r'.groupMember? g u i = some m →
    r.client? u i = some m → r'.client? u i = some m) : r.Firm r' :=
  fun g u i m ⟨held, absent⟩ => ⟨within.group g u i m held, fun found => absent (stays g u i m held found)⟩

theorem empty (r : Registry) : r.Firm {} :=
  fun g u i m ⟨held, _⟩ => absurd (.inr ⟨g, held⟩) (emptyHolds u i m)

theorem remove (r : Registry) (m : Member) : r.Firm (r.remove m).2 :=
  .within (r.removeWithin m) fun _ _ _ _ => removeStays

theorem removeUser (r : Registry) (user : String) : r.Firm (r.removeUser user).2 :=
  .within (r.removeUserWithin user) fun _ _ _ _ => removeUserStays

theorem leave (r : Registry) (group : String) (m : Member) : r.Firm (r.leave group m).2 :=
  .within (r.leaveWithin m group) fun _ _ _ _ _ found => found

theorem join {m : Member} (registered : r.client? m.user m.id = some m) (group : String) :
    r.Firm (r.join group m) := by
  rintro g u i x ⟨held, absent⟩
  rw [joinGroupMember] at held
  split at held
  · rename_i key
    cases held
    obtain ⟨-, rfl, rfl⟩ := key
    exact absurd registered absent
  · exact ⟨held, absent⟩

end Firm

theorem insertDangles (r : Registry) (x : Member) (g u i : String) (m : Member) :
    (r.insert x).2.Dangles g u i m ↔
      if u = x.user ∧ i = x.id then r.groupMember? g u i = some m ∧ x ≠ m else r.Dangles g u i m := by
  have groups : (r.insert x).2.groupMember? g u i = r.groupMember? g u i := rfl
  unfold Dangles
  rw [insertClient, groups]
  split
  · simp
  · rfl

end Registry

namespace Hub

def Takeover (hub : Hub) (u i : String) (m : Member) : Prop :=
  hub.loop = .serving ∧ ∃ k x rest, hub.events = .register k :: rest ∧ hub.isOpen k = true ∧
    hub.member? k = some x ∧ x.user = u ∧ x.id = i ∧ k ≠ m.handle

theorem unregisterFirm (hub : Hub) (h : Handle) :
    hub.registry.Firm (hub.applyUnregister h).registry := by
  have registry := removedRegistry hub h
  cases known : hub.member? h with
  | none => exact .same (by simpa [known] using registry)
  | some m =>
    rw [known] at registry
    exact registry ▸ .remove hub.registry m

namespace Accounted
variable {owed : List Handle} {hub hub' : Hub}

theorem firmCalls (a : Accounted owed hub) {asked : List Handle} (calls : Calls asked hub hub') :
    hub.registry.Firm hub'.registry := by
  induction calls with
  | refl | log | notice => exact .same rfl
  | send hub h m => exact .same (sameRegistry (outlineSend hub h m))
  | close hub h => exact .same (closeRegistry hub h)
  | join hub group m known _ held => exact .join (a.contained known held) group
  | leave hub group m => exact .leave hub.registry group m
  | disconnect hub user => exact disconnectedRegistry hub user ▸ .removeUser hub.registry user
  | trans first _ ih ih' => exact (ih a).trans (ih' (a.calls first))

theorem danglesRegistered (a : Accounted owed hub) {h : Handle} {x : Member} (known : hub.member? h = some x)
    (isOpen : hub.isOpen h = true) (g u i : String) (m : Member) :
    (hub.applyRegister h).registry.Dangles g u i m ↔ if u = x.user ∧ i = x.id then
      hub.registry.groupMember? g u i = some m ∧ h ≠ m.handle else hub.registry.Dangles g u i m := by
  rw [insertedRegistry known isOpen, Registry.insertDangles]
  have own : hub.registry.groupMember? g u i = some m → (x ≠ m ↔ h ≠ m.handle) := by
    intro held
    have self := (a.known u i m (.inr ⟨g, held⟩)).1
    refine not_congr ⟨?_, ?_⟩
    · rintro rfl
      exact (handleOf known).symm
    · rintro rfl
      exact Option.some.inj (known.symm.trans self)
  split
  · exact and_congr_right own
  · rfl

theorem danglesAfter (a : Accounted owed hub) (step : LoopStep hub hub') {g u i : String} {m : Member}
    (dangles : hub'.registry.Dangles g u i m) : hub.registry.Dangles g u i m ∨
      hub.registry.groupMember? g u i = some m ∧ hub.Takeover u i m := by
  cases step with
  | @applied e rest serving next =>
    have popped := a.taken next
    cases e with
    | register h =>
      cases isOpen : hub.isOpen h with
      | false =>
        have shut : Hub.isOpen { hub with events := rest } h = false := isOpen
        exact .inl (Registry.Firm.same (passedRegistry shut) g u i m dangles)
      | true =>
        obtain ⟨c, -, -, known⟩ := knownOpen isOpen
        rw [Hub.apply, popped.danglesRegistered known isOpen] at dangles
        split at dangles
        · rename_i key
          obtain ⟨held, apart⟩ := dangles
          exact .inr ⟨held, serving, h, c.member h, rest, next, isOpen, known, key.1.symm, key.2.symm, apart⟩
        · exact .inl dangles
    | unregister h => exact .inl (unregisterFirm { hub with events := rest } h g u i m dangles)
    | flush ticket => exact .inl dangles
    | shutdown => exact .inl (Registry.Firm.empty _ g u i m (clearedRegistry _ ▸ dangles))
  | drains | stopped => exact .inl dangles
  | @discarded e rest draining next =>
    cases e with
    | register h =>
      have registry := closeRegistry { hub with events := rest } h
      exact .inl (Registry.Firm.same registry g u i m dangles)
    | unregister _ | flush _ | shutdown => exact .inl dangles

theorem danglesTaken (a : Accounted owed hub) (step : LoopStep hub hub') {g u i : String} {m : Member}
    (held : hub.registry.groupMember? g u i = some m) (taken : hub.Takeover u i m) :
    hub'.registry.Dangles g u i m := by
  obtain ⟨serving, k, x, rest, next, isOpen, known, rfl, rfl, apart⟩ := taken
  cases step with
  | applied _ next' =>
    cases next.symm.trans next'
    exact ((a.taken next).danglesRegistered known isOpen g _ _ m).mpr (by simp [held, apart])
  | drains other | discarded other | stopped other => simp [serving] at other

theorem unregisteredGone (a : Accounted owed hub) (h : Handle) (u i : String) (m : Member)
    (held : (hub.applyUnregister h).registry.Holds u i m) : m.handle ≠ h := by
  have registry := removedRegistry hub h
  cases found : hub.client? h with
  | none =>
    have same : (hub.applyUnregister h).registry = hub.registry := by simpa [member?, found] using registry
    exact a.strangerGone found u i m (same ▸ held)
  | some c =>
    have removed : (hub.applyUnregister h).registry = (hub.registry.remove (c.member h)).2 := by
      simpa [member?, found] using registry
    exact a.removedGone found u i m (removed ▸ held)

theorem noticeApplied (a : Accounted owed hub) (step : LoopStep hub hub') (serving : hub.loop = .serving)
    {h : Handle} {rest : List Event} (next : hub.events = .unregister h :: rest) {u i : String} {m : Member}
    (held : hub'.registry.Holds u i m) : m.handle ≠ h := by
  cases step with
  | applied _ next' =>
    cases next.symm.trans next'
    exact (a.taken next).unregisteredGone h u i m held
  | drains other | discarded other | stopped other => simp [serving] at other

end Accounted
end Hub

namespace Scene

/-- A group entry that the clients index does not bear out is a shut client whose notice is on its way. It
comes about where the loop registers another open client under its key, and in no other step; once the
notice has been applied it is gone. -/
theorem takeoverAloneDangles {c : HubConfig} {s : Scene} (reached : Reached c s) :
    (∀ g u i m, s.hub.registry.Dangles g u i m →
      s.hub.isOpen m.handle = false ∧ s.hub.Told s.closing m.handle) ∧
    (∀ a s', s.act? a = some s' → ∀ g u i m, ¬ s.hub.registry.Dangles g u i m →
      (s'.hub.registry.Dangles g u i m ↔
        a = .turn .loop ∧ s.hub.registry.groupMember? g u i = some m ∧ s.hub.Takeover u i m)) ∧
    ∀ h rest s', s.hub.loop = .serving → s.hub.events = .unregister h :: rest →
      s.act? (.turn .loop) = some s' → ∀ g u i m, s'.hub.registry.Dangles g u i m → m.handle ≠ h := by
  have a : Accounted s.closing s.hub := settling reached
  refine ⟨fun g u i m dangles => ?_, fun act s' acted g u i m firm => ⟨fun dangles => ?_, ?_⟩, ?_⟩
  · have shut : s.hub.isOpen m.handle = false := by
      cases isOpen : s.hub.isOpen m.handle with
      | false => rfl
      | true => exact absurd (a.shared g u i m dangles.1 isOpen) dangles.2
    exact ⟨shut, a.told u i m (.inr ⟨g, dangles.1⟩) shut⟩
  · rcases indexMoves (effect acted) with same | calls | ⟨rfl, step⟩
    · exact absurd (Registry.Firm.same same g u i m dangles) firm
    · exact absurd (a.firmCalls calls g u i m dangles) firm
    · exact ⟨rfl, (a.danglesAfter step dangles).resolve_left firm⟩
  · rintro ⟨rfl, held, taken⟩
    exact a.danglesTaken (loopTurn acted) held taken
  · intro h rest s' serving next acted g u i m dangles
    exact a.noticeApplied (loopTurn acted) serving next (.inr ⟨g, dangles.1⟩)

def sameKeyTwice : List Action := [
  .build { id := "c", user := "u", tenant := "t" }, .build { id := "c", user := "u", tenant := "t" },
  .run, .turn .run, .register 0, .turn .loop, .join "g" 0, .register 1]

theorem replacedMemberDangles : ∃ s s' s'', (opening {}).run? sameKeyTwice = some s ∧
    s.act? (.turn .loop) = some s' ∧ s'.act? (.turn .loop) = some s'' ∧
    s'.hub.registry.Dangles "g" "u" "c" ⟨0, "u", "c", "t"⟩ ∧ s'.hub.isOpen 0 = false ∧
    ¬ s''.hub.registry.Dangles "g" "u" "c" ⟨0, "u", "c", "t"⟩ := by
  have shown : ((opening {}).run? sameKeyTwice).bind (fun s => (s.act? (.turn .loop)).bind fun s' =>
      (s'.act? (.turn .loop)).map fun _ => (s.hub.loop, s.hub.events, s.hub.isOpen 1, s.hub.member? 1,
        s.hub.registry.groupMember? "g" "u" "c", s.hub.registry.client? "u" "c",
        s'.hub.loop, s'.hub.events)) =
      some (.serving, [.register 1], true, some ⟨1, "u", "c", "t"⟩, some ⟨0, "u", "c", "t"⟩,
        some ⟨0, "u", "c", "t"⟩, .serving, [.unregister 0]) := by
    rfl
  obtain ⟨s, ran, shown⟩ := Option.bind_eq_some_iff.mp shown
  obtain ⟨s', acted, shown⟩ := Option.bind_eq_some_iff.mp shown
  obtain ⟨s'', acted', shown⟩ := Option.map_eq_some_iff.mp shown
  simp only [Prod.mk.injEq] at shown
  obtain ⟨serving, events, isOpen, known, member, client, serving', events'⟩ := shown
  have reached : Reached {} s := reachedRun ran
  have firm : ¬ s.hub.registry.Dangles "g" "u" "c" ⟨0, "u", "c", "t"⟩ := fun dangles => dangles.2 client
  have taken : s.hub.Takeover "u" "c" ⟨0, "u", "c", "t"⟩ :=
    ⟨serving, 1, _, [], events, isOpen, known, rfl, rfl, by decide⟩
  have dangles := ((takeoverAloneDangles reached).2.1 _ s' acted "g" "u" "c" _ firm).mpr
    ⟨rfl, member, taken⟩
  obtain ⟨shut, -, gone⟩ := takeoverAloneDangles (reached.act acted)
  exact ⟨s, s', s'', ran, acted, acted', dangles, (shut _ _ _ _ dangles).1,
    fun still => gone 0 [] s'' serving' events' acted' _ _ _ _ still rfl⟩

/- Between the two steps the group holds one client and the clients index another. -/
theorem groupHoldsAnother : ∃ s, (opening {}).run? (sameKeyTwice ++ [.turn .loop]) = some s ∧
    s.hub.registry.groupMember? "g" "u" "c" = some ⟨0, "u", "c", "t"⟩ ∧
    s.hub.registry.client? "u" "c" = some ⟨1, "u", "c", "t"⟩ := by
  have shown : ((opening {}).run? (sameKeyTwice ++ [.turn .loop])).map (fun s =>
      (s.hub.registry.groupMember? "g" "u" "c", s.hub.registry.client? "u" "c")) =
      some (some ⟨0, "u", "c", "t"⟩, some ⟨1, "u", "c", "t"⟩) := by
    rfl
  obtain ⟨s, ran, shown⟩ := Option.map_eq_some_iff.mp shown
  exact ⟨s, ran, (Prod.mk.inj shown).1, (Prod.mk.inj shown).2⟩

end Scene
end RelayHub
