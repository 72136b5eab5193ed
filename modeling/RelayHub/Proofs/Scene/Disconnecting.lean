import RelayHub.Proofs.Hub.Disconnecting
import RelayHub.Proofs.Scene.Registration

/-! Disconnecting a user in any state of any run: what it does at once, and what no event that waits can undo. -/
namespace RelayHub.Scene
open Hub (Disconnected)
variable {config : HubConfig} {s s' t t' : Scene} {as : List Action} {h : Handle}

theorem prunedStep {a : Action} (pruned : s.hub.registry.Pruned) (acted : s.act? a = some s') :
    s'.hub.registry.Pruned := by
  rcases indexMoves (effect acted) with same | calls | ⟨-, step⟩
  · exact same ▸ pruned
  · exact Hub.prunedCalls calls pruned
  · exact Hub.prunedLoop step pruned

theorem pruned (reached : Reached config s) : s.hub.registry.Pruned := by
  induction reached with
  | start => exact Registry.prunedEmpty
  | act _ acted before => exact prunedStep before acted
  | late _ _ _ before => exact before

def Unheld (s : Scene) (h : Handle) : Prop := ∀ u i x, s.hub.registry.Holds u i x → x.handle ≠ h

theorem unheldStays (known : s.has h = true) (shut : s.hub.isOpen h = false) (unheld : s.Unheld h)
    (ran : s.run? as = some t) : t.hub.isOpen h = false ∧ t.Unheld h := by
  have unlisted : s.hub.lists h = false := by
    cases listed : s.hub.lists h with
    | false => rfl
    | true =>
      obtain ⟨u, i, x, found, handle⟩ := (Hub.listsIff s.hub h).mp listed
      exact absurd handle (unheld u i x (.inl found))
  obtain ⟨-, -, departed⟩ := departs known shut unlisted ran
  refine ⟨departed.shut, ?_⟩
  rintro u i x (found | ⟨g, found⟩) handle
  · have listed := (Hub.listsIff t.hub h).mpr ⟨u, i, x, found, handle⟩
    exact absurd (departed.unlisted.symm.trans listed) (by simp)
  · exact unheld u i x (.inr ⟨g, departed.groups g u i x handle found⟩) handle

/-- Disconnecting a user takes all the user's entries out of both indexes, closes the clients that were registered for
the user, counts them, and leaves every other entry and every other client as it is; a group goes exactly if nobody
else was in it. None of the closed clients is open or in an index ever after, whatever waits in the queue. And
whenever a notice about one of them is applied, no client and no entry changes, not even one that has taken over
the key. -/
theorem disconnectIsFinal (reached : Reached config s) (user : String) :
    Disconnected user (s.hub.disconnectUser user).1 s.hub (s.hub.disconnectUser user).2 ∧
    ∃ s', s.act? (.disconnect user) = some s' ∧ s'.hub = (s.hub.disconnectUser user).2 ∧
      ∀ i m, s.hub.registry.client? user i = some m → ∀ more t, s'.run? more = some t →
        t.hub.isOpen m.handle = false ∧ t.Unheld m.handle ∧
        ∀ t', t.act? (.turn .loop) = some t' → t.hub.next = [.unregister m.handle] →
          t'.hub.clients = t.hub.clients ∧
          (∀ u i, t'.hub.registry.client? u i = t.hub.registry.client? u i) ∧
          ∀ g u i, t'.hub.registry.groupMember? g u i = t.hub.registry.groupMember? g u i := by
  have disconnected := Hub.disconnected (pruned reached) user
  refine ⟨disconnected, _, rfl, rfl, fun i m held more t ran => ?_⟩
  have acted : s.act? (.disconnect user) = some (s.onHub fun hub => (hub.disconnectUser user).2) := rfl
  have known := ((settling reached).known user i m (.inl held)).1
  have after : (s.hub.disconnectUser user).2.member? m.handle = some m := by
    refine (Hub.closeAllMember _ _ _).trans ?_
    exact known
  -- whoever is held anywhere is held under the own user
  have unheld : (s.onHub fun hub => (hub.disconnectUser user).2).Unheld m.handle := by
    intro u i' x there handle
    obtain ⟨own, rfl, -⟩ := (settling (reached.act acted)).known u i' x there
    rw [handle] at own
    cases after.symm.trans own
    have named := ((settling reached).known user i m (.inl held)).2.1
    rcases there with found | ⟨g, found⟩
    · exact absurd ((disconnected.unlisted i').symm.trans (named ▸ found)) (by simp)
    · exact absurd ((disconnected.ungrouped g i').symm.trans (named ▸ found)) (by simp)
  have inside : (s.onHub fun hub => (hub.disconnectUser user).2).has m.handle = true := by
    obtain ⟨c, found, -⟩ := Option.map_eq_some_iff.mp after
    exact decide_eq_true (List.getElem?_eq_some_iff.mp found).1
  obtain ⟨shut, gone⟩ := unheldStays inside (disconnected.shut i m held) unheld ran
  exact ⟨shut, gone, fun t' turn next => (loopTurn turn).spares shut gone next⟩

def keyTakenOver : List Action := [
  .build { id := "1", user := "u", tenant := "t" }, .build { id := "1", user := "v", tenant := "t" }, .run, .turn .run,
  .register 0, .register 1, .turn .loop, .turn .loop, .build { id := "1", user := "u", tenant := "t" }, .register 0,
  .register 2]

theorem newHolderStays : ∃ s s' t t', (opening {}).run? keyTakenOver = some s ∧ s.act? (.disconnect "u") = some s' ∧
    s'.run? [.turn .loop, .turn .loop] = some t ∧ t.hub.next = [.unregister 0] ∧ t.act? (.turn .loop) = some t' ∧
    t'.hub.registry.client? "u" "1" = some ⟨2, "u", "1", "t"⟩ ∧
    t'.hub.registry.client? "v" "1" = some ⟨1, "v", "1", "t"⟩ ∧ t.Unheld 0 := by
  have shown : ((opening {}).run? keyTakenOver).bind (fun s => (s.act? (.disconnect "u")).bind fun s' =>
      (s'.run? [.turn .loop, .turn .loop]).bind fun t => (t.act? (.turn .loop)).map fun _ =>
        (s.hub.registry.client? "u" "1", t.hub.next, t.hub.registry.client? "u" "1", t.hub.registry.client? "v" "1")) =
      some (some ⟨0, "u", "1", "t"⟩, [.unregister 0], some ⟨2, "u", "1", "t"⟩, some ⟨1, "v", "1", "t"⟩) := by rfl
  obtain ⟨s, ran, shown⟩ := Option.bind_eq_some_iff.mp shown
  obtain ⟨s', acted, shown⟩ := Option.bind_eq_some_iff.mp shown
  obtain ⟨t, on, shown⟩ := Option.bind_eq_some_iff.mp shown
  obtain ⟨t', turn, shown⟩ := Option.map_eq_some_iff.mp shown
  simp only [Prod.mk.injEq] at shown
  obtain ⟨held, next, taken, other⟩ := shown
  obtain ⟨-, s'', acted', -, later⟩ := disconnectIsFinal (reachedRun ran) "u"
  cases acted.symm.trans acted'
  obtain ⟨-, gone, spared⟩ := later "1" _ held _ t on
  obtain ⟨-, kept, -⟩ := spared t' turn next
  exact ⟨s, s', t, t', ran, acted, on, next, turn, (kept "u" "1").trans taken, (kept "v" "1").trans other, gone⟩

end RelayHub.Scene
