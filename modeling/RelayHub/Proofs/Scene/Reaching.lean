import RelayHub.Proofs.Hub.Destination
import RelayHub.Proofs.Scene.Lives
import RelayHub.Proofs.Scene.Registration
import RelayHub.Proofs.Scene.Relaying

/-! Who gets a message, in any state of any run. Nobody is open whose write loop has ended, so what is put into a
queue has somebody to take it out; and whoever is addressed, open and not full gets the message. -/
namespace RelayHub.Scene
open Hub (Fanned)

section Staff
variable {smooth : Handle → Prop} {s s' : Scene} {a : Action} {k : Handle}

def Staffed (s : Scene) : Prop := ∀ k, s.stage k = .ended → s.hub.isOpen k = false

theorem stageOutgoing (same : s'.session.outgoing? k = s.session.outgoing? k) : s'.stage k = s.stage k := by
  rw [stage, stage, same]

theorem stagedKnown (conform : Conform smooth s) (set : s.stage k ≠ .absent) : k < s.hub.clients.length := by
  cases wired : s.session.outgoing? k with
  | none => exact absurd (stageAbsent wired) set
  | some o =>
    obtain ⟨c, found, -⟩ := conform.wired k o wired
    exact (List.getElem?_eq_some_iff.mp found).1

theorem attachStage (s : Scene) (h : Handle) (sink : SinkMode) :
    (s.attach h sink).stage k = .running ∨ (s.attach h sink).stage k = s.stage k := by
  simp only [stage, Scene.attach, Session.attach, Session.outgoing?, Session.linkSet]
  split
  · exact .inl rfl
  · exact .inr rfl

theorem writeEnds (conform : Conform smooth s) {h : Handle} {l : Link} {session : Session}
    (found : s.session.link? h = some l) (step : Session.WriteStep s.session h l session)
    (ended : ({ s with session } : Scene).stage k = .ended) :
    s.stage k = .ended ∨ session.hub.isOpen k = false := by
  by_cases here : k = h
  · subst here
    obtain ⟨c, held⟩ := conform.linked found
    obtain ⟨c', l', held', found', -, -, moved⟩ := Session.writeMoves found held step
    have point : l'.point.stage = .ended := (stageLink found').symm.trans ended
    generalize l'.point = p at moved point
    cases moved with
    | on working => exact absurd ((WritePoint.working working).symm.trans point) (by simp)
    | took working _ => exact absurd ((WritePoint.working working).symm.trans point) (by simp)
    | through _ =>
      right
      simp [Hub.isOpen, held', Client.isOpen, Client.markClosed]
  · have same : ({ s with session } : Scene).stage k = s.stage k :=
      stageOutgoing (Conform.outgoingApart (Session.writeApart step) here)
    exact .inl (same.symm.trans ended)

theorem stageEnds (conform : Conform smooth s) (effect : Effect s a s') (ended : s'.stage k = .ended) :
    s.stage k = .ended ∨ s'.hub.isOpen k = false := by
  cases effect with
  | build p =>
    have same : (s.build p).stage k = s.stage k :=
      stageOutgoing (congrArg (Option.map Link.outgoing) (Session.linkBuild s.session p.client k))
    exact .inl (same.symm.trans ended)
  | attach h sink _ =>
    rcases attachStage s h sink with running | same
    · exact absurd (running.symm.trans ended) (by simp)
    · exact .inl (same.symm.trans ended)
  | takeQueue h _ =>
    rcases s.takeQueueCases h with same | ⟨c, -, -, shape⟩
    · exact .inl (same ▸ ended)
    · rw [shape] at ended
      exact .inl ended
  | setSink h mode => exact .inl ((stageSetSink s h k mode).symm.trans ended)
  | write _ found step => exact writeEnds conform found step ended
  | call _ aside => exact .inl ((stageOutgoing (aside.outgoing k)).symm.trans ended)
  | _ => exact .inl ended

theorem staffedStep (conform : Conform smooth s) (before : s.Staffed) (effect : Effect s a s') : s'.Staffed := by
  intro k ended
  rcases stageEnds conform effect ended with already | shut
  · have known := stagedKnown conform (already.trans_ne (by simp))
    exact (stir effect).shuts known (before k already)
  · exact shut

theorem staffed {config : HubConfig} (reached : Reached config s) : Conform (fun _ => False) s ∧ s.Staffed := by
  induction reached with
  | start =>
    refine ⟨.start _ config, fun k ended => ?_⟩
    simp [stage, opening, Session.outgoing?, Session.link?] at ended
  | act _ acted before =>
    have effect := effect acted
    exact ⟨before.1.onward effect, staffedStep before.1 before.2 effect⟩
  | late _ _ _ before =>
    exact ⟨before.1.later (.same rfl) (fun _ => rfl) rfl (.refl _), before.2⟩

theorem readyIff (staffed : s.Staffed) : s.hub.ready k = true ↔ s.stage k ≠ .ended ∧
    ∃ c, s.hub.client? k = some c ∧ c.state = .open ∧ c.queue.length < s.hub.config.sendBufferSize := by
  constructor
  · intro ready
    obtain ⟨c, found, ready⟩ := (Option.any_eq_true ..).mp ready
    obtain ⟨isOpen, room⟩ := (Bool.and_eq_true ..).mp ready
    refine ⟨fun ended => ?_, c, found, of_decide_eq_true isOpen, of_decide_eq_true room⟩
    have shut := staffed k ended
    simp [Hub.isOpen, found, isOpen] at shut
  · rintro ⟨-, c, found, state, room⟩
    simp [Hub.ready, found, Client.ready, Client.isOpen, state, room]

end Staff

/-- An index holds clients as they are. Where a message is sent to, there everybody gets it who is open, has room in
the queue and no write loop that has ended, and nobody else; those who get it get it once, at the end of their queue,
they are counted, and nothing else about any client or any index changes. Neither the order of the entries in an index
nor the order in which the audience is gone through matters. A document that has a text is sent as that text, any
other one is refused and changes nothing. -/
theorem addresseesReachedOnce {config : HubConfig} {s : Scene} (reached : Reached config s) (d : Destination)
    (m : Bytes) : (∀ u i x, s.hub.registry.Holds u i x → s.hub.member? x.handle = some x) ∧ ∃ takers,
      (∀ k, k ∈ takers ↔ d.Covers s.hub.registry k ∧ s.stage k ≠ .ended ∧
        ∃ c, s.hub.client? k = some c ∧ c.state = .open ∧ c.queue.length < s.hub.config.sendBufferSize) ∧
      (∀ r, s.hub.registry.Reordered r → Fanned m (d.Covers s.hub.registry) { s.hub with registry := r } takers
        (d.send { s.hub with registry := r } m)) ∧
      (∀ order, (∀ k, k ∈ order ↔ d.Covers s.hub.registry k) →
        Fanned m (d.Covers s.hub.registry) s.hub takers (s.hub.offerUnseen m [] order)) ∧
      ∀ document,
        (∀ text, document.encode = .ok text →
          d.sendDocument s.hub document = (.ok (d.send s.hub text).1, (d.send s.hub text).2)) ∧
        ∀ fault, document.encode = .error fault →
          d.sendDocument s.hub document = (.error (.serialization fault.message), s.hub) := by
  obtain ⟨takers, reordered, ordered⟩ := Hub.destinationReached (settling reached) (truthful reached) m d
  have members := (reordered s.hub.registry (.refl _)).members
  refine ⟨fun u i x held => ((settling reached).known u i x held).1, takers,
    fun k => (members k).trans (and_congr_right' (readyIff (staffed reached).2)), reordered, ordered,
    fun document => ⟨fun text encoded => ?_, fun fault encoded => ?_⟩⟩
  · simp only [Destination.sendDocument, Hub.sendDocument, encoded]
  · simp only [Destination.sendDocument, Hub.sendDocument, encoded]

def replacedAndFull : List Action := [
  .build { id := "c", user := "u", tenant := "t" }, .build { id := "c", user := "u", tenant := "t" },
  .build { id := "d", user := "v", tenant := "t" }, .build { id := "e", user := "w", tenant := "t" },
  .run, .turn .run, .register 0, .register 2, .register 3, .turn .loop, .turn .loop, .turn .loop,
  .join "g" 0, .join "g" 2, .join "g" 3, .send 2 [1], .register 1, .turn .loop]

theorem oneInThreeReached : ∃ s, (opening { sendBufferSize := 1 }).run? replacedAndFull = some s ∧
    (∀ k, (Destination.group "g").Covers s.hub.registry k ↔ k ∈ [0, 2, 3]) ∧ (s.hub.sendToGroup "g" [2]).1 = 1 ∧
    ∀ k, (s.hub.sendToGroup "g" [2]).2.client? k = (s.hub.client? k).map fun c => if k = 3 then c.took [2] else c := by
  have shown : ((opening { sendBufferSize := 1 }).run? replacedAndFull).map (fun s => (
      (s.hub.registry.groups.get? "g").map (·.keptMembers none), [0, 2, 3].filter s.hub.ready)) =
      some (some [⟨0, "u", "c", "t"⟩, ⟨2, "v", "d", "t"⟩, ⟨3, "w", "e", "t"⟩], [3]) := by rfl
  obtain ⟨s, ran, shown⟩ := Option.map_eq_some_iff.mp shown
  obtain ⟨group, ready⟩ := Prod.mk.inj shown
  obtain ⟨us, held, kept⟩ := Option.map_eq_some_iff.mp group
  have covers : ∀ k, (Destination.group "g").Covers s.hub.registry k ↔ k ∈ [0, 2, 3] := by
    intro k
    have listed : (Destination.group "g").Covers s.hub.registry k ↔ ∃ x ∈ us.keptMembers none, x.handle = k := by
      simp only [Destination.Covers, Registry.groupMember?, held, Option.bind_some, Users.memKept]
      constructor
      · rintro ⟨u, i, x, found, here⟩
        exact ⟨x, ⟨u, i, found, by simp⟩, here⟩
      · rintro ⟨x, ⟨u, i, found, -⟩, here⟩
        exact ⟨u, i, x, found, here⟩
    simp [listed, kept, eq_comm]
  obtain ⟨-, takers, -, reordered, -⟩ := addresseesReachedOnce (reachedRun ran) (.group "g") [2]
  have fanned : Fanned [2] ((Destination.group "g").Covers s.hub.registry) s.hub takers (s.hub.sendToGroup "g" [2]) :=
    reordered _ (.refl _)
  have taken : takers = [3] := by
    refine List.perm_singleton.mp ((List.perm_ext_iff_of_nodup fanned.nodup (by simp)).mpr fun k => ?_)
    have listed := (fanned.members k).trans ((and_congr_left' (covers k)).trans List.mem_filter.symm)
    rwa [ready] at listed
  subst taken
  exact ⟨s, ran, covers, fanned.count, fun k => by simpa using fanned.spread.client k⟩

end RelayHub.Scene
