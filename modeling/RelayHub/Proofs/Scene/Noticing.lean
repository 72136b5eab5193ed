import RelayHub.Proofs.Scene.Shutdown

/-! The notices of a client's end that the actions of a run submit. Of a close call in parts it is the last part that
tells the hub; whatever else closes a client tells it at once. -/
namespace RelayHub.Scene
open Hub (Noticed partings partingsKept partingsSame)
variable {s s' : Scene} {a : Action} {k : Handle}

def notified (s s' : Scene) (k : Handle) : Action → Nat
  | .beginClose _ => 0
  | .finishClose h => if k = h then partings s.hub.isHeard true false else 0
  | _ => partings s.hub.isHeard (s.hub.isOpen k) (s'.hub.isOpen k)

theorem plainNotified (s s' : Scene) (k : Handle) (plain : a.isCall = true ∨ a.isWrite = true) :
    s.hub.takenBy a = [] ∧ s.notified s' k a = partings s.hub.isHeard (s.hub.isOpen k) (s'.hub.isOpen k) := by
  cases a with
  | beginClose | finishClose => simp [Action.isCall, Action.isWrite] at plain
  | turn t =>
    cases t with
    | loop => simp [Action.isCall, Action.isWrite] at plain
    | _ => exact ⟨rfl, rfl⟩
  | _ => exact ⟨rfl, rfl⟩

theorem buildOpen (hub : Hub) (c : Client) (isOpen : hub.isOpen k = true) : (hub.build c).2.isOpen k = true := by
  obtain ⟨c', found, isOpen⟩ := (Option.any_eq_true ..).mp isOpen
  have kept : (hub.build c).2.client? k = some c' :=
    (List.getElem?_append_left (List.getElem?_eq_some_iff.mp found).1).trans found
  rw [Hub.isOpen, kept]
  exact isOpen

theorem flushRemovals (hub : Hub) (k : Handle) :
    hub.flush.2.clients = hub.clients ∧ hub.flush.2.removals k = hub.removals k := by
  unfold Hub.flush
  split
  · exact ⟨rfl, by simp [Hub.removals, Hub.submit]⟩
  · exact ⟨rfl, rfl⟩

theorem shutdownRemovals (hub : Hub) (k : Handle) :
    hub.shutdown.clients = hub.clients ∧ hub.shutdown.removals k = hub.removals k := by
  unfold Hub.shutdown
  split
  · exact ⟨rfl, by simp [Hub.removals, Hub.submit]⟩
  · exact ⟨rfl, rfl⟩

theorem writeAsked {hub : Hub} (turn : a.isWrite = true) : a.asked hub = [] := by
  cases a with
  | turn => rfl
  | _ => contradiction

theorem removalsStep (effect : Effect s a s') (k : Handle) :
    s'.hub.removals k + (s.hub.takenBy a).count (.unregister k) =
      s.hub.removals k + (a.asked s.hub).count k + s.notified s' k a := by
  have still : ∀ {hub : Hub}, hub.outline = s.hub.outline →
      hub.removals k = s.hub.removals k + partings s.hub.isHeard (s.hub.isOpen k) (hub.isOpen k) :=
    fun same => (Noticed.same same).removals k
  have other : ∀ {hub : Hub}, hub.clients = s.hub.clients → hub.removals k = s.hub.removals k →
      hub.removals k = s.hub.removals k + partings s.hub.isHeard (s.hub.isOpen k) (hub.isOpen k) := by
    intro hub clients removals
    have isOpen : hub.isOpen k = s.hub.isOpen k := by rw [Hub.isOpen, Hub.client?, clients]; rfl
    rw [isOpen, partingsSame, removals]
    rfl
  cases effect with
  | build p =>
    exact congrArg (s.hub.removals k + ·) (partingsKept (buildOpen s.hub p.client)).symm
  | register h _ => exact (Noticed.register s.hub h).removals k
  | beginClose h _ => rfl
  | finishClose h _ =>
    have joined : (s.finishClose h).hub.removals k = s.hub.removals k + (s.hub.notice h).count (.unregister k) := by
      have events : (s.finishClose h).hub.events = s.hub.events ++ s.hub.notice h :=
        congrArg Outline.events (Hub.finishCloseOutline s.hub h)
      rw [Hub.removals, events, List.count_append]
      rfl
    rw [joined, Hub.noticeCount]
    rfl
  | takeQueue h _ => exact still (takeQueueOutline s h)
  | markStarted h _ => exact still (Hub.outlineUpdate fun _ _ => rfl)
  | setMetadata h key value _ => exact still (Hub.outlineUpdate fun _ _ => rfl)
  | attach | setSink | pass => exact still rfl
  | flush => exact other (flushRemovals s.hub k).1 (flushRemovals s.hub k).2
  | shutdown => exact other (shutdownRemovals s.hub k).1 (shutdownRemovals s.hub k).2
  | run => exact other rfl rfl
  | begin began =>
    cases Hub.begun began with
    | first | another => exact other rfl rfl
  | loop stepped => exact Hub.loopRemovals (Hub.loopSteps stepped) k
  | @write _ _ _ session turn _ step =>
    obtain ⟨nothing, told⟩ := plainNotified s { s with session } k (.inr turn)
    have wrote : Noticed [] s.hub session.hub := by
      rcases Session.writeOutline step with same | closed
      · exact .same same
      · exact (Noticed.close s.hub _).trans (.same closed)
    rw [nothing, told, writeAsked turn]
    exact wrote.removals k
  | @call _ session call aside =>
    obtain ⟨nothing, told⟩ := plainNotified s { s with session } k (.inl call)
    rw [nothing, told]
    exact (Noticed.calls aside.hub).removals k

theorem joinedRemovals (effect : Effect s a s') (k : Handle) :
    (s.hub.joinedBy a s'.hub).count (.unregister k) = (a.asked s.hub).count k + s.notified s' k a := by
  -- the events of the queue are counted twice: as they come and go, and by what has made them
  have queue := congrArg (List.count (Event.unregister k)) (stir effect).joined
  have step := removalsStep effect k
  simp only [List.count_append, Hub.removals] at queue step
  omega

def asks (s : Scene) : List Action → List Handle
  | [] => []
  | a :: rest =>
    match s.act? a with
    | some next => a.asked s.hub ++ next.asks rest
    | none => []

end RelayHub.Scene
