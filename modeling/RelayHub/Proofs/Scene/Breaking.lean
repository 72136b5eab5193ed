import RelayHub.Proofs.Scene.Reaching
import RelayHub.Proofs.Scene.Settled
import RelayHub.Proofs.Session.Breaking

/-! What a client still takes behind a loss. Its write loop closes the outgoing side first and then the client, so for
as long as that takes, messages are accepted that nobody will ever write. -/
namespace RelayHub

/- A send to the client is accepted, or a message for many counts it among those who took it. -/
def Hub.Takes (hub : Hub) (h : Handle) : Prop :=
  ∃ m, (hub.send h m).1 = true ∨ ∃ (d : Destination) (takers : List Handle),
    Fanned m (d.Covers hub.registry) hub takers (d.send hub m) ∧ h ∈ takers

theorem Hub.takesReady {hub : Hub} (truthful : hub.Truthful) (h : Handle) : hub.Takes h ↔ hub.ready h = true := by
  constructor
  · rintro ⟨m, sent | ⟨d, takers, fanned, taker⟩⟩
    · exact (sendSpread truthful h m).1.symm.trans sent
    · exact ((fanned.members h).mp taker).2
  · intro ready
    exact ⟨[], .inl ((sendSpread truthful h []).1.trans ready)⟩

theorem Session.settledShutting {s : Session} (settled : s.settled = true) {h : Handle} {l : Link}
    (found : s.link? h = some l) {deadline : Nat} (shutting : l.point = .shutting deadline) :
    l.sink.complete = .blocked ∧ s.clock < deadline := by
  have inside := linkInside found
  have unwritten : s.write? h = none := settledTurn settled (t := .write h) (by simp [turns, inside])
  have waits : s.writeExpired? h = none := settledTurn settled (t := .writeExpired h) (by simp [turns, inside])
  have blocked : l.sink.complete = .blocked := by
    cases complete : l.sink.complete with
    | blocked => rfl
    | done | failed => simp [write?, found, shutting, complete] at unwritten
  refine ⟨blocked, ?_⟩
  simpa [writeExpired?, found, shutting, WritePoint.deadline?, blocked] using waits

namespace Scene
variable {smooth : Handle → Prop} {config : HubConfig} {as : List Action} {s s' t : Scene} {a : Action} {h : Handle}
variable {l : Link} {deadline : Nat} {data : List Frame}

def BrokenOff (s : Scene) (h : Handle) (deadline : Nat) (data : List Frame) : Prop :=
  ∃ l, s.session.link? h = some l ∧ l.outgoing.data = data ∧ (l.point = .shutting deadline ∨ l.point = .finished)

theorem brokenOffStep (conform : Conform smooth s) (broken : s.BrokenOff h deadline data) (effect : Effect s a s') :
    s'.BrokenOff h deadline data := by
  obtain ⟨l, found, written, stands⟩ := broken
  rcases outgoingMoves conform found effect with ⟨mode, same, -⟩ | step
  · obtain ⟨l', found', same⟩ := Option.map_eq_some_iff.mp same
    have point : l'.point = l.point := congrArg Outgoing.point same
    have kept : l'.outgoing.data = l.outgoing.data := by
      rw [same]
      rfl
    exact ⟨l', found', kept.trans written, point ▸ stands⟩
  · rcases stands with shutting | finished
    · obtain ⟨l', found', finished, kept⟩ := Session.shuttingEnds found shutting step
      exact ⟨l', found', kept.trans written, .inr finished⟩
    · exact absurd finished (Session.writeWorking step)

theorem brokenOffRun (conform : Conform (fun _ => False) s) (broken : s.BrokenOff h deadline data)
    (ran : s.run? as = some s') : s'.BrokenOff h deadline data := by
  refine (conform.along (P := (·.BrokenOff h deadline data)) broken ?_ ran).2
  exact fun _ _ _ conform broken acted => brokenOffStep conform broken (effect acted)

/-- A loss does not close the client at once. Its write loop goes on to close the outgoing side, and until that is
done, or is blocked until its deadline, the client takes messages as before. None of them is ever written. When the
loop has ended the client takes nothing any more; and whenever no loop can go on, it has ended, unless the closing is
blocked and the deadline still lies ahead. -/
theorem lossClosesInTime (reached : Reached config s) (found : s.session.link? h = some l) {turn : Session.Turn}
    (loses : s.session.Loses h l turn) : ∃ s', s.act? (.turn turn) = some s' ∧ s'.hub.clients = s.hub.clients ∧
      ∀ as t, s'.run? as = some t → ∃ c l', t.hub.client? h = some c ∧ t.session.link? h = some l' ∧
        l'.outgoing.data = l.outgoing.data ∧
        (l'.point = .shutting s.session.writeDeadline ∨ l'.point = .finished) ∧
        (t.hub.Takes h ↔ l'.point ≠ .finished ∧ c.state = .open ∧ c.queue.length < t.hub.config.sendBufferSize) ∧
        (t.session.settled = true → l'.point = .finished ∨
          l'.sink.complete = .blocked ∧ t.session.clock < s.session.writeDeadline) := by
  obtain ⟨session, took, lost⟩ := Session.losesShuts found loses
  have acted : s.act? (.turn turn) = some { s with session } := Option.map_eq_some_iff.mpr ⟨session, took, rfl⟩
  have reached := Reached.act reached acted
  have broken : ({ s with session } : Scene).BrokenOff h s.session.writeDeadline l.outgoing.data :=
    ⟨_, lost.link, rfl, .inl rfl⟩
  refine ⟨_, acted, lost.clients, fun as t ran => ?_⟩
  have later := reached.run ran
  obtain ⟨conform, staffed⟩ := staffed later
  obtain ⟨l', found', data, stands⟩ := brokenOffRun (Scene.staffed reached).1 broken ran
  obtain ⟨c, held⟩ := conform.linked found'
  refine ⟨c, l', held, found', data, stands, (Hub.takesReady (truthful later) h).trans ?_, fun settled => ?_⟩
  · rw [readyIff staffed, held, stageLink found', ne_eq, WritePoint.stageEnded]
    simp only [Option.some.injEq, exists_eq_left']
  · rcases stands with shutting | finished
    · exact .inr (Session.settledShutting settled found' shutting)
    · exact .inl finished

def unflushedFrame : List Action := [
  .build { id := "c", user := "u", tenant := "t" }, .takeQueue 0, .markStarted 0, .attach 0 .noFlush, .send 0 [1],
  .turn (.takeMessage 0), .turn (.write 0), .pass 10000000000]

theorem unflushedLoses : ∃ s l s', (opening {}).run? unflushedFrame = some s ∧ s.session.link? 0 = some l ∧
    s.session.Loses 0 l (.writeExpired 0) ∧ s.act? (.turn (.writeExpired 0)) = some s' ∧ s'.hub.ready 0 = true ∧
    (s'.run? [.send 0 [2], .pass 10000000000, .turn (.writeExpired 0)]).map (fun t => (t.session.link? 0).map
      fun l => l.point) = some (some .finished) := by
  have shown : ((opening {}).run? unflushedFrame).map (fun s => ((s.session.link? 0).map fun l =>
      (l.answer?, l.point.deadline?), s.session.clock, (s.act? (.turn (.writeExpired 0))).map fun s' =>
        (s'.hub.ready 0, (s'.run? [.send 0 [2], .pass 10000000000, .turn (.writeExpired 0)]).map fun t =>
          (t.session.link? 0).map fun l => l.point))) =
      some (some (some .blocked, some 10000000000), 10000000000, some (true, some (some .finished))) := by rfl
  obtain ⟨s, ran, shown⟩ := Option.map_eq_some_iff.mp shown
  simp only [Prod.mk.injEq] at shown
  obtain ⟨link, clock, after⟩ := shown
  obtain ⟨l, found, link⟩ := Option.map_eq_some_iff.mp link
  obtain ⟨answer, limit⟩ := Prod.mk.inj link
  obtain ⟨s', acted, after⟩ := Option.map_eq_some_iff.mp after
  obtain ⟨ready, ended⟩ := Prod.mk.inj after
  exact ⟨s, l, s', ran, found, .late answer limit clock.ge, acted, ready, ended⟩

theorem unflushedLossCloses : ∃ s l s' t, (opening {}).run? unflushedFrame = some s ∧ s.session.link? 0 = some l ∧
    s.session.Loses 0 l (.writeExpired 0) ∧ s.act? (.turn (.writeExpired 0)) = some s' ∧ s'.hub.Takes 0 ∧
    s'.run? [.send 0 [2], .pass 10000000000, .turn (.writeExpired 0)] = some t ∧ ¬ t.hub.Takes 0 := by
  obtain ⟨s, l, s', ran, found, loses, acted, ready, ended⟩ := unflushedLoses
  obtain ⟨s'', acted', -, later⟩ := lossClosesInTime (reachedRun ran) found loses
  cases acted.symm.trans acted'
  obtain ⟨t, ran', ended⟩ := Option.map_eq_some_iff.mp ended
  obtain ⟨l'', found'', finished⟩ := Option.map_eq_some_iff.mp ended
  have takes := (Hub.takesReady (truthful (.act (reachedRun ran) acted)) 0).mpr ready
  obtain ⟨c, l₀, -, found₀, -, -, untaken, -⟩ := later _ t ran'
  cases found''.symm.trans found₀
  exact ⟨s, l, s', t, ran, found, loses, acted, takes, ran', fun taken => (untaken.mp taken).1 finished⟩

theorem acceptedBehindLoss : ¬ ∀ config s h l turn s' as t, Reached config s → s.session.link? h = some l →
    s.session.Loses h l turn → s.act? (.turn turn) = some s' → s'.run? as = some t → ¬ t.hub.Takes h := by
  intro stops
  obtain ⟨s, l, s', ran, found, loses, acted, ready, -⟩ := unflushedLoses
  have reached := reachedRun ran
  exact stops {} s 0 l _ s' [] s' reached found loses acted rfl
    ((Hub.takesReady (truthful (.act reached acted)) 0).mpr ready)

end Scene
end RelayHub
