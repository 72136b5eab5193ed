import RelayHub.Proofs.Scene.Lives
import RelayHub.Proofs.Scene.Registration

/-! When no loop can go on before the clock moves, no client is half closed. Whatever ended it first, its other loop
has been told by then: by the cancellation, by the end of the queue, or by the close call of a loop that ended. -/
namespace RelayHub

structure SinkMode.Answers (mode : SinkMode) : Prop where
  accept : mode.accept ≠ .blocked
  complete : mode.complete ≠ .blocked

def Action.Answers (h : Handle) : Action → Prop
  | .attach k sink => k = h → sink.Answers
  | .setSink k mode => k = h → mode.Answers
  | _ => True

namespace Session
variable {s : Session} {h : Handle} {l : Link} {c : Client}

theorem writeAnswers (found : s.link? h = some l) (answers : l.sink.Answers) (stuck : s.write? h = none) :
    l.point = .idle ∨ l.point = .finished := by
  have accept := answers.accept
  have complete := answers.complete
  cases point : l.point with
  | idle => exact .inl rfl
  | finished => exact .inr rfl
  | feeding | pinging | goodbye =>
    cases accepts : l.sink.accept with
    | blocked => exact absurd accepts accept
    | done | failed => simp [write?, found, point, accepts] at stuck
  | flushing | pingFlushing | goodbyeFlushing | shutting =>
    cases completes : l.sink.complete with
    | blocked => exact absurd completes complete
    | done | failed => simp [write?, found, point, completes] at stuck

section Settled
variable (settled : s.settled = true) (found : s.link? h = some l) (held : s.hub.client? h = some c)
include settled

theorem settledTurn {t : Turn} (here : t ∈ s.turns) : s.take? t = none := by
  simpa using List.all_eq_true.mp settled t here

include found held

theorem settledReader (cancelled : c.cancelled = true) : l.readDone = true := by
  have stuck : s.readCancelled? h = none := settledTurn settled (t := .readCancelled h) (by
    simp [turns, linkInside found])
  cases reading : l.reading with
  | none => simp [Link.readDone, reading]
  | some deadline => simp [readCancelled?, found, reading, held, cancelled] at stuck

theorem settledWriter (answers : l.sink.Answers) :
    l.point = .idle ∧ c.queue = [] ∧ c.sender = true ∨ l.point = .finished := by
  have stuck : s.write? h = none := settledTurn settled (t := .write h) (by simp [turns, linkInside found])
  refine (writeAnswers found answers stuck).imp_left fun point => ?_
  have waits : s.takeMessage? h = none := settledTurn settled (t := .takeMessage h) (by
    simp [turns, linkInside found])
  cases queue : c.queue with
  | cons m rest => simp [takeMessage?, found, point, dequeue?, held, Client.dequeue, queue] at waits
  | nil =>
    refine ⟨point, rfl, ?_⟩
    simpa [takeMessage?, found, point, dequeue?, held, Client.dequeue, queue] using waits

end Settled

end Session

namespace Scene
variable {smooth : Handle → Prop} {config : HubConfig} {as : List Action} {s s' : Scene} {a : Action} {h : Handle}

theorem writeKeeps (conform : Conform smooth s) {k : Handle} {l : Link} {session : Session}
    (found : s.session.link? k = some l) (step : Session.WriteStep s.session k l session) (h : Handle) :
    (session.link? h).map (fun l => (l.reading, l.sink)) =
      (s.session.link? h).map fun l => (l.reading, l.sink) := by
  by_cases here : h = k
  · subst here
    obtain ⟨c, held⟩ := conform.linked found
    obtain ⟨-, l', -, found', reading, sink, -⟩ := Session.writeMoves found held step
    rw [found, found', Option.map_some, Option.map_some, reading, sink]
  · rw [(Session.writeApart step).link h here]

section Answer

def Answers (s : Scene) (h : Handle) : Prop := ∀ o, s.session.outgoing? h = some o → o.sink.Answers

theorem answersSet {mode : SinkMode} (before : s.Answers h) (k : Handle) (mild : k = h → mode.Answers) :
    ({ s with session := s.session.setSink k mode } : Scene).Answers h := by
  intro o wired
  obtain ⟨l, found, rfl⟩ := Option.map_eq_some_iff.mp wired
  rw [Session.setSink, Session.linkUpdate] at found
  split at found
  · rename_i here
    obtain ⟨l, -, rfl⟩ := Option.map_eq_some_iff.mp found
    exact mild here.symm
  · exact before _ (Option.map_eq_some_iff.mpr ⟨l, found, rfl⟩)

theorem answersAttach {sink : SinkMode} (before : s.Answers h) (k : Handle) (mild : k = h → sink.Answers) :
    (s.attach k sink).Answers h := by
  intro o wired
  obtain ⟨l, found, rfl⟩ := Option.map_eq_some_iff.mp wired
  rw [Scene.attach, Session.attach, Session.linkSet] at found
  split at found
  · rename_i here
    cases Option.some.inj found
    exact mild here.1.symm
  · exact before _ (Option.map_eq_some_iff.mpr ⟨l, found, rfl⟩)

theorem answersWrite (conform : Conform smooth s) (before : s.Answers h) {k : Handle} {l : Link} {session : Session}
    (found : s.session.link? k = some l) (step : Session.WriteStep s.session k l session) :
    ({ s with session } : Scene).Answers h := by
  intro o wired
  obtain ⟨l', found', rfl⟩ := Option.map_eq_some_iff.mp wired
  have kept := writeKeeps conform found step h
  rw [found'] at kept
  obtain ⟨l, earlier, same⟩ := Option.map_eq_some_iff.mp kept.symm
  have sink : l.sink = l'.sink := congrArg Prod.snd same
  have answers : l.sink.Answers := before _ (Option.map_eq_some_iff.mpr ⟨l, earlier, rfl⟩)
  rw [sink] at answers
  exact answers

theorem answersStep (conform : Conform smooth s) (before : s.Answers h) (mild : a.Answers h)
    (effect : Effect s a s') : s'.Answers h := by
  cases effect with
  | build p =>
    have links := congrArg (Option.map Link.outgoing) (Session.linkBuild s.session p.client h)
    exact fun o wired => before o (links.symm.trans wired)
  | attach k sink _ => exact answersAttach before k mild
  | setSink k mode => exact answersSet before k mild
  | takeQueue k _ =>
    rcases s.takeQueueCases k with same | ⟨c, -, -, shape⟩
    · rw [same]
      exact before
    · rw [shape]
      exact before
  | write _ found step => exact answersWrite conform before found step
  | call _ aside => exact fun o wired => before o ((aside.outgoing h).symm.trans wired)
  | _ => exact before

end Answer

section Halt
open Session (Halts)

theorem haltsOnHub (s : Scene) (f : Hub → Hub) : Halts s.session (s.onHub f).session :=
  Session.haltsSame fun _ => rfl

theorem haltsOnClient {f : Hub → Hub} (acted : s.onClient? h f = some s') : Halts s.session s'.session := by
  obtain ⟨-, rfl⟩ := onClientSome acted
  exact haltsOnHub s f

theorem haltsTurn {t : Session.Turn} (acted : s.act? (.turn t) = some s')
    (halts : ∀ session, s.session.take? t = some session → Halts s.session session) : Halts s.session s'.session := by
  obtain ⟨session, taken, rfl⟩ := Option.map_eq_some_iff.mp acted
  exact halts session taken

theorem haltsReceive (s : Session) (h : Handle) (item : Incoming) : Halts s (s.receive h item).2 := by
  unfold Session.receive
  split
  · exact Session.haltsSame fun _ => rfl
  · rename_i l found
    split
    · exact Session.haltsSame fun _ => rfl
    · have kept : ({ l with incoming := l.incoming ++ [item] } : Link).reading.isSome = l.reading.isSome := rfl
      exact Session.haltsSame (Session.readsSet found kept)

theorem haltsCall (call : a.isCall = true) (acted : s.act? a = some s') : Halts s.session s'.session := by
  cases a with
  | unregister | join | leave | send | relay => exact haltsOnClient acted
  | disconnect | sendToUser | sendToGroup | sendToGroupExcept | sendToTenant | broadcast =>
    cases Option.some.inj acted
    exact haltsOnHub s _
  | receive k item =>
    cases Option.some.inj acted
    exact haltsReceive s.session k item
  | turn t =>
    cases t with
    | readNext | readCancelled | readExpired =>
      refine haltsTurn acted fun _ taken => ?_
      obtain ⟨l, found, -, step⟩ := Session.readStep rfl taken
      exact Session.readHalts found step
    | _ => contradiction
  | _ => contradiction

theorem haltsAttach (s : Session) (h : Handle) (sink : SinkMode) : Halts s (s.attach h sink) := by
  intro k halted
  left
  rw [Session.reads?, Session.attach, Session.linkSet] at halted
  split at halted
  · simp at halted
  · exact halted

theorem haltsWrite (conform : Conform smooth s) {l : Link} {session : Session}
    (found : s.session.link? h = some l) (step : Session.WriteStep s.session h l session) :
    Halts s.session session := by
  refine Session.haltsSame fun k => ?_
  have kept := congrArg (Option.map fun p => p.1.isSome) (writeKeeps conform found step k)
  rw [Option.map_map, Option.map_map] at kept
  exact kept

theorem haltsStep (conform : Conform smooth s) (acted : s.act? a = some s') : Halts s.session s'.session := by
  cases effect acted with
  | build p => exact Session.haltsSame fun k => congrArg (Option.map _) (Session.linkBuild s.session p.client k)
  | attach k sink _ => exact haltsAttach s.session k sink
  | setSink k mode => exact Session.haltsSame fun k' => Session.readsUpdate s.session k k' fun _ => rfl
  | takeQueue k _ =>
    rcases s.takeQueueCases k with same | ⟨c, -, -, shape⟩
    · rw [same]
      exact Session.haltsSame fun _ => rfl
    · rw [shape]
      exact Session.haltsSame fun _ => rfl
  | write _ found step => exact haltsWrite conform found step
  | call calls _ => exact haltsCall calls acted
  | _ => exact Session.haltsSame fun _ => rfl

def Watched (s : Scene) : Prop := ∀ k, s.session.reads? k = some false → s.hub.isOpen k = false

theorem watchedStep (conform : Conform smooth s) (before : s.Watched) (acted : s.act? a = some s') : s'.Watched := by
  intro k halted
  rcases haltsStep conform acted k halted with already | shut
  · obtain ⟨l, found, -⟩ := Option.map_eq_some_iff.mp already
    have known : k < s.hub.clients.length := conform.aligned ▸ Session.linkInside found
    exact (stir (effect acted)).shuts known (before k already)
  · exact shut

theorem openReads {l : Link} (watched : s.Watched) (found : s.session.link? h = some l)
    (isOpen : s.hub.isOpen h = true) : ∃ deadline, l.reading = some deadline := by
  cases reading : l.reading with
  | some deadline => exact ⟨deadline, rfl⟩
  | none =>
    have shut := watched h (by simp [Session.reads?, found, reading])
    exact absurd (isOpen.symm.trans shut) (by simp)

end Halt

section Run

structure Attended (config : HubConfig) (h : Handle) (s : Scene) : Prop where
  conform : Conform (fun _ => False) s
  peopled : Peopled config s
  watched : s.Watched
  answers : s.Answers h

theorem attendedStart (config : HubConfig) (h : Handle) : Attended config h (opening config) := by
  obtain ⟨conform, people⟩ := @peopled config [] _ rfl
  exact {
    conform := conform
    peopled := people
    watched := by simp [Watched, opening, Session.reads?, Session.link?]
    answers := by simp [Answers, opening, Session.outgoing?, Session.link?] }

theorem Attended.run (attended : Attended config h s) (ran : s.run? as = some s') (mild : ∀ a ∈ as, a.Answers h) :
    Attended config h s' := by
  refine runInduction attended ?_ ran
  intro t a t' member before acted
  have effect := effect acted
  exact {
    conform := before.conform.onward effect
    peopled := peopledStep before.conform before.peopled effect
    watched := watchedStep before.conform before.watched acted
    answers := answersStep before.conform before.answers (mild a member) effect }

theorem Attended.release (attended : Attended config h s) : Attended config h (s.onHub Hub.release) where
  conform := attended.conform.onHub (.same rfl)
  peopled := {
    settings := attended.peopled.settings
    closing := attended.peopled.closing
    lives := fun k c found => (attended.peopled.lives k c found).imp fun _ led =>
      ⟨led.1, led.2.same rfl rfl .rfl rfl⟩ }
  watched := attended.watched
  answers := attended.answers

/- The scenes after a run. At one point of it everyone may let go of the hub. -/
inductive Ran (config : HubConfig) : List Action → Scene → Prop where
  | kept {as : List Action} {s : Scene} (ran : (opening config).run? as = some s) : Ran config as s
  | dropped {before after : List Action} {s s' : Scene} (ran : (opening config).run? before = some s)
      (alone : (s.onHub Hub.release).run? after = some s') : Ran config (before ++ after) s'

theorem attended (ran : Ran config as s) (mild : ∀ a ∈ as, a.Answers h) : Attended config h s := by
  have start := attendedStart config h
  cases ran with
  | kept ran => exact start.run ran mild
  | dropped ran alone =>
    have before := start.run ran fun a member => mild a (List.mem_append_left _ member)
    exact before.release.run alone fun a member => mild a (List.mem_append_right _ member)

section Life
variable {life : Life} {l : Link}
variable (sound : life.Sound config.sendBufferSize) (lives : s.Lives h life)
include lives

theorem startedLink (started : life.client.started = true) (attached : h ∉ s.marked) :
    ∃ l, s.session.link? h = some l := by
  cases found : s.session.link? h with
  | some l => exact ⟨l, rfl⟩
  | none =>
    have idle : s.session.outgoing? h = none := by simp [Session.outgoing?, found]
    have absent : life.loop = .absent := lives.loop.trans (stageAbsent idle)
    rcases lives.started.mp started with marked | loop
    · exact absurd marked attached
    · exact absurd absent loop

include sound

theorem shutCancelled (shut : life.client.isOpen = false) (finished : h ∉ s.closing) :
    life.client.cancelled = true := by
  have once := sound.once
  rw [shut, lives.cancelling, List.count_eq_zero.mpr finished] at once
  refine sound.cancelled.mpr ?_
  rw [show life.cancels = 1 from once]
  exact Nat.one_pos

variable (attended : Attended config h s) (settled : s.session.settled = true)
variable (found : s.session.link? h = some l)
include attended settled found

theorem settledLink : life.client.state = .open ∧ l.readDone = false ∧ l.writeDone = false ∧ life.client.queue = [] ∨
    life.client.state = .closed ∧ l.writeDone = true ∧ (h ∉ s.closing → l.readDone = true) := by
  have answers : l.sink.Answers := attended.answers l.outgoing (by simp [Session.outgoing?, found])
  rcases Session.settledWriter settled found lives.client answers with ⟨point, queue, sender⟩ | point
  · left
    have isOpen : life.client.isOpen = true := sound.honest.symm.trans sender
    have same : s.hub.isOpen h = life.client.isOpen := by simp [Hub.isOpen, lives.client]
    obtain ⟨deadline, reading⟩ := openReads attended.watched found (same.trans isOpen)
    exact ⟨of_decide_eq_true isOpen, by simp [Link.readDone, reading], by simp [Link.writeDone, point], queue⟩
  · right
    have ended : life.loop = .ended := by
      rw [lives.loop, stageLink found, point]
      rfl
    have closed := sound.ended ended
    have shut : life.client.isOpen = false := by simp [Client.isOpen, closed]
    refine ⟨closed, by simp [Link.writeDone, point], fun finished => ?_⟩
    exact Session.settledReader settled found lives.client (shutCancelled sound lives shut finished)

end Life

/-- When no loop can go on before the clock moves, a client whose outgoing side never stalled is not half closed.
If it was started, it is open with both loops at work and an empty queue, or closed with both loops ended. Only a
call on it that is half done can be in between: a start call that has yet to set the loops going, or a close call
that has yet to cancel them. -/
theorem settledIsWhole (ran : Ran config as s) (mild : ∀ a ∈ as, a.Answers h)
    (settled : s.session.settled = true) {c : Client} (found : s.hub.client? h = some c) :
    h ∉ s.marked → c.state ≠ .closing ∧ (c.started = true → ∃ l, s.session.link? h = some l ∧
      (c.state = .open ∧ l.readDone = false ∧ l.writeDone = false ∧ c.queue = [] ∨
        c.state = .closed ∧ l.writeDone = true ∧ (h ∉ s.closing → l.readDone = true))) := by
  intro attached
  have attended := attended ran mild
  obtain ⟨life, lived, lives⟩ := attended.peopled.lives h c found
  cases Option.some.inj (lives.client.symm.trans found)
  have sound := Life.livedSound lived
  have whole : life.client.started = true → ∃ l, s.session.link? h = some l ∧ _ :=
    fun started => (startedLink lives started attached).imp fun l linked =>
      ⟨linked, settledLink sound lives attended settled linked⟩
  refine ⟨fun closing => ?_, whole⟩
  obtain ⟨l, -, ⟨isOpen, -⟩ | ⟨closed, -⟩⟩ := whole (sound.begun closing)
  · exact absurd (closing.symm.trans isOpen) (by simp)
  · exact absurd (closing.symm.trans closed) (by simp)

def twoEndedOneOpen : List Action := [
  .build { id := "a", user := "u", tenant := "t" }, .takeQueue 0, .markStarted 0, .attach 0 .fail,
  .build { id := "b", user := "v", tenant := "t" }, .beginClose 1, .finishClose 1,
  .takeQueue 1, .markStarted 1, .attach 1 .ok,
  .build { id := "c", user := "w", tenant := "t" }, .takeQueue 2, .markStarted 2, .attach 2 .ok, .send 2 [104, 105],
  .receive 0 .finish, .turn (.readNext 0), .turn (.takeMessage 0), .turn (.write 0), .turn (.write 0),
  .turn (.readCancelled 1), .turn (.takeMessage 1), .turn (.write 1), .turn (.write 1), .turn (.write 1),
  .turn (.takeMessage 2), .turn (.write 2), .turn (.write 2)]

theorem noneIsHalfClosed : ∃ s, (opening {}).run? twoEndedOneOpen = some s ∧ s.session.settled = true ∧
    s.hub.clients.map Client.state = [.closed, .closed, .open] ∧
    ∀ h c, s.hub.client? h = some c → ∃ l, s.session.link? h = some l ∧
      (c.state = .open ∧ l.readDone = false ∧ l.writeDone = false ∧ c.queue = [] ∨
        c.state = .closed ∧ l.writeDone = true ∧ l.readDone = true) := by
  have shown : ((opening {}).run? twoEndedOneOpen).map (fun s => (s.session.settled, s.marked, s.closing,
      s.hub.clients.map Client.state, s.hub.clients.map Client.started)) =
        some (true, [], [], [.closed, .closed, .open], [true, true, true]) := by rfl
  obtain ⟨s, ran, shown⟩ := Option.map_eq_some_iff.mp shown
  simp only [Prod.mk.injEq] at shown
  obtain ⟨settled, marked, closing, states, starts⟩ := shown
  have ok : SinkMode.ok.Answers := ⟨by decide, by decide⟩
  have fail : SinkMode.fail.Answers := ⟨by decide, by decide⟩
  have mild : ∀ h, ∀ a ∈ twoEndedOneOpen, a.Answers h := by simp [twoEndedOneOpen, Action.Answers, ok, fail]
  refine ⟨s, ran, settled, states, fun h c found => ?_⟩
  have started : c.started = true := by
    have member := List.mem_map_of_mem (f := Client.started) (List.mem_of_getElem? found)
    simpa [starts] using member
  have whole := (settledIsWhole (.kept ran) (mild h) settled found (by simp [marked])).2 started
  simpa [closing] using whole

end Run

end Scene
end RelayHub
