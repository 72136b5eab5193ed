import RelayHub.Proofs.Client.Intake
import RelayHub.Proofs.Scene.Reaching

/-! What still goes out when a client is closed. A write loop that ends marks its client closed, and nothing goes
out behind that. A close call on a client whose start call has not come that far marks it closed too, and the start
call, which looks at the queue only, goes on to set the write loop going. -/
namespace RelayHub

namespace Client
variable {capacity : Nat} {c c' : Client}

theorem beginCloseClosed (closed : c.beginClose.state = .closed) : c.state = .closed ∨ c.started = false := by
  unfold beginClose at closed
  split at closed
  · cases started : c.started with
    | false => exact .inr rfl
    | true => simp [started] at closed
  · exact .inl closed

theorem dealtClosed (dealt : Dealt capacity c c') : c'.started = c.started ∧
    (c'.state = .closed → c.state = .closed ∨ c.started = false) := by
  induction dealt with
  | refl c => exact ⟨rfl, .inl⟩
  | offered c m =>
    obtain ⟨queue, accepted, offered⟩ := c.offerKeeps capacity m
    rw [offered]
    exact ⟨rfl, .inl⟩
  | closed _ => exact ⟨Life.beginCloseStarted _, beginCloseClosed⟩
  | trans _ _ first second =>
    refine ⟨second.1.trans first.1, fun closed => ?_⟩
    rcases second.2 closed with closed | unstarted
    · exact first.2 closed
    · exact .inr (first.1.symm.trans unstarted)

end Client

def Action.attaches (k : Handle) : Action → Bool
  | .attach h _ => h = k
  | _ => false

namespace Scene

def isClosed (s : Scene) (k : Handle) : Bool := (s.hub.client? k).any (·.state = .closed)

def frames (s : Scene) (k : Handle) : List Frame := ((s.session.outgoing? k).map (·.frames)).getD []

def data (s : Scene) (k : Handle) : List Frame := ((s.session.outgoing? k).map (·.data)).getD []

/- Some start call sets the loops of the client going when it is closed already. -/
def startsLate (k : Handle) : Scene → List Action → Bool
  | _, [] => false
  | s, a :: rest => (s.act? a).any fun t => a.attaches k && s.isClosed k || t.startsLate k rest

section Step
variable {config : HubConfig} {s s' : Scene} {a : Action} {k : Handle} {l : Life}

theorem closedIff : s.isClosed k = true ↔ ∃ c, s.hub.client? k = some c ∧ c.state = .closed := by
  simp [isClosed, Option.any_eq_true]

theorem closedBeside (lives : s.Lives k l) (closed : s'.isClosed k = true) (working : s'.stage k = .running)
    (stage : s'.stage k = s.stage k) (moved : ∀ c', s'.hub.client? k = some c' → c'.state = .closed →
      l.client.state = .closed ∨ l.client.started = false) : s.isClosed k = true ∧ s.stage k = .running := by
  have running : s.stage k = .running := stage.symm.trans working
  have started : l.client.started = true := lives.started.mpr (.inr (by simp [lives.loop, running]))
  obtain ⟨c', found, state⟩ := closedIff.mp closed
  rcases moved c' found state with before | unstarted
  · exact ⟨closedIff.mpr ⟨_, lives.client, before⟩, running⟩
  · exact absurd (started.symm.trans unstarted) (by simp)

theorem closedDealt (lives : s.Lives k l) (closed : s'.isClosed k = true) (working : s'.stage k = .running)
    (stage : s'.stage k = s.stage k) (dealt : s.hub.Dealt s'.hub) :
    s.isClosed k = true ∧ s.stage k = .running := by
  refine closedBeside lives closed working stage fun c' found state => ?_
  obtain ⟨x, found', moved⟩ := dealt.client k _ lives.client
  cases found.symm.trans found'
  exact (Client.dealtClosed moved).2 state

theorem closedUpdate (lives : s.Lives k l) (closed : s'.isClosed k = true) (working : s'.stage k = .running)
    (stage : s'.stage k = s.stage k) {h : Handle} {f : Client → Client}
    (clients : s'.hub.client? k = (s.hub.update h f).client? k)
    (moved : k = h → (f l.client).state = .closed → l.client.state = .closed ∨ l.client.started = false) :
    s.isClosed k = true ∧ s.stage k = .running := by
  refine closedBeside lives closed working stage fun c' found state => ?_
  rw [clients, Hub.clientUpdate, lives.client] at found
  split at found
  · rename_i here
    cases found
    exact moved here state
  · cases found
    exact .inl state

theorem closedWrite (lives : s.Lives k l) {h : Handle} {link : Link} {session : Session}
    (found : s.session.link? h = some link) (step : Session.WriteStep s.session h link session)
    (closed : ({ s with session } : Scene).isClosed k = true)
    (working : ({ s with session } : Scene).stage k = .running) :
    s.isClosed k = true ∧ s.stage k = .running := by
  by_cases here : k = h
  · subst here
    obtain ⟨c', link', held', found', -, -, moved⟩ := Session.writeMoves found lives.client step
    have stage : s.stage k = .running :=
      (stageLink found).trans (WritePoint.working (Session.writeWorking step))
    have point : link'.point.stage = .running := (stageLink found').symm.trans working
    refine closedBeside lives closed working (working.trans stage.symm) fun x found state => .inl ?_
    cases held'.symm.trans found
    generalize link'.point = p at moved point
    cases moved with
    | on _ => exact state
    | took _ taken =>
      obtain ⟨rest, -, rfl⟩ := Client.dequeueTaken taken
      exact state
    | through _ => exact absurd point (by simp [WritePoint.stage])
  · have apart := Session.writeApart step
    refine closedBeside lives closed working (stageOutgoing (Conform.outgoingApart apart here))
      fun x found state => .inl ?_
    have same : s.hub.client? k = some x := (apart.client k here).symm.trans found
    cases lives.client.symm.trans same
    exact state

theorem closedKnown (effect : Effect s a s') (closed : s'.isClosed k = true) : k < s.hub.clients.length := by
  obtain ⟨c, found, state⟩ := closedIff.mp closed
  rcases (steady effect).2 with same | ⟨p, rfl⟩
  · exact same ▸ (List.getElem?_eq_some_iff.mp found).1
  · refine Nat.lt_of_not_le fun out => ?_
    have new := (List.getElem?_append_right out).symm.trans found
    rw [List.mem_singleton.mp (List.mem_of_getElem? new)] at state
    exact absurd state (by simp [Profile.client])

theorem closedAtWork (peopled : Peopled config s) (effect : Effect s a s') (closed : s'.isClosed k = true)
    (working : s'.stage k = .running) : s.isClosed k = true ∧ (s.stage k = .running ∨ a.attaches k = true) := by
  have known := closedKnown effect closed
  obtain ⟨l, -, lives⟩ := peopled.lives k _ (List.getElem?_eq_getElem known)
  have before : s.isClosed k = true ∧ s.stage k = .running →
      s.isClosed k = true ∧ (s.stage k = .running ∨ a.attaches k = true) := And.imp_right .inl
  have dealt : ∀ (_ : s'.stage k = s.stage k) (_ : s.hub.Dealt s'.hub), s.isClosed k = true ∧ _ :=
    fun stage dealt => before (closedDealt lives closed working stage dealt)
  -- only the end of a start call sets a loop going; behind any other action the client was closed before
  cases effect with
  | build p =>
    have stage : (s.build p).stage k = s.stage k :=
      stageOutgoing (congrArg (Option.map Link.outgoing) (Session.linkBuild s.session p.client k))
    refine before (closedBeside lives closed working stage fun c' found state => .inl ?_)
    have same : s.hub.client? k = some c' := (List.getElem?_append_left known).symm.trans found
    cases lives.client.symm.trans same
    exact state
  | beginClose h _ => exact before (closedUpdate lives closed working rfl rfl fun _ => Client.beginCloseClosed)
  | finishClose h _ =>
    have clients := congrArg (·[k]?) (Hub.finishCloseClients s.hub h)
    exact before (closedUpdate lives closed working rfl clients fun _ => .inl)
  | takeQueue h _ =>
    rcases s.takeQueueCases h with same | ⟨c, found, free, shape⟩
    · rw [same] at closed working
      exact ⟨closed, .inl working⟩
    · rw [shape] at closed working
      refine before (closedUpdate lives closed working rfl rfl fun here state => .inl ?_)
      subst here
      cases found.symm.trans lives.client
      exact state
  | markStarted h _ => exact before (closedUpdate lives closed working rfl rfl fun _ => .inl)
  | setMetadata h key value _ => exact before (closedUpdate lives closed working rfl rfl fun _ => .inl)
  | attach h sink _ =>
    by_cases here : k = h
    · exact ⟨closed, .inr (decide_eq_true here.symm)⟩
    · have stage : (s.attach h sink).stage k = s.stage k :=
        stageOutgoing (Conform.outgoingApart (Session.Apart.setLink s.session h _) here)
      exact ⟨closed, .inl (stage.symm.trans working)⟩
  | register h _ => exact dealt rfl (.register s.hub h)
  | flush => exact dealt rfl (.flush s.hub)
  | shutdown => exact dealt rfl (.shutdown s.hub)
  | begin began => exact dealt rfl (.beginRun began)
  | loop stepped => exact dealt rfl (.loopStep (Hub.loopSteps stepped))
  | setSink h mode => exact ⟨closed, .inl ((stageSetSink s h k mode).symm.trans working)⟩
  | run | pass => exact ⟨closed, .inl working⟩
  | write _ found step => exact before (closedWrite lives found step closed working)
  | call _ aside => exact dealt (stageOutgoing (aside.outgoing k)) (.calls aside.hub)

variable {smooth : Handle → Prop} (conform : Conform smooth s) (effect : Effect s a s')
include effect

theorem idleStays (idle : s.session.outgoing? k = none) (apart : a.attaches k = false) :
    s'.session.outgoing? k = none := by
  cases effect with
  | build p => exact (congrArg (Option.map Link.outgoing) (Session.linkBuild s.session p.client k)).trans idle
  | attach h sink _ =>
    have other : k ≠ h := fun here => of_decide_eq_false apart here.symm
    exact (Conform.outgoingApart (Session.Apart.setLink s.session h _) other).trans idle
  | takeQueue h _ =>
    rcases s.takeQueueCases h with same | ⟨c, -, -, shape⟩
    · rwa [same]
    · rwa [shape]
  | setSink h mode =>
    simp only [Session.outgoing?, Option.map_eq_none_iff] at idle ⊢
    simp only [Session.setSink, Session.linkUpdate, idle, Option.map_none, ite_self]
  | @write _ h l session _ found step =>
    have other : k ≠ h := by
      rintro rfl
      simp [Session.outgoing?, found] at idle
    exact (Conform.outgoingApart (Session.writeApart step) other).trans idle
  | call _ aside => exact (aside.outgoing k).trans idle
  | _ => exact idle

include conform

theorem endedStays (ended : s.stage k = .ended) : s'.stage k = .ended ∧ s'.frames k = s.frames k := by
  cases found : s.session.link? k with
  | none => exact absurd (ended.symm.trans (stageAbsent (by simp [Session.outgoing?, found]))) (by simp)
  | some l =>
    have finished : l.point = .finished := WritePoint.stageEnded.mp ((stageLink found).symm.trans ended)
    rcases outgoingMoves conform found effect with ⟨mode, same, -⟩ | step
    · have before : s.session.outgoing? k = some l.outgoing := by simp [Session.outgoing?, found]
      simp only [stage, frames, same, before, Option.map_some, Option.getD_some]
      exact ⟨WritePoint.stageEnded.mpr finished, rfl⟩
    · exact absurd finished (Session.writeWorking step)

theorem framesStay (idle : s.stage k ≠ .running) (apart : a.attaches k = false) : s'.frames k = s.frames k := by
  cases found : s.session.outgoing? k with
  | none => rw [frames, frames, idleStays effect found apart, found]
  | some o =>
    have ended : s.stage k = .ended := by
      simp only [stage, found, Option.map_some, Option.getD_some] at idle ⊢
      by_cases finished : o.point = .finished
      · exact WritePoint.stageEnded.mpr finished
      · exact absurd (WritePoint.working finished) idle
    exact (endedStays conform effect ended).2

end Step

section Run
variable {config : HubConfig} {as more : List Action} {a : Action} {s t : Scene} {k : Handle} {c : Client}

theorem startsLateAppend (ran : s.run? as = some t) :
    s.startsLate k (as ++ more) = (s.startsLate k as || t.startsLate k more) := by
  induction as generalizing s with
  | nil =>
    cases ran
    rfl
  | cons a rest ih =>
    obtain ⟨next, acted, later⟩ := Option.bind_eq_some_iff.mp ran
    simp only [List.cons_append, startsLate, acted, Option.any_some, ih later, Bool.or_assoc]

theorem lateStartBefore (conform : Conform (fun _ => False) s) (peopled : Peopled config s)
    (fresh : s.isClosed k = true → s.stage k ≠ .running) (ran : s.run? as = some t) (closed : t.isClosed k = true)
    (working : t.stage k = .running) : s.startsLate k as = true := by
  induction as generalizing s with
  | nil =>
    cases ran
    exact absurd working (fresh closed)
  | cons a rest ih =>
    obtain ⟨next, acted, later⟩ := Option.bind_eq_some_iff.mp ran
    have effect := effect acted
    simp only [startsLate, acted, Option.any_some, Bool.or_eq_true, Bool.and_eq_true]
    by_cases there : next.isClosed k = true ∧ next.stage k = .running
    · obtain ⟨before, working | attaches⟩ := closedAtWork peopled effect there.1 there.2
      · exact absurd working (fresh before)
      · exact .inl ⟨attaches, before⟩
    · exact .inr (ih (conform.onward effect) (peopledStep conform peopled effect)
        (fun closed working => there ⟨closed, working⟩) later)

theorem attachWorks (conform : Conform (fun _ => False) s) (attaches : a.attaches k = true)
    (acted : s.act? a = some t) : t.isClosed k = s.isClosed k ∧ t.stage k = .running := by
  cases a with
  | attach h sink =>
    obtain rfl : h = k := of_decide_eq_true attaches
    obtain ⟨begun, rfl⟩ := ifSome acted
    obtain ⟨-, c, found, -⟩ := conform.given h (List.mem_append_right _ begun)
    have inside : h < s.session.links.length := by
      rw [conform.aligned]
      exact (List.getElem?_eq_some_iff.mp found).1
    refine ⟨rfl, ?_⟩
    simp [stage, Scene.attach, Session.attach, Session.outgoing?, Session.linkSet, inside, Link.outgoing,
      WritePoint.stage]
  | _ => contradiction

theorem lateStartWorks (conform : Conform (fun _ => False) s) (late : s.startsLate k as = true) :
    ∃ done rest u, as = done ++ rest ∧ s.run? done = some u ∧ u.isClosed k = true ∧ u.stage k = .running := by
  induction as generalizing s with
  | nil => simp [startsLate] at late
  | cons a rest ih =>
    obtain ⟨next, acted, late⟩ := (Option.any_eq_true ..).mp late
    rcases Bool.or_eq_true_iff.mp late with here | later
    · obtain ⟨attaches, closed⟩ := Bool.and_eq_true_iff.mp here
      obtain ⟨same, working⟩ := attachWorks conform attaches acted
      refine ⟨[a], rest, next, rfl, ?_, same.trans closed, working⟩
      simp only [run?, acted, Option.bind_some]
    · obtain ⟨done, rest, u, rfl, ran, stands⟩ := ih (conform.onward (effect acted)) later
      refine ⟨a :: done, rest, u, rfl, ?_, stands⟩
      rw [run?, acted, Option.bind_some, ran]

section Closed
variable (conform : Conform (fun _ => False) s) (peopled : Peopled config s)
include conform peopled

theorem closedStays (known : s.hub.client? k = some c) (closed : c.state = .closed) (ran : s.run? as = some t) :
    ∃ c', t.hub.client? k = some c' ∧ c'.state = .closed ∧ c'.arrived = c.arrived := by
  obtain ⟨l, lived, lives⟩ := peopled.lives k c known
  cases Option.some.inj (lives.client.symm.trans known)
  obtain ⟨l', later, lives', -⟩ := livesLater conform peopled lives ran
  have gone : l.client.sender = false := by simp [(Life.livedSound lived).honest, Client.isOpen, closed]
  refine ⟨l'.client, lives'.client, ?_, ((Life.laterOnward later).silent gone).2⟩
  have forward := Life.laterForward later
  rw [closed] at forward
  cases state : l'.client.state with
  | closed => rfl
  | «open» | closing => exact absurd (state ▸ forward) (by decide)

theorem framesStayAlong (known : s.hub.client? k = some c) (closed : c.state = .closed) (idle : s.stage k ≠ .running)
    (ran : s.run? as = some t) (punctual : s.startsLate k as = false) :
    t.stage k ≠ .running ∧ t.frames k = s.frames k := by
  induction as generalizing s c with
  | nil =>
    cases ran
    exact ⟨idle, rfl⟩
  | cons a rest ih =>
    obtain ⟨next, acted, later⟩ := Option.bind_eq_some_iff.mp ran
    have effect := effect acted
    have now : s.isClosed k = true := closedIff.mpr ⟨c, known, closed⟩
    simp only [startsLate, acted, Option.any_some, now, Bool.and_true, Bool.or_eq_false_iff] at punctual
    obtain ⟨apart, punctual⟩ := punctual
    have one : s.run? [a] = some next := by simp only [run?, acted, Option.bind_some]
    obtain ⟨c', known', closed', -⟩ := closedStays conform peopled known closed one
    have idle' : next.stage k ≠ .running := fun working => by
      rcases (closedAtWork peopled effect (closedIff.mpr ⟨c', known', closed'⟩) working).2 with working | attaches
      · exact idle working
      · exact absurd (apart.symm.trans attaches) (by simp)
    obtain ⟨idle'', same⟩ := ih (conform.onward effect) (peopledStep conform peopled effect) known' closed' idle'
      later punctual
    exact ⟨idle'', same.trans (framesStay conform effect idle apart)⟩

omit peopled in
theorem endedStaysAlong (ended : s.stage k = .ended) (ran : s.run? as = some t) :
    t.stage k = .ended ∧ t.frames k = s.frames k := by
  refine (conform.along (P := fun u => u.stage k = .ended ∧ u.frames k = s.frames k) ⟨ended, rfl⟩ ?_ ran).2
  rintro u a u' conform ⟨ended, same⟩ acted
  obtain ⟨ended', same'⟩ := endedStays conform (effect acted) ended
  exact ⟨ended', same'.trans same⟩

end Closed

theorem wireSays (conform : Conform (fun _ => False) s) (known : s.hub.client? k = some c) :
    (∃ n, s.data k = (c.arrived.take n).map Frame.ofBytes) ∧
      ∃ before, .close ∉ before ∧ (s.frames k = before ∨ s.frames k = before ++ [.close]) := by
  cases wired : s.session.outgoing? k with
  | none => exact ⟨⟨0, by simp [data, wired]⟩, [], by simp, .inl (by simp [frames, wired])⟩
  | some o =>
    obtain ⟨c', found, -, -, wire⟩ := conform.wired k o wired
    cases known.symm.trans found
    simp only [data, frames, wired, Option.map_some, Option.getD_some]
    refine ⟨wire.prefixWritten, ?_⟩
    rcases wire.closeWritten with silent | ⟨-, -, before, last, silent⟩
    · exact ⟨_, silent, .inl rfl⟩
    · exact ⟨before, silent, .inr last⟩

/-- A closed client stays closed and takes no message any more. What was written for it is final when its write loop
has ended; and it is final from the moment at which it is closed, with no write loop at work, in every run in which
no start call sets its loops going after that moment. Those start calls are all there is to it: behind one, the loop
of a closed client is at work, and writes what was accepted before, in order, and at most one close frame at the
end. -/
theorem closedIsFinal (ran : (opening config).run? as = some s) (known : s.hub.client? k = some c)
    (closed : c.state = .closed) (on : s.run? more = some t) :
    (∃ c', t.hub.client? k = some c' ∧ c'.state = .closed ∧ c'.arrived = c.arrived) ∧
    (s.stage k = .ended → t.stage k = .ended ∧ t.frames k = s.frames k) ∧
    ((opening config).startsLate k (as ++ more) = false → s.stage k ≠ .running ∧ t.stage k ≠ .running ∧
      t.frames k = s.frames k) ∧
    ((opening config).startsLate k (as ++ more) = true ↔ ∃ done rest u, as ++ more = done ++ rest ∧
      (opening config).run? done = some u ∧ u.isClosed k = true ∧ u.stage k = .running) ∧
    (∃ n, t.data k = (c.arrived.take n).map Frame.ofBytes) ∧
    ∃ before, .close ∉ before ∧ (t.frames k = before ∨ t.frames k = before ++ [.close]) := by
  obtain ⟨conform, peopled⟩ := peopled ran
  obtain ⟨conform', -⟩ := peopledRun conform peopled on
  have started : Conform (fun _ => False) (opening config) ∧ Peopled config (opening config) :=
    @Scene.peopled config [] _ rfl
  have fresh : (opening config).isClosed k = true → (opening config).stage k ≠ .running := by
    simp [isClosed, opening, hub, Hub.client?]
  obtain ⟨c', known', closed', arrived⟩ := closedStays conform peopled known closed on
  have carried := wireSays conform' known'
  rw [arrived] at carried
  refine ⟨⟨c', known', closed', arrived⟩, fun ended => endedStaysAlong conform ended on, fun punctual => ?_,
    ⟨lateStartWorks started.1, ?_⟩, carried⟩
  · rw [startsLateAppend ran, Bool.or_eq_false_iff] at punctual
    have idle : s.stage k ≠ .running := fun working => by
      have late := lateStartBefore started.1 started.2 fresh ran (closedIff.mpr ⟨c, known, closed⟩) working
      exact absurd (punctual.1.symm.trans late) (by simp)
    exact ⟨idle, framesStayAlong conform peopled known closed idle on punctual.2⟩
  · rintro ⟨done, rest, u, whole, reached, closed, working⟩
    rw [whole, startsLateAppend reached, Bool.or_eq_true_iff]
    exact .inl (lateStartBefore started.1 started.2 fresh reached closed working)

def closedByLoop : List Action := [
  .build { id := "c", user := "u", tenant := "t" }, .takeQueue 0, .markStarted 0, .attach 0 .ok, .send 0 [104, 105],
  .beginClose 0, .finishClose 0, .turn (.takeMessage 0), .turn (.write 0), .turn (.write 0), .turn (.takeMessage 0),
  .turn (.write 0), .turn (.write 0), .turn (.write 0)]

theorem closeFrameIsLast : ∃ s t c, (opening {}).run? closedByLoop = some s ∧ s.hub.client? 0 = some c ∧
    c.state = .closed ∧ s.run? [.send 0 [1], .beginClose 0, .takeQueue 0, .pass 60000000000, .setSink 0 .ok] = some t ∧
    t.stage 0 ≠ .running ∧ t.frames 0 = [.text "hi", .close] := by
  have shown : ((opening {}).run? closedByLoop).map (fun s => ((s.hub.client? 0).map Client.state, s.frames 0,
      (s.run? [.send 0 [1], .beginClose 0, .takeQueue 0, .pass 60000000000, .setSink 0 .ok]).isSome)) =
        some (some .closed, [.text "hi", .close], true) := by rfl
  obtain ⟨s, ran, shown⟩ := Option.map_eq_some_iff.mp shown
  simp only [Prod.mk.injEq] at shown
  obtain ⟨state, said, possible⟩ := shown
  obtain ⟨c, known, closed⟩ := Option.map_eq_some_iff.mp state
  obtain ⟨t, on⟩ := Option.isSome_iff_exists.mp possible
  obtain ⟨-, idle, same⟩ := (closedIsFinal ran known closed on).2.2.1 (by rfl)
  exact ⟨s, t, c, ran, known, closed, on, idle, same.trans said⟩

/- A client that is closed with a message in its queue, and started behind that. -/
theorem closedIsNotFinal : ¬ ∀ config as s k c more t, (opening config).run? as = some s →
    s.hub.client? k = some c → c.state = .closed → s.run? more = some t →
    t.frames k = s.frames k ∧ ∀ l, t.session.link? k = some l → l.point.isTalking = false := by
  intro silent
  have shown : ((opening {}).run? [.build { id := "c", user := "u", tenant := "t" }, .send 0 [97], .beginClose 0,
      .finishClose 0]).map (fun s => ((s.hub.client? 0).map Client.state, s.frames 0,
        (s.run? [.takeQueue 0, .markStarted 0, .attach 0 .noFlush, .turn (.takeMessage 0), .turn (.write 0)]).map
          fun t => t.frames 0)) = some (some .closed, [], some [.text "a"]) := by rfl
  obtain ⟨s, ran, shown⟩ := Option.map_eq_some_iff.mp shown
  simp only [Prod.mk.injEq] at shown
  obtain ⟨state, nothing, said⟩ := shown
  obtain ⟨c, known, closed⟩ := Option.map_eq_some_iff.mp state
  obtain ⟨t, on, said⟩ := Option.map_eq_some_iff.mp said
  have same := (silent {} _ s 0 c _ t ran known closed on).1
  rw [said, nothing] at same
  contradiction

end Run
end Scene
end RelayHub
