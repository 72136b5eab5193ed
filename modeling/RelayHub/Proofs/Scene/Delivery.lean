import RelayHub.Proofs.Scene.Effect
import RelayHub.Proofs.Session.Sending

/-! In every run each started client's wire carries the messages that were accepted for it, in order and
each once, up to some point, and at most one close frame, behind all of them. -/
namespace RelayHub
open Session (Apart)

def Action.Spares (h : Handle) : Action → Prop
  | .attach k sink => k = h → sink = .ok
  | .setSink k mode => k = h → mode = .ok
  | _ => True

namespace Scene

structure Conform (smooth : Handle → Prop) (s : Scene) : Prop where
  aligned : s.session.links.length = s.hub.clients.length
  waiting : ∀ h c, s.hub.client? h = some c → s.session.outgoing? h = none → c.arrived = c.queue
  tokens : (s.taken ++ s.marked).Nodup
  given : ∀ h ∈ s.taken ++ s.marked, s.session.outgoing? h = none ∧
    ∃ c, s.hub.client? h = some c ∧ c.queueTaken = true
  wired : ∀ h o, s.session.outgoing? h = some o → ∃ c, s.hub.client? h = some c ∧
    c.queueTaken = true ∧ (smooth h → o.sink = .ok) ∧ Wire (smooth h) c o

namespace Conform
variable {smooth : Handle → Prop} {s s' : Scene}

theorem start (smooth : Handle → Prop) (c : HubConfig) : Conform smooth (opening c) where
  aligned := rfl
  waiting h c found := by simp [opening, hub, Hub.client?] at found
  tokens := by simp [opening]
  given h member := by simp [opening] at member
  wired h o found := by simp [opening, Session.outgoing?, Session.link?] at found

theorem later (a : Conform smooth s) (later : s.hub.Later s'.hub)
    (outgoing : ∀ k, s'.session.outgoing? k = s.session.outgoing? k)
    (links : s'.session.links.length = s.session.links.length)
    (tokens : (s'.taken ++ s'.marked).Perm (s.taken ++ s.marked)) : Conform smooth s' where
  aligned := by rw [links, a.aligned, later.length]
  waiting h c' found idle := by
    rw [outgoing] at idle
    have inside : h < s.hub.clients.length := by
      rw [← later.length]
      exact (List.getElem?_eq_some_iff.mp found).1
    have held : s.hub.client? h = some s.hub.clients[h] := List.getElem?_eq_getElem inside
    obtain ⟨c'', found', next⟩ := later.client h _ held
    cases found.symm.trans found'
    obtain ⟨new, queue, arrived, -⟩ := next.more
    rw [arrived, queue, a.waiting h _ held idle]
  tokens := tokens.nodup_iff.mpr a.tokens
  given h member := by
    obtain ⟨idle, c, found, taken⟩ := a.given h (tokens.mem_iff.mp member)
    obtain ⟨c', found', next⟩ := later.client h c found
    exact ⟨(outgoing h).trans idle, c', found', next.taken taken⟩
  wired h o found := by
    rw [outgoing] at found
    obtain ⟨c, held, taken, calm, wire⟩ := a.wired h o found
    obtain ⟨c', held', next⟩ := later.client h c held
    exact ⟨c', held', next.taken taken, calm, wire.later next⟩

theorem onHub (a : Conform smooth s) {f : Hub → Hub} (later : s.hub.Later (f s.hub)) :
    Conform smooth (s.onHub f) := a.later later (fun _ => rfl) rfl (.refl _)

theorem build (a : Conform smooth s) (p : Profile) :
    Conform smooth { s with session := (s.session.build p.client).2 } := by
  have old : ∀ k c, s.hub.client? k = some c → (s.hub.clients ++ [p.client])[k]? = some c := by
    intro k c found
    exact (List.getElem?_append_left (List.getElem?_eq_some_iff.mp found).1).trans found
  have links : ∀ k, (s.session.build p.client).2.outgoing? k = s.session.outgoing? k :=
    fun k => congrArg (Option.map Link.outgoing) (Session.linkBuild s.session p.client k)
  exact {
    aligned := by simp [Session.build, Scene.hub, Hub.build, a.aligned]
    waiting := by
      intro h c found idle
      have found' : (s.hub.clients ++ [p.client])[h]? = some c := found
      rw [List.getElem?_append] at found'
      split at found'
      · exact a.waiting h c found' ((links h).symm.trans idle)
      · have fresh : c = p.client := by
          have inside := (List.getElem?_eq_some_iff.mp found').1
          have first : h - s.hub.clients.length = 0 := by simpa using inside
          simpa [first] using found'.symm
        subst fresh
        rfl
    tokens := a.tokens
    given := by
      intro h member
      obtain ⟨idle, c, found, taken⟩ := a.given h member
      exact ⟨(links h).trans idle, c, old h c found, taken⟩
    wired := by
      intro h o found
      obtain ⟨c, held, wired⟩ := a.wired h o ((links h).symm.trans found)
      exact ⟨c, old h c held, wired⟩ }

theorem outgoingApart {h k : Handle} {t t' : Session} (apart : Apart h t t') (other : k ≠ h) :
    t'.outgoing? k = t.outgoing? k := congrArg (Option.map Link.outgoing) (apart.link k other)

theorem changedAt (a : Conform smooth s) {h : Handle} (apart : Apart h s.session s'.session)
    (tokens : (s'.taken ++ s'.marked).Nodup)
    (others : ∀ k ∈ s'.taken ++ s'.marked, k ≠ h → k ∈ s.taken ++ s.marked)
    (waiting : ∀ c, s'.hub.client? h = some c → s'.session.outgoing? h = none → c.arrived = c.queue)
    (given : h ∈ s'.taken ++ s'.marked → s'.session.outgoing? h = none ∧
      ∃ c, s'.hub.client? h = some c ∧ c.queueTaken = true)
    (wired : ∀ o, s'.session.outgoing? h = some o → ∃ c, s'.hub.client? h = some c ∧
      c.queueTaken = true ∧ (smooth h → o.sink = .ok) ∧ Wire (smooth h) c o) : Conform smooth s' where
  aligned := by
    have links := apart.links
    have clients : s'.hub.clients.length = s.hub.clients.length := apart.clients
    rw [links, clients, a.aligned]
  waiting k c found idle := by
    by_cases here : k = h
    · subst here
      exact waiting c found idle
    · exact a.waiting k c ((apart.client k here).symm.trans found)
        ((outgoingApart apart here).symm.trans idle)
  tokens := tokens
  given k member := by
    by_cases here : k = h
    · subst here
      exact given member
    · obtain ⟨idle, c, found, taken⟩ := a.given k (others k member here)
      exact ⟨(outgoingApart apart here).trans idle, c, (apart.client k here).trans found, taken⟩
  wired k o found := by
    by_cases here : k = h
    · subst here
      exact wired o found
    · obtain ⟨c, held, rest⟩ := a.wired k o ((outgoingApart apart here).symm.trans found)
      exact ⟨c, (apart.client k here).trans held, rest⟩

theorem takeQueue (a : Conform smooth s) (h : Handle) : Conform smooth (s.takeQueue h) := by
  rcases s.takeQueueCases h with same | ⟨c, found, free, shape⟩
  · rw [same]
    exact a
  -- a client whose queue is still free has no connection, and no start call is under way for it
  have idle : s.session.outgoing? h = none := by
    cases wired : s.session.outgoing? h with
    | none => rfl
    | some o =>
      obtain ⟨c', found', taken, -⟩ := a.wired h o wired
      cases found.symm.trans found'
      exact absurd (free.symm.trans taken) (by simp)
  have fresh : h ∉ s.taken ++ s.marked := by
    intro member
    obtain ⟨-, c', found', taken⟩ := a.given h member
    cases found.symm.trans found'
    exact absurd (free.symm.trans taken) (by simp)
  have held : (s.takeQueue h).hub.client? h = some { c with queueTaken := true } := by
    have updated := Hub.clientUpdate s.hub h h fun _ => { c with queueTaken := true }
    rw [if_pos rfl, found] at updated
    rw [shape]
    exact updated
  rw [shape] at held ⊢
  refine a.changedAt (Apart.update s.session h _) ?_ ?_ ?_ ?_ ?_
  · exact List.nodup_cons.mpr ⟨fresh, a.tokens⟩
  · intro k member other
    exact (List.mem_cons.mp member).resolve_left other
  · intro c' found' _
    cases held.symm.trans found'
    exact a.waiting h c found idle
  · intro _
    exact ⟨idle, _, held, rfl⟩
  · intro o wired
    exact absurd (idle.symm.trans wired) (by simp)

theorem markStarted (a : Conform smooth s) {h : Handle} (begun : h ∈ s.taken) :
    Conform smooth (s.markStarted h) := by
  refine a.later (.update s.hub h fun c _ => .same rfl rfl (fun gone => gone) (fun given => given)
    (fun honest => honest)) (fun _ => rfl) rfl ?_
  exact List.perm_middle.trans ((List.perm_cons_erase begun).symm.append_right s.marked)

theorem attach (a : Conform smooth s) {h : Handle} {sink : SinkMode} (begun : h ∈ s.marked)
    (spares : smooth h → sink = .ok) : Conform smooth (s.attach h sink) := by
  obtain ⟨idle, c, found, taken⟩ := a.given h (List.mem_append_right _ begun)
  have distinct : (s.taken ++ h :: s.marked.erase h).Nodup :=
    ((List.perm_cons_erase begun).append_left s.taken).nodup_iff.mp a.tokens
  have distinct' := List.perm_middle.nodup_iff.mp distinct
  obtain ⟨gone, tokens⟩ := List.nodup_cons.mp distinct'
  refine a.changedAt (Apart.setLink s.session h _) tokens ?_ ?_ ?_ ?_
  · intro k member _
    rcases List.mem_append.mp member with left | left
    · exact List.mem_append_left _ left
    · exact List.mem_append_right _ (List.mem_of_mem_erase left)
  · intro c' found' _
    exact a.waiting h c' found' idle
  · intro member
    exact absurd member gone
  · intro o wired
    have inside : h < s.session.links.length := by
      rw [a.aligned]
      exact (List.getElem?_eq_some_iff.mp found).1
    have outgoing : o.point = .idle ∧ o.written = [] ∧ o.sink = sink := by
      simp only [Scene.attach, Session.attach, Session.outgoing?, Session.linkSet, inside, and_self,
        if_true, Option.map_some, Option.some.injEq] at wired
      subst wired
      exact ⟨rfl, rfl, rfl⟩
    refine ⟨c, found, taken, fun smooth => outgoing.2.2.trans (spares smooth), ?_⟩
    exact .start outgoing.1 outgoing.2.1 (a.waiting h c found idle)

theorem setSink (a : Conform smooth s) (h : Handle) {mode : SinkMode}
    (spares : smooth h → mode = .ok) :
    Conform smooth { s with session := s.session.setSink h mode } := by
  have outgoing : (s.session.setSink h mode).outgoing? h =
      (s.session.outgoing? h).map fun o => { o with sink := mode } := by
    simp only [Session.setSink, Session.outgoing?, Session.linkUpdate, if_true, Option.map_map]
    rfl
  refine a.changedAt (Apart.updateLink s.session h _) a.tokens (fun _ member _ => member) ?_ ?_ ?_
  · intro c found idle
    exact a.waiting h c found (Option.map_eq_none_iff.mp (outgoing.symm.trans idle))
  · intro member
    obtain ⟨idle, rest⟩ := a.given h member
    rw [idle] at outgoing
    exact ⟨outgoing, rest⟩
  · intro o wired
    obtain ⟨o', before, rfl⟩ := Option.map_eq_some_iff.mp (outgoing.symm.trans wired)
    obtain ⟨c, held, taken, -, wire⟩ := a.wired h o' before
    exact ⟨c, held, taken, spares, wire.withSink mode⟩

theorem write (a : Conform smooth s) {h : Handle} {l : Link} {session : Session}
    (found : s.session.link? h = some l) (step : Session.WriteStep s.session h l session) :
    Conform smooth { s with session } := by
  have outgoing : s.session.outgoing? h = some l.outgoing := by simp [Session.outgoing?, found]
  obtain ⟨c, held, taken, calm, wire⟩ := a.wired h _ outgoing
  obtain ⟨c', l', held', found', sink, taken', wire'⟩ := Session.wireTurn wire found held calm step
  have outgoing' : session.outgoing? h = some l'.outgoing := by simp [Session.outgoing?, found']
  refine a.changedAt (Session.writeApart step) a.tokens (fun _ member _ => member) ?_ ?_ ?_
  · intro _ _ idle
    exact absurd (outgoing'.symm.trans idle) (by simp)
  · intro member
    exact absurd ((a.given h member).1.symm.trans outgoing) (by simp)
  · intro o wired
    cases outgoing'.symm.trans wired
    exact ⟨c', held', taken' taken, fun smooth => sink.trans (calm smooth), wire'⟩

theorem step {a : Action} (before : Conform smooth s) (spares : ∀ h, smooth h → a.Spares h)
    (effect : Effect s a s') : Conform smooth s' := by
  cases effect with
  | build p => exact before.build p
  | register h _ => exact before.onHub (.dealt (.register s.hub h))
  | beginClose h _ => exact before.later (.beginClose s.hub h) (fun _ => rfl) rfl (.refl _)
  | finishClose h _ => exact before.later (.finishClose s.hub h) (fun _ => rfl) rfl (.refl _)
  | takeQueue h _ => exact before.takeQueue h
  | markStarted h begun => exact before.markStarted begun
  | attach h sink begun => exact before.attach begun fun smooth => spares h smooth rfl
  | setMetadata h key value _ =>
    exact before.onHub (.update s.hub h fun _ _ =>
      .same rfl rfl (fun gone => gone) (fun given => given) (fun honest => honest))
  | flush => exact before.onHub (.dealt (.flush s.hub))
  | shutdown => exact before.onHub (.dealt (.shutdown s.hub))
  | run => exact before.onHub (.same rfl)
  | setSink h mode => exact before.setSink h fun smooth => spares h smooth rfl
  | pass nanos => exact before.later (.refl s.hub) (fun _ => rfl) rfl (.refl _)
  | begin began => exact before.later (.dealt (.beginRun began)) (fun _ => rfl) rfl (.refl _)
  | loop stepped =>
    exact before.later (.dealt (.loopStep (Hub.loopSteps stepped))) (fun _ => rfl) rfl (.refl _)
  | write _ found turn => exact before.write found turn
  | call _ aside => exact before.later (.dealt (.calls aside.hub)) aside.outgoing aside.links (.refl _)

theorem linked (a : Conform smooth s) {h : Handle} {l : Link} (found : s.session.link? h = some l) :
    ∃ c, s.hub.client? h = some c := by
  obtain ⟨c, held, -⟩ := a.wired h l.outgoing (by simp [Session.outgoing?, found])
  exact ⟨c, held⟩

theorem onward {a : Action} (before : Conform (fun _ => False) s) (effect : Effect s a s') :
    Conform (fun _ => False) s' :=
  before.step (fun _ smooth => smooth.elim) effect

theorem along {P : Scene → Prop} {as : List Action} (before : Conform (fun _ => False) s) (start : P s)
    (step : ∀ t a t', Conform (fun _ => False) t → P t → t.act? a = some t' → P t') (ran : s.run? as = some s') :
    Conform (fun _ => False) s' ∧ P s' := by
  refine runInduction (P := fun t => Conform (fun _ => False) t ∧ P t) ⟨before, start⟩ ?_ ran
  rintro t a t' - ⟨conform, held⟩ acted
  exact ⟨conform.onward (effect acted), step t a t' conform held acted⟩

theorem run {c : HubConfig} {as : List Action} (ran : (opening c).run? as = some s) :
    Conform (fun h => ∀ a ∈ as, a.Spares h) s := by
  refine runInduction (.start _ c) ?_ ran
  intro t a t' member before acted
  exact before.step (fun h smooth => smooth a member) (effect acted)

end Conform

theorem outgoingMoves {smooth : Handle → Prop} {s s' : Scene} {a : Action} (conform : Conform smooth s) {h : Handle}
    {l : Link} (found : s.session.link? h = some l) (effect : Effect s a s') :
    (∃ mode, s'.session.outgoing? h = some { l.outgoing with sink := mode } ∧
      (a.Spares h → l.sink = .ok → mode = .ok)) ∨
      Session.WriteStep s.session h l s'.session := by
  have outgoing : s.session.outgoing? h = some l.outgoing := by simp [Session.outgoing?, found]
  have still : s'.session.outgoing? h = s.session.outgoing? h → ∃ mode,
      s'.session.outgoing? h = some { l.outgoing with sink := mode } ∧ (a.Spares h → l.sink = .ok → mode = .ok) :=
    fun same => ⟨l.sink, same.trans outgoing, fun _ ok => ok⟩
  cases effect with
  | build p => exact .inl (still (congrArg (Option.map Link.outgoing) (Session.linkBuild ..)))
  | attach k mode begun =>
    have other : h ≠ k := by
      rintro rfl
      have idle := (conform.given h (List.mem_append_right _ begun)).1
      exact absurd (outgoing.symm.trans idle) (by simp)
    exact .inl (still (Conform.outgoingApart (Apart.setLink s.session k _) other))
  | setSink k mode =>
    by_cases here : h = k
    · subst here
      refine .inl ⟨mode, ?_, fun spares _ => spares rfl⟩
      rw [Session.outgoing?, Session.setSink, Session.linkUpdate, if_pos rfl, found]
      rfl
    · exact .inl (still (Conform.outgoingApart (Apart.updateLink s.session k _) here))
  | takeQueue k _ =>
    refine .inl (still ?_)
    rcases s.takeQueueCases k with same | ⟨c, -, -, shape⟩
    · rw [same]
    · rw [shape]
      rfl
  | @write a k l' session _ found' step =>
    by_cases here : h = k
    · subst here
      cases found.symm.trans found'
      exact .inr step
    · exact .inl (still (Conform.outgoingApart (Session.writeApart step) here))
  | call _ aside => exact .inl (still (aside.outgoing h))
  | _ => exact .inl (still rfl)

/-- The wire of a started client, at every moment of every run: its data frames carry the first messages
that sends said were accepted, in order and octet by octet; at most one close frame is written, and it is
the last frame and stands behind all accepted messages; and where the outgoing side never refuses, a loop
that has ended has said all of it. -/
theorem wireCarriesAcceptedInOrder {config : HubConfig} {as : List Action} {s : Scene}
    (ran : (opening config).run? as = some s) {h : Handle} {l : Link}
    (started : s.session.link? h = some l) :
    ∃ c, s.hub.client? h = some c ∧
      (∀ m, ∃ c', (s.hub.send h m).2.client? h = some c' ∧
        c'.arrived = if (s.hub.send h m).1 then c.arrived ++ [m] else c.arrived) ∧
      (∃ n, l.outgoing.data = (c.arrived.take n).map Frame.ofBytes) ∧
      (∀ m, (Frame.ofBytes m).Carries m) ∧
      l.outgoing.frames.count .close ≤ 1 ∧
      (∀ before after, l.outgoing.frames = before ++ .close :: after → after = []) ∧
      (.close ∈ l.outgoing.frames →
        c.sender = false ∧ l.outgoing.data = c.arrived.map Frame.ofBytes) ∧
      ((∀ a ∈ as, a.Spares h) → l.point = .finished →
        l.outgoing.data = c.arrived.map Frame.ofBytes ∧
        ∃ before, l.outgoing.frames = before ++ [.close] ∧ .close ∉ before) := by
  have outgoing : s.session.outgoing? h = some l.outgoing := by simp [Session.outgoing?, started]
  obtain ⟨c, found, -, -, wire⟩ := (Conform.run ran).wired h _ outgoing
  have ended : (∀ a ∈ as, a.Spares h) → l.point = .finished → .close ∈ l.outgoing.frames :=
    fun spared point => wire.finished spared point
  refine ⟨c, found, Hub.sendResult found, wire.prefixWritten, Frame.ofBytesCarries, ?_⟩
  rcases wire.closeWritten with silent | ⟨gone, data, before, last, silent⟩
  · refine ⟨?_, ?_, fun written => absurd written silent, ?_⟩
    · rw [List.count_eq_zero.mpr silent]
      exact Nat.zero_le 1
    · intro before after shape
      exact absurd (shape ▸ by simp) silent
    · intro spared point
      exact absurd (ended spared point) silent
  · refine ⟨?_, ?_, fun _ => ⟨gone, data⟩, fun _ _ => ⟨data, before, last, silent⟩⟩
    · rw [last, List.count_append, List.count_eq_zero.mpr silent]
      simp
    · intro before' after shape
      rw [last] at shape
      rcases List.eq_nil_or_concat after with none | ⟨first, f, rfl⟩
      · exact none
      · rw [List.concat_eq_append, ← List.cons_append, ← List.append_assoc] at shape
        have same := (List.append_inj' shape rfl).1
        exact absurd (same ▸ by simp) silent

def sentThenClosed : List Action := [
  .build { id := "c", user := "u", tenant := "t" }, .send 0 [104, 105], .takeQueue 0, .markStarted 0,
  .attach 0 .ok, .send 0 [255], .beginClose 0, .finishClose 0, .turn (.takeMessage 0), .turn (.write 0),
  .turn (.write 0), .turn (.write 0), .turn (.takeMessage 0), .turn (.write 0), .turn (.write 0),
  .turn (.write 0)]

theorem bothFramesBeforeClose : ∃ s l c, (opening {}).run? sentThenClosed = some s ∧ s.session.link? 0 = some l ∧
    s.hub.client? 0 = some c ∧ l.outgoing.frames = [.text "hi", .binary [255], .close] ∧
    (∀ a ∈ sentThenClosed, a.Spares 0) ∧ l.point = .finished ∧
    l.outgoing.data = c.arrived.map Frame.ofBytes := by
  have shown : ((opening {}).run? sentThenClosed).map (fun s =>
      (s.session.link? 0).map fun l => (l.point, l.outgoing.frames)) =
        some (some (.finished, [.text "hi", .binary [255], .close])) := by
    rfl
  obtain ⟨s, ran, shown⟩ := Option.map_eq_some_iff.mp shown
  obtain ⟨l, started, shown⟩ := Option.map_eq_some_iff.mp shown
  obtain ⟨point, frames⟩ := Prod.mk.inj shown
  have spared : ∀ a ∈ sentThenClosed, a.Spares 0 := by simp [sentThenClosed, Action.Spares]
  obtain ⟨c, found, -, -, -, -, -, -, whole⟩ := wireCarriesAcceptedInOrder ran started
  exact ⟨s, l, c, ran, started, found, frames, spared, point, (whole spared point).1⟩

end Scene
end RelayHub
