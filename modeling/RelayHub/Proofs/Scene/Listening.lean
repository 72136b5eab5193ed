import RelayHub.Proofs.Scene.Settled
import RelayHub.Proofs.Session.Hearing

/-! What the handlers of a client see in a run: the payloads of what came in, in order and each once, as far as the
read loop has got; and one end. -/
namespace RelayHub

def Action.item? (h : Handle) : Action → Option Incoming
  | .receive k item => if k = h then some item else none
  | _ => none

def Action.concerns (h : Handle) : Action → Bool
  | .receive k _ | .turn (.readNext k) | .turn (.readCancelled k) | .turn (.readExpired k) => k = h
  | _ => false

theorem Action.unconcernedItem {h : Handle} {a : Action} (apart : a.concerns h = false) : a.item? h = none := by
  cases a with
  | receive k item => exact if_neg (of_decide_eq_false apart)
  | _ => rfl

def inbound (h : Handle) (as : List Action) : List Incoming := as.filterMap (Action.item? h)

theorem inboundSnoc (h : Handle) (as : List Action) (a : Action) :
    inbound h (as ++ [a]) = inbound h as ++ (a.item? h).toList := by
  rw [inbound, List.filterMap_append, ← inbound]
  cases item : a.item? h with
  | none => simp [item]
  | some item' => simp [item]

/- Where a read loop stands with all the items that came in for it. A loop may also be `cut` short, by a close call
or by its deadline. -/
inductive Hears (c : Client) (items : List Incoming) (cut : Prop) (l : Link) : Prop where
  | reading {read : List Incoming} (reads : l.readDone = false) (all : items = read ++ l.incoming)
      (plain : ∀ item ∈ read, item.ends = false)
      (handled : l.handled = if c.onMessage.isSome then read.filterMap Incoming.payload? else [])
      (disconnects : l.disconnects = 0)
  | through {read rest : List Incoming} (done : l.readDone = true) (all : items = read ++ rest)
      (plain : ∀ item ∈ read, item.ends = false)
      (handled : l.handled = if c.onMessage.isSome then read.filterMap Incoming.payload? else [])
      (last : (∃ item, rest.head? = some item ∧ item.ends = true) ∨ cut)
      (disconnects : l.disconnects = if c.onDisconnect.isSome then 1 else 0)

namespace Hears
variable {c c' : Client} {items : List Incoming} {cut cut' : Prop} {l l' : Link}

theorem start {deadline : Nat} (reading : l.reading = some deadline) (fresh : l.incoming = [])
    (handled : l.handled = []) (disconnects : l.disconnects = 0) : Hears c [] cut l := by
  have all : ([] : List Incoming) = [] ++ l.incoming := by simp [fresh]
  exact .reading (by simp [Link.readDone, reading]) all (by simp) (by simp [handled]) disconnects

theorem same (hears : Hears c items cut l) (onMessage : c'.onMessage = c.onMessage)
    (onDisconnect : c'.onDisconnect = c.onDisconnect) (inward : l'.inward = l.inward) (later : cut → cut') :
    Hears c' items cut' l' := by
  simp only [Link.inward, Inward.mk.injEq] at inward
  obtain ⟨reading, incoming, handled', disconnects'⟩ := inward
  have done : l'.readDone = l.readDone := by rw [Link.readDone, reading, Link.readDone]
  cases hears with
  | reading reads all plain handled disconnects =>
    exact .reading (done.trans reads) (incoming ▸ all) plain (onMessage ▸ handled'.trans handled)
      (disconnects'.trans disconnects)
  | through through all plain handled last disconnects =>
    exact .through (done.trans through) all plain (onMessage ▸ handled'.trans handled) (last.imp_right later)
      (onDisconnect ▸ disconnects'.trans disconnects)

theorem came (hears : Hears c items cut l) (reads : l.readDone = false) (item : Incoming) :
    Hears c (items ++ [item]) cut { l with incoming := l.incoming ++ [item] } := by
  cases hears with
  | reading _ all plain handled disconnects =>
    exact .reading reads (by rw [all, List.append_assoc]) plain handled disconnects
  | through done => exact absurd (done.symm.trans reads) (by simp)

theorem late (hears : Hears c items cut l) (done : l.readDone = true) (item : Incoming) :
    Hears c (items ++ [item]) cut l := by
  cases hears with
  | reading reads => exact absurd (done.symm.trans reads) (by simp)
  | @through read rest _ all plain handled last disconnects =>
    have whole : items ++ [item] = read ++ (rest ++ [item]) := by rw [all, List.append_assoc]
    refine .through done whole plain handled ?_ disconnects
    refine last.imp_left fun ⟨first, head, ends⟩ => ⟨first, ?_, ends⟩
    rw [List.head?_append, head, Option.some_or]

theorem next (hears : Hears c items cut l) (reads : l.readDone = false) {item : Incoming} {rest : List Incoming}
    (waits : l.incoming = item :: rest) (deadline : Nat) :
    Hears c items cut ({ l with incoming := rest }.read c deadline item) := by
  cases hears with
  | through done => exact absurd (done.symm.trans reads) (by simp)
  | @reading read _ all plain handled disconnects =>
    unfold Link.read
    rw [waits] at all
    cases ends : item.ends with
    | true =>
      refine .through rfl all plain handled (.inl ⟨item, rfl, ends⟩) ?_
      simp [Link.unread, disconnects]
    | false =>
      have whole : items = (read ++ [item]) ++ rest := by
        rw [all, List.append_assoc]
        rfl
      refine .reading ?_ whole ?_ ?_ disconnects
      · cases item with
        | pong => rfl
        | _ => exact reads
      · intro x member
        rcases List.mem_append.mp member with earlier | here
        · exact plain x earlier
        · rwa [List.mem_singleton.mp here]
      · simp only [List.filterMap_append, Bool.false_eq_true, if_false, handled]
        cases c.onMessage with
        | none => rfl
        | some handler =>
          cases item with
          | _ => rfl

theorem ended (hears : Hears c items cut l) (reads : l.readDone = false) (short : cut) :
    Hears c items cut (l.unread c) := by
  cases hears with
  | through done => exact absurd (done.symm.trans reads) (by simp)
  | reading _ all plain handled disconnects =>
    exact .through rfl all plain handled (.inr short) (by simp [Link.unread, disconnects])

theorem whileReading (hears : Hears c items cut l) (reads : l.readDone = false) :
    l.handled ++ c.audible l.incoming = c.audible items ∧ l.disconnects = 0 := by
  cases hears with
  | through done => exact absurd (done.symm.trans reads) (by simp)
  | reading _ all plain handled disconnects =>
    refine ⟨?_, disconnects⟩
    rw [handled, all, Client.audible, Client.audible]
    split
    · rw [Incoming.payloadsAppend plain]
    · rfl

end Hears

namespace Scene
variable {smooth : Handle → Prop} {config : HubConfig} {as : List Action} {s s' : Scene} {a : Action} {h : Handle}
variable {c : Client} {l l' : Link}

inductive Listens (s : Scene) (h : Handle) (c : Client) (l : Link) : Action → Link → Prop where
  | still {a : Action} {l' : Link} (apart : a.concerns h = false) (same : l'.inward = l.inward) :
      Listens s h c l a l'
  | came {item : Incoming} (reads : l.readDone = false) :
      Listens s h c l (.receive h item) { l with incoming := l.incoming ++ [item] }
  | late {item : Incoming} (done : l.readDone = true) : Listens s h c l (.receive h item) l
  | heard {t : Session.Turn} {l' : Link} (hearing : Session.Hearing s.session h c l t l') :
      Listens s h c l (.turn t) l'

theorem listensReceive (found : s.session.link? h = some l) (k : Handle) (item : Incoming) :
    ∃ l', (s.session.receive k item).2.link? h = some l' ∧ Listens s h c l (.receive k item) l' := by
  by_cases here : k = h
  · subst here
    cases done : l.readDone with
    | true =>
      have dropped : (s.session.receive k item).2 = s.session := by simp [Session.receive, found, done]
      refine ⟨l, ?_, .late done⟩
      rwa [dropped]
    | false =>
      refine ⟨{ l with incoming := l.incoming ++ [item] }, ?_, .came done⟩
      simp [Session.receive, found, done, Session.linkSet, Session.linkInside found]
  · refine ⟨l, ?_, .still (decide_eq_false here) rfl⟩
    unfold Session.receive
    split
    · exact found
    · split
      · exact found
      · rw [Session.linkSet, if_neg fun same => here same.1.symm]
        exact found

theorem listensTurn {t : Session.Turn} (acted : s.act? (.turn t) = some s')
    (listens : ∀ session, s.session.take? t = some session →
      ∃ l', session.link? h = some l' ∧ Listens s h c l (.turn t) l') :
    ∃ l', s'.session.link? h = some l' ∧ Listens s h c l (.turn t) l' := by
  obtain ⟨session, taken, rfl⟩ := Option.map_eq_some_iff.mp acted
  exact listens session taken

theorem listensCall (held : s.hub.client? h = some c) (found : s.session.link? h = some l) (call : a.isCall = true)
    (acted : s.act? a = some s') : ∃ l', s'.session.link? h = some l' ∧ Listens s h c l a l' := by
  cases a with
  | unregister | join | leave | send | relay =>
    obtain ⟨-, rfl⟩ := onClientSome acted
    exact ⟨l, found, .still rfl rfl⟩
  | disconnect | sendToUser | sendToGroup | sendToGroupExcept | sendToTenant | broadcast =>
    cases Option.some.inj acted
    exact ⟨l, found, .still rfl rfl⟩
  | receive k item =>
    cases Option.some.inj acted
    exact listensReceive found k item
  | turn t =>
    refine listensTurn acted fun session taken => ?_
    cases t with
    | readNext k | readCancelled k | readExpired k =>
      obtain ⟨l', found', reads, step⟩ := Session.readStep rfl taken
      by_cases here : h = k
      · subst here
        cases found.symm.trans found'
        exact (Session.readHeard held found reads step).imp fun l' heard => ⟨heard.1, .heard heard.2⟩
      · exact ⟨l, (Session.readElsewhere _ here step).trans found, .still (decide_eq_false (here ·.symm)) rfl⟩
    | _ => contradiction
  | _ => contradiction

theorem listens (conform : Conform smooth s) (held : s.hub.client? h = some c)
    (found : s.session.link? h = some l) (acted : s.act? a = some s') :
    ∃ l', s'.session.link? h = some l' ∧ Listens s h c l a l' := by
  cases effect acted with
  | build p => exact ⟨l, (Session.linkBuild ..).trans found, .still rfl rfl⟩
  | attach k sink begun =>
    -- the loops of a client are set going once
    have other : h ≠ k := by
      rintro rfl
      have idle := (conform.given h (List.mem_append_right _ begun)).1
      simp [Session.outgoing?, found] at idle
    exact ⟨l, (Session.linkSet ..).trans ((if_neg fun here => other here.1).trans found), .still rfl rfl⟩
  | setSink k mode =>
    by_cases here : h = k
    · refine ⟨{ l with sink := mode }, (Session.linkUpdate ..).trans ?_, .still rfl rfl⟩
      rw [if_pos here, found]
      rfl
    · exact ⟨l, (Session.linkUpdate ..).trans ((if_neg here).trans found), .still rfl rfl⟩
  | takeQueue k _ =>
    rcases s.takeQueueCases k with same | ⟨c, -, -, shape⟩
    · rw [same]
      exact ⟨l, found, .still rfl rfl⟩
    · rw [shape]
      exact ⟨l, found, .still rfl rfl⟩
  | @write a k l' session turn found' step =>
    have apart : a.concerns h = false := by
      cases a with
      | turn t =>
        cases t with
        | takeMessage | tick | write | writeExpired => rfl
        | _ => contradiction
      | _ => contradiction
    by_cases here : h = k
    · subst here
      cases found.symm.trans found'
      exact (Session.writeInwardKept found step).imp fun l' kept => ⟨kept.1, .still apart kept.2⟩
    · exact ⟨l, ((Session.writeApart step).link h here).trans found, .still apart rfl⟩
  | call calls _ => exact listensCall held found calls acted
  | _ => exact ⟨l, found, .still rfl rfl⟩

/- A turn that ends the read loop of the client for another reason than what came in. -/
inductive CutShort (s : Scene) (h : Handle) : Action → Prop where
  | closed (shut : s.hub.isOpen h = false) : CutShort s h (.turn (.readCancelled h))
  | expired {l : Link} {deadline : Nat} (found : s.session.link? h = some l) (reading : l.reading = some deadline)
      (idle : l.incoming = []) (due : deadline ≤ s.session.clock) : CutShort s h (.turn (.readExpired h))

/- Does the run come to this action in this state? -/
def Does (s : Scene) (as : List Action) (t : Scene) (a : Action) : Prop :=
  ∃ before after, as = before ++ a :: after ∧ s.run? before = some t

theorem Does.later {t : Scene} (does : s.Does as t a) (more : List Action) : s.Does (as ++ more) t a := by
  obtain ⟨before, after, rfl, ran⟩ := does
  exact ⟨before, after ++ more, by simp, ran⟩

theorem Does.now (ran : s.run? as = some s') (a : Action) : s.Does (as ++ [a]) s' a := ⟨as, [], rfl, ran⟩

theorem doesAt {t : Scene} : s.Does as t a ↔ ∃ n, as[n]? = some a ∧ s.run? (as.take n) = some t := by
  constructor
  · rintro ⟨before, after, rfl, ran⟩
    exact ⟨before.length, by simp, by rwa [List.take_left]⟩
  · rintro ⟨n, here, ran⟩
    obtain ⟨inside, rfl⟩ := List.getElem?_eq_some_iff.mp here
    exact ⟨as.take n, as.drop (n + 1), by simp, ran⟩

theorem Does.done {t : Scene} (does : s.Does as t a) : a ∈ as := by
  obtain ⟨before, after, rfl, -⟩ := does
  exact List.mem_append_right _ List.mem_cons_self

theorem Does.only {t : Scene} {b : Action} (does : s.Does [b] t a) : b = a ∧ t = s := by
  obtain ⟨before, after, shape, ran⟩ := does
  cases before with
  | nil =>
    cases ran
    exact ⟨(List.cons.inj shape).1, rfl⟩
  | cons c rest => simp at shape

theorem Does.split {t : Scene} {bs : List Action} (does : s.Does (as ++ bs) t a) (ran : s.run? as = some s') :
    s.Does as t a ∨ s'.Does bs t a := by
  obtain ⟨before, after, shape, earlier⟩ := does
  rcases List.append_eq_append_iff.mp shape with ⟨more, rfl, rfl⟩ | ⟨more, rfl, rest⟩
  · rw [runAppend, ran] at earlier
    exact .inr ⟨more, after, rfl, earlier⟩
  · cases more with
    | nil =>
      rw [List.append_nil] at ran
      cases ran.symm.trans earlier
      exact .inr ⟨[], after, rest.symm, rfl⟩
    | cons b more =>
      obtain ⟨rfl, rfl⟩ := List.cons.inj rest
      exact .inl ⟨before, more, rfl, earlier⟩

def Cut (s : Scene) (h : Handle) (as : List Action) : Prop := ∃ t a, s.Does as t a ∧ t.CutShort h a

theorem Cut.later (cut : s.Cut h as) (more : List Action) : s.Cut h (as ++ more) := by
  obtain ⟨t, a, does, short⟩ := cut
  exact ⟨t, a, does.later more, short⟩

theorem Cut.now (ran : s.run? as = some s') (short : s'.CutShort h a) : s.Cut h (as ++ [a]) :=
  ⟨s', a, .now ran a, short⟩

theorem Cut.turn (cut : s.Cut h as) : .turn (.readCancelled h) ∈ as ∨ .turn (.readExpired h) ∈ as := by
  obtain ⟨t, a, does, short⟩ := cut
  cases short with
  | closed => exact .inl does.done
  | expired => exact .inr does.done

theorem cancelledShut (peopled : Peopled config s) (held : s.hub.client? h = some c) (cancelled : c.cancelled = true) :
    s.hub.isOpen h = false := by
  obtain ⟨life, lived, lives⟩ := peopled.lives h c held
  cases Option.some.inj (lives.client.symm.trans held)
  have sound := Life.livedSound lived
  have once := sound.once
  have cancels := sound.cancelled.mp cancelled
  simp only [Hub.isOpen, held, Option.any_some]
  cases isOpen : life.client.isOpen with
  | false => rfl
  | true =>
    rw [isOpen, if_pos rfl] at once
    omega

theorem keepsTraits (conform : Conform (fun _ => False) s) (peopled : Peopled config s)
    (held : s.hub.client? h = some c) (ran : s.run? as = some s') :
    ∃ c', s'.hub.client? h = some c' ∧ c'.traits = c.traits := by
  obtain ⟨life, -, lives⟩ := peopled.lives h c held
  cases Option.some.inj (lives.client.symm.trans held)
  obtain ⟨life', later, lives', -⟩ := livesLater conform peopled lives ran
  exact ⟨life'.client, lives'.client, Life.laterTraits later⟩

theorem hearsListens {items : List Incoming} {cut cut' : Prop} {l' : Link} (hears : Hears c items cut l)
    (listens : Listens s h c l a l') (held : s.hub.client? h = some c) (found : s.session.link? h = some l)
    (peopled : Peopled config s) (later : cut → cut') (short : s.CutShort h a → cut') :
    Hears c (items ++ (a.item? h).toList) cut' l' := by
  have before : Hears c items cut' l := hears.same rfl rfl rfl later
  cases listens with
  | still apart same =>
    rw [Action.unconcernedItem apart, Option.toList_none, List.append_nil]
    exact before.same rfl rfl same fun cut => cut
  | @came item reads =>
    rw [show (Action.receive h item).item? h = some item from if_pos rfl]
    exact before.came reads item
  | @late item done =>
    rw [show (Action.receive h item).item? h = some item from if_pos rfl]
    exact before.late done item
  | heard hearing =>
    rw [show ∀ t, (Action.turn t).item? h = none from fun _ => rfl, Option.toList_none, List.append_nil]
    cases hearing with
    | next reads waits => exact before.next reads waits _
    | cancelled reads cancelled => exact before.ended reads (short (.closed (cancelledShut peopled held cancelled)))
    | expired reading idle due =>
      exact before.ended (by simp [Link.readDone, reading]) (short (.expired found reading idle due))

def Heard (s : Scene) (h : Handle) (as : List Action) (s' : Scene) : Prop :=
  ∃ c l, s'.hub.client? h = some c ∧ s'.session.link? h = some l ∧ Hears c (inbound h as) (s.Cut h as) l

theorem attachedLink (conform : Conform smooth s) (begun : h ∈ s.marked) (sink : SinkMode) :
    ∃ c, s.hub.client? h = some c ∧ (s.attach h sink).session.link? h = some {
      reading := some (s.session.clock + s.session.config.pongWait.nanos)
      nextPing := s.session.clock + s.session.config.pingPeriod.nanos
      sink } := by
  obtain ⟨-, c, held, -⟩ := conform.given h (List.mem_append_right _ begun)
  have inside : h < s.session.links.length := conform.aligned ▸ (List.getElem?_eq_some_iff.mp held).1
  exact ⟨c, held, (Session.linkSet ..).trans (if_pos ⟨rfl, inside⟩)⟩

theorem heardStart (conform : Conform smooth s) (begun : h ∈ s.marked) (sink : SinkMode) :
    (s.attach h sink).Heard h [] (s.attach h sink) := by
  obtain ⟨c, held, found⟩ := attachedLink conform begun sink
  exact ⟨c, _, held, found, .start rfl rfl rfl rfl⟩

theorem heardStep (heard : s.Heard h as s') {s'' : Scene} (ran : s.run? as = some s')
    (conform : Conform (fun _ => False) s') (peopled : Peopled config s') (acted : s'.act? a = some s'') :
    s.Heard h (as ++ [a]) s'' := by
  obtain ⟨c, l, held, found, hears⟩ := heard
  obtain ⟨l', found', listens⟩ := listens conform held found acted
  have single : s'.run? [a] = some s'' := by simp [run?, acted]
  obtain ⟨c', held', traits⟩ := keepsTraits conform peopled held single
  have heard := hearsListens hears listens held found peopled (fun cut => cut.later [a]) (Cut.now ran)
  refine ⟨c', l', held', found', ?_⟩
  rw [inboundSnoc]
  exact heard.same (congrArg Traits.onMessage traits) (congrArg Traits.onDisconnect traits) rfl fun cut => cut

theorem attachedRun {before : List Action} {t : Scene} (reached : (opening config).run? before = some t)
    (begun : h ∈ t.marked) {sink : SinkMode} (ran : (t.attach h sink).run? as = some s) :
    (opening config).run? (before ++ [.attach h sink] ++ as) = some s := by
  have attached : t.run? [.attach h sink] = some (t.attach h sink) := by simp [run?, act?, begun]
  rw [runAppend, runAppend, reached, Option.bind_some, attached]
  exact ran

theorem heardRun {before after : List Action} {t : Scene} {sink : SinkMode}
    (reached : (opening config).run? before = some t) (ran : t.run? (.attach h sink :: after) = some s) :
    (t.attach h sink).Heard h after s := by
  obtain ⟨first, acted, ran⟩ := Option.bind_eq_some_iff.mp ran
  obtain ⟨begun, rfl⟩ := ifSome acted
  refine (runHistory (P := fun done u => (t.attach h sink).run? done = some u ∧ (t.attach h sink).Heard h done u)
    ⟨rfl, heardStart (peopled reached).1 begun sink⟩ ?_ ran).2
  rintro done u a u' ⟨ran, heard⟩ acted
  obtain ⟨conform, peopled⟩ := peopled (attachedRun reached begun ran)
  exact ⟨runSnoc.mpr ⟨u, ran, acted⟩, heardStep heard ran conform peopled acted⟩

theorem watched (ran : (opening config).run? as = some s) : s.Watched := by
  refine (Conform.along (.start _ config) ?_ (fun _ _ _ => watchedStep) ran).2
  simp [Watched, opening, Session.reads?, Session.link?]

theorem overKeeps (listens : Listens s h c l a l') (done : l.readDone = true) :
    l'.readDone = true ∧ l'.handled = l.handled ∧ l'.disconnects = l.disconnects := by
  cases listens with
  | still _ same =>
    simp only [Link.inward, Inward.mk.injEq] at same
    exact ⟨by rwa [Link.readDone, same.1], same.2.2⟩
  | came reads => exact absurd (done.symm.trans reads) (by simp)
  | late => exact ⟨done, rfl, rfl⟩
  | heard hearing =>
    cases hearing with
    | next reads | cancelled reads => exact absurd (done.symm.trans reads) (by simp)
    | expired reading => simp [Link.readDone, reading] at done

theorem nothingWaits (found : s.session.link? h = some l) (reads : l.readDone = false)
    (stuck : s.session.take? (.readNext h) = none) : l.incoming = [] := by
  obtain ⟨deadline, reading⟩ : ∃ deadline, l.reading = some deadline := by
    simpa [Link.readDone, Option.isSome_iff_exists] using reads
  cases waits : l.incoming with
  | nil => rfl
  | cons item rest => simp [Session.take?, Session.readNext?, found, reading, waits] at stuck

theorem overStays (conform : Conform (fun _ => False) s) (found : s.session.link? h = some l)
    (done : l.readDone = true) (ran : s.run? as = some s') : ∃ l', s'.session.link? h = some l' ∧
      l'.readDone = true ∧ l'.handled = l.handled ∧ l'.disconnects = l.disconnects := by
  refine (conform.along (P := fun t => ∃ l', t.session.link? h = some l' ∧ l'.readDone = true ∧
    l'.handled = l.handled ∧ l'.disconnects = l.disconnects) ⟨l, found, done, rfl, rfl⟩ ?_ ran).2
  rintro t a t' conform ⟨l', found', done', handled, disconnects⟩ acted
  obtain ⟨c, held⟩ := conform.linked found'
  obtain ⟨l'', found'', listens⟩ := listens conform held found' acted
  obtain ⟨done'', handled', disconnects'⟩ := overKeeps listens done'
  exact ⟨l'', found'', done'', handled'.trans handled, disconnects'.trans disconnects⟩

theorem unlinkedStep (acted : s.act? a = some s') (never : ∀ sink, a ≠ .attach h sink)
    (unlinked : s.session.link? h = none) : s'.session.link? h = none := by
  cases effect acted with
  | build p => exact (Session.linkBuild ..).trans unlinked
  | attach k sink _ =>
    have other : ¬ (h = k ∧ k < s.session.links.length) := fun here => never sink (here.1 ▸ rfl)
    exact (Session.linkSet ..).trans ((if_neg other).trans unlinked)
  | setSink k mode =>
    refine (Session.linkUpdate ..).trans ?_
    rw [unlinked]
    exact ite_self none
  | takeQueue k _ =>
    rcases s.takeQueueCases k with same | ⟨c, -, -, shape⟩
    · rwa [same]
    · rwa [shape]
  | @write a k l session _ found step =>
    have other : h ≠ k := fun here => absurd (unlinked.symm.trans (here ▸ found)) (by simp)
    exact ((Session.writeApart step).link h other).trans unlinked
  | call _ aside =>
    have same := aside.outgoing h
    rw [Session.outgoing?, Session.outgoing?, unlinked, Option.map_none] at same
    exact Option.map_eq_none_iff.mp same
  | _ => exact unlinked

theorem unlinked (ran : (opening config).run? as = some s) (never : ∀ sink, .attach h sink ∉ as) :
    s.session.link? h = none := by
  refine runInduction (P := fun s => s.session.link? h = none) rfl ?_ ran
  intro t a t' member before acted
  exact unlinkedStep acted (fun sink here => never sink (here ▸ member)) before

end Scene
end RelayHub
