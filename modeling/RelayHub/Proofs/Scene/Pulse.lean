import RelayHub.Proofs.Scene.Listening
import RelayHub.Proofs.Session.Beating

/-! A peer that answers its pings in time is never dropped. The ticker of the write loop and the deadline of the read
loop run side by side: the one goes on by whole periods, the other is put off by every pong. -/
namespace RelayHub

def Action.isLoopOf (h : Handle) : Action → Bool
  | .turn (.readCancelled k) | .turn (.readExpired k) | .turn (.takeMessage k) | .turn (.tick k)
  | .turn (.write k) | .turn (.writeExpired k) => k = h
  | _ => false

def Action.nanos? : Action → Option Nat
  | .pass nanos => some nanos
  | _ => none

namespace HubConfig

def beat (config : HubConfig) (start k : Nat) : Nat := start + k * config.pingPeriod.nanos

theorem beatZero (config : HubConfig) (start : Nat) : config.beat start 0 = start := by simp [beat]

theorem beatSucc (config : HubConfig) (start k : Nat) :
    config.beat start (k + 1) = config.beat start k + config.pingPeriod.nanos := by
  rw [beat, beat, Nat.succ_mul, Nat.add_assoc]

end HubConfig

/- A link whose pings went out on time: `n` of them, and one more perhaps on its way. -/
structure Pulse (config : HubConfig) (start now n : Nat) (l : Link) : Prop where
  sink : l.sink = .ok
  talking : l.point.isTalking = true
  pings : l.pings = (List.range n).map fun k => config.beat start (k + 1)
  next : l.nextPing = config.beat start (if l.point.isPinging then n + 2 else n + 1)
  due : now ≤ config.beat start (n + 1)
  pinging : l.point.isPinging = true → now = config.beat start (n + 1)

namespace Pulse
variable {config : HubConfig} {start now n : Nat} {l l' : Link}

theorem beat {s : Session} (pulse : Pulse config start s.clock n l) (same : s.config = config)
    (beat : Session.Beat s l l') (sink : l'.sink = .ok) (talking : l'.point.isTalking = true) :
    ∃ n', Pulse config start s.clock n' l' := by
  have next := pulse.next
  have due := pulse.due
  cases beat with
  | ticked point reached point' next' pings =>
    refine ⟨n, sink, talking, pings.trans pulse.pings, ?_, due, fun _ => ?_⟩
    · rw [point] at next
      have punctual : ¬ l.nextPing + Link.tickTolerance < s.clock := by
        have : s.clock ≤ l.nextPing := next ▸ due
        omega
      rw [next', Link.tickAfter, if_neg punctual, next, point', same]
      exact (config.beatSucc start (n + 1)).symm
    · rw [point] at next
      exact Nat.le_antisymm due (next ▸ reached)
  | pinged point point' next' pings =>
    have now := pulse.pinging point
    refine ⟨n + 1, sink, talking, ?_, ?_, ?_, fun on => ?_⟩
    · rw [pings, pulse.pings, List.range_succ, List.map_append, now]
      rfl
    · rw [next', next, point, point']
      rfl
    · rw [config.beatSucc]
      omega
    · exact absurd (point'.symm.trans on) (by simp)
  | aside point next' pings =>
    exact ⟨n, sink, talking, pings.trans pulse.pings, by rw [next', next, point], due,
      fun on => pulse.pinging (point.symm.trans on)⟩

theorem pass (pulse : Pulse config start now n l) (idle : l.point = .idle) {later : Nat}
    (stops : later ≤ l.nextPing) : Pulse config start later n l := by
  have working : l.point.isPinging = false := by rw [idle]; rfl
  have next := pulse.next
  rw [working] at next
  exact ⟨pulse.sink, pulse.talking, pulse.pings, pulse.next, stops.trans_eq next,
    fun on => absurd (working.symm.trans on) (by simp)⟩

theorem patient (pulse : Pulse config start now n l) (valid : config.pingPeriod.nanos < config.pongWait.nanos)
    {deadline : Nat} (first : start + config.pongWait.nanos ≤ deadline)
    (answered : ∀ time ∈ l.pings, time + (config.pongWait.nanos - config.pingPeriod.nanos) ≤ now →
      time + config.pongWait.nanos ≤ deadline) : now < deadline := by
  suffices ∀ i ≤ n, now < config.beat start i + config.pongWait.nanos → now < deadline by
    refine this n (Nat.le_refl n) ?_
    have due := pulse.due
    rw [config.beatSucc] at due
    omega
  intro i
  induction i with
  | zero =>
    intro _ early
    rw [config.beatZero] at early
    omega
  | succ i ih =>
    intro below early
    by_cases earlier : now < config.beat start i + config.pongWait.nanos
    · exact ih (Nat.le_of_succ_le below) earlier
    · have sent : config.beat start (i + 1) ∈ l.pings := by
        rw [pulse.pings]
        exact List.mem_map_of_mem (f := fun k => config.beat start (k + 1)) (List.mem_range.mpr below)
      have period := config.beatSucc start i
      have put := answered _ sent (by omega)
      omega

end Pulse

namespace Session

def rests (s : Session) (h : Handle) : Bool :=
  [Turn.takeMessage h, .tick h, .write h].all fun t => (s.take? t).isNone

/- As far as the client is concerned, time may go on by so much: its write loop has nothing to do, and no timer of its
connection is passed by. -/
def mayPass (s : Session) (h : Handle) (nanos : Nat) : Bool :=
  s.rests h && (s.link? h).all fun l => (timers l).all fun time => time ≤ s.clock || s.clock + nanos ≤ time

section Rest
variable {s : Session} {h : Handle} {l : Link}
variable (found : s.link? h = some l) (sink : l.sink = .ok) (talking : l.point.isTalking = true)
include found sink talking

theorem restsIdle (rests : s.rests h = true) : l.point = .idle ∧ s.clock < l.nextPing := by
  have still : ∀ t ∈ [Turn.takeMessage h, .tick h, .write h], s.take? t = none := by
    simpa [Session.rests] using rests
  have answers : l.sink.Answers := by
    rw [sink]
    exact ⟨by decide, by decide⟩
  have unwritten : s.write? h = none := still (.write h) (by simp)
  have idle : l.point = .idle := by
    refine (writeAnswers found answers unwritten).resolve_right fun finished => ?_
    simp [finished, WritePoint.isTalking] at talking
  have unticked : s.tick? h = none := still (.tick h) (by simp)
  refine ⟨idle, Nat.lt_of_not_le fun due => ?_⟩
  simp [tick?, found, idle, due] at unticked

theorem passIdle {nanos : Nat} (pass : s.mayPass h nanos = true) :
    l.point = .idle ∧ s.clock + nanos ≤ l.nextPing := by
  obtain ⟨rests, stops⟩ := (Bool.and_eq_true ..).mp pass
  obtain ⟨idle, ahead⟩ := restsIdle found sink talking rests
  rw [found, Option.all_some] at stops
  have stop := List.all_eq_true.mp stops l.nextPing (by simp [timers, idle])
  refine ⟨idle, ?_⟩
  rcases (Bool.or_eq_true ..).mp stop with past | within
  · exact absurd ahead (Nat.not_lt.mpr (of_decide_eq_true past))
  · exact of_decide_eq_true within

end Rest

theorem listedLink {s : Session} {h : Handle} {l : Link} (found : s.link? h = some l) : some l ∈ s.links := by
  obtain ⟨held, there, same⟩ := Option.bind_eq_some_iff.mp found
  exact List.mem_of_getElem? (there.trans (congrArg some same))

theorem listedTimer {s : Session} {h : Handle} {l : Link} (found : s.link? h = some l) {time : Nat}
    (timer : time ∈ timers l) (ahead : s.clock < time) : ∃ first, s.nextTimer? = some first ∧ first ≤ time := by
  have linked : l ∈ s.links.filterMap id := List.mem_filterMap.mpr ⟨some l, listedLink found, rfl⟩
  have listed : time ∈ ((s.links.filterMap id).flatMap timers).filter (s.clock < ·) :=
    List.mem_filter.mpr ⟨List.mem_flatMap.mpr ⟨l, linked, timer⟩, decide_eq_true ahead⟩
  obtain ⟨first, next⟩ := Option.isSome_iff_exists.mp (List.isSome_min?_of_mem listed)
  exact ⟨first, next, (List.le_min?_iff next).mp (Nat.le_refl first) time listed⟩

theorem settledPasses {s : Session} (settled : s.settled = true) {nanos : Nat}
    (within : ∀ time, s.nextTimer? = some time → s.clock + nanos ≤ time) (h : Handle) : s.mayPass h nanos = true := by
  cases found : s.link? h with
  | none => simp [mayPass, rests, take?, takeMessage?, tick?, write?, found]
  | some l =>
    have inside := linkInside found
    have rests : s.rests h = true := by
      refine List.all_eq_true.mpr fun t member => Option.isNone_iff_eq_none.mpr (settledTurn settled ?_)
      simp only [List.mem_cons, List.not_mem_nil, or_false] at member
      rcases member with rfl | rfl | rfl <;> simp [turns, inside]
    rw [mayPass, rests, found, Option.all_some, Bool.true_and]
    refine List.all_eq_true.mpr fun time timer => ?_
    by_cases ahead : s.clock < time
    · obtain ⟨first, next, least⟩ := listedTimer found timer ahead
      simp [(within first next).trans least]
    · simp [Nat.le_of_not_lt ahead]

end Session

namespace Scene
variable {smooth : Handle → Prop} {config : HubConfig} {as : List Action} {s s' t : Scene} {a : Action} {h : Handle}
variable {c : Client} {l l' : Link}

def PongRead (s : Scene) (h : Handle) (as : List Action) (time : Nat) : Prop :=
  ∃ t l rest, s.Does as t (.turn (.readNext h)) ∧ t.session.link? h = some l ∧ l.incoming = .pong :: rest ∧
    t.session.clock = time

def undisturbed (s : Scene) (h : Handle) (a : Action) : Bool :=
  a.isLoopOf h || !s.hub.isOpen h || (s.act? a).all (·.hub.isOpen h)

theorem undisturbedOpen (undisturbed : s.undisturbed h a = true) (acted : s.act? a = some s')
    (isOpen : s.hub.isOpen h = true) (other : a.isLoopOf h = false) : s'.hub.isOpen h = true := by
  simpa [Scene.undisturbed, other, isOpen, acted] using undisturbed

/-- A run in which nothing speaks against the peer. Its side of the connection takes every frame at once; nobody
closes the client but, perhaps, its own loops: no call, no handler, no close frame, no fault and no end of the
stream that is read. Time goes on only when the write loop has nothing to do, and not past a timer of the
connection. And every ping is answered: a pong is read within what the time to wait leaves over from the period. -/
structure Responsive (config : HubConfig) (s : Scene) (h : Handle) (as : List Action) : Prop where
  smooth : ∀ a ∈ as, a.Spares h
  undisturbed : ∀ t a, s.Does as t a → t.undisturbed h a = true
  punctual : ∀ t nanos, s.Does as t (.pass nanos) → t.session.mayPass h nanos = true
  answered : ∀ before after t l, as = before ++ after → s.run? before = some t → t.session.link? h = some l →
    ∀ time ∈ l.pings, time + (config.pongWait.nanos - config.pingPeriod.nanos) ≤ t.session.clock →
      ∃ pong, s.PongRead h before pong ∧ time ≤ pong ∧
        pong < time + (config.pongWait.nanos - config.pingPeriod.nanos)

theorem Responsive.before (responsive : Responsive config s h (as ++ [a])) : Responsive config s h as where
  smooth b member := responsive.smooth b (List.mem_append_left _ member)
  undisturbed t b does := responsive.undisturbed t b (does.later [a])
  punctual t nanos does := responsive.punctual t nanos (does.later [a])
  answered before after t l shape :=
    responsive.answered before (after ++ [a]) t l (by rw [shape, List.append_assoc])

theorem pongReadAt {i n time : Nat} (later : i < n) (here : as[i]? = some (.turn (.readNext h)))
    (shown : (s.run? (as.take i)).any (fun t => t.session.clock = time &&
      (t.session.link? h).any fun l => l.incoming.head? = some .pong) = true) :
    s.PongRead h (as.take n) time := by
  obtain ⟨t, ran, shown⟩ := (Option.any_eq_true ..).mp shown
  obtain ⟨clock, shown⟩ := (Bool.and_eq_true ..).mp shown
  obtain ⟨l, found, waits⟩ := (Option.any_eq_true ..).mp shown
  obtain ⟨rest, waits⟩ := List.head?_eq_some_iff.mp (of_decide_eq_true waits)
  refine ⟨t, l, rest, doesAt.mpr ⟨i, ?_, ?_⟩, found, waits, of_decide_eq_true clock⟩
  · rwa [List.getElem?_take_of_lt later]
  · rwa [List.take_take, Nat.min_eq_left (Nat.le_of_lt later)]

theorem PongRead.snoc {time : Nat} (read : s.PongRead h (as ++ [a]) time) (ran : s.run? as = some s') :
    s.PongRead h as time ∨ a = .turn (.readNext h) ∧ s'.session.clock = time ∧
      ∃ l rest, s'.session.link? h = some l ∧ l.incoming = .pong :: rest := by
  obtain ⟨t, l, rest, does, found, waits, clock⟩ := read
  rcases does.split ran with before | now
  · exact .inl ⟨t, l, rest, before, found, waits, clock⟩
  · obtain ⟨here, rfl⟩ := now.only
    exact .inr ⟨here, clock, l, rest, found, waits⟩

theorem clockMoves (effect : Effect s a s') :
    s'.session.clock = s.session.clock ∨ ∃ nanos, a = .pass nanos ∧ s'.session.clock = s.session.clock + nanos := by
  cases effect with
  | pass nanos => exact .inr ⟨nanos, rfl, rfl⟩
  | takeQueue k _ =>
    left
    rcases s.takeQueueCases k with same | ⟨c, -, -, shape⟩
    · rw [same]
    · rw [shape]
      rfl
  | write _ _ step => exact .inl (Session.writeClock step)
  | call _ aside => exact .inl aside.clock
  | _ => exact .inl rfl

theorem clockForward (effect : Effect s a s') : s.session.clock ≤ s'.session.clock := by
  rcases clockMoves effect with still | ⟨nanos, -, moved⟩
  · exact still.ge
  · exact moved ▸ Nat.le_add_right _ _

theorem deadlineMoves (listens : Listens s h c l a l') :
    a = .turn (.readNext h) ∧ l.incoming.head? = some .pong ∧ l.readDone = false ∧
      l'.reading = some s.session.readDeadline ∨
      (a = .turn (.readNext h) → l.incoming.head? ≠ some .pong) ∧ (l'.reading = l.reading ∨ l'.reading = none) := by
  cases listens with
  | still apart same =>
    refine .inr ⟨?_, .inl (congrArg Inward.reading same)⟩
    rintro rfl
    simp [Action.concerns] at apart
  | came | late => exact .inr ⟨nofun, .inl rfl⟩
  | heard hearing =>
    cases hearing with
    | cancelled | expired => exact .inr ⟨nofun, .inr rfl⟩
    | @next item rest reads waits =>
      by_cases pong : item = .pong
      · exact .inl ⟨rfl, by rw [waits, pong]; rfl, reads, by simp [Link.read, pong, Incoming.ends]⟩
      · refine .inr ⟨fun _ head => pong ?_, ?_⟩
        · rw [waits] at head
          exact Option.some.inj head
        · cases ends : item.ends with
          | true => exact .inr (by simp [Link.read, ends, Link.unread])
          | false => exact .inl (by simp [Link.read, ends, pong])

theorem openUncancelled (peopled : Peopled config s) (held : s.hub.client? h = some c)
    (isOpen : s.hub.isOpen h = true) : c.cancelled = false := by
  cases cancelled : c.cancelled with
  | false => rfl
  | true => exact absurd (isOpen.symm.trans (cancelledShut peopled held cancelled)) (by simp)

theorem staysOpen (found : s.session.link? h = some l) (held : s.hub.client? h = some c) (acted : s.act? a = some s')
    (isOpen : s.hub.isOpen h = true) (found' : s'.session.link? h = some l') (working : l'.point ≠ .finished)
    (uncancelled : c.cancelled = false) (early : ∀ deadline, l.reading = some deadline → s.session.clock < deadline)
    (undisturbed : a.isLoopOf h = false → s'.hub.isOpen h = true) : s'.hub.isOpen h = true := by
  cases effect acted with
  | @write a k l' session _ found'' step =>
    by_cases here : h = k
    · subst here
      exact (Session.writeOpen found'' held step found' working).trans isOpen
    · rw [← isOpen]
      exact congrArg (Option.any (·.isOpen)) ((Session.writeApart step).client h here)
  | @call a session calls _ =>
    cases own : a.isLoopOf h with
    | false => exact undisturbed own
    | true =>
      exfalso
      cases a with
      | turn t =>
        obtain ⟨session', taken, -⟩ := Option.map_eq_some_iff.mp acted
        cases t with
        | readCancelled k =>
          obtain rfl : k = h := of_decide_eq_true own
          obtain ⟨_, -, -, step⟩ := Session.readStep rfl taken
          cases step with
          | cancelled held' cancelled =>
            cases held.symm.trans held'
            exact absurd (uncancelled.symm.trans cancelled) (by simp)
        | readExpired k =>
          obtain rfl : k = h := of_decide_eq_true own
          obtain ⟨_, found'', -, step⟩ := Session.readStep rfl taken
          cases found.symm.trans found''
          cases step with
          | expired reading _ due => exact Nat.not_lt.mpr due (early _ reading)
        | _ => contradiction
      | _ => contradiction
  | _ => exact undisturbed rfl

theorem talksOn (conform : Conform smooth s) (peopled : Peopled config s) (held : s.hub.client? h = some c)
    (found : s.session.link? h = some l) (sink : l.sink = .ok) (talking : l.point.isTalking = true)
    (isOpen : s.hub.isOpen h = true) (spares : a.Spares h) (effect : Effect s a s')
    (found' : s'.session.link? h = some l') :
    l'.sink = .ok ∧ l'.point.isTalking = true ∧ Session.Beat s.session l l' := by
  rcases outgoingMoves conform found effect with ⟨mode, same, kept⟩ | step
  · rw [Session.outgoing?, found', Option.map_some] at same
    obtain ⟨point, next, sink', written⟩ := Outgoing.mk.inj (Option.some.inj same)
    refine ⟨sink'.trans (kept spares sink), (congrArg WritePoint.isTalking point).trans talking,
      .aside (congrArg WritePoint.isPinging point) next ?_⟩
    rw [Link.pings, Link.history, written]
    rfl
  · obtain ⟨life, lived, lives⟩ := peopled.lives h c held
    cases Option.some.inj (lives.client.symm.trans held)
    have sending : life.client.sender = true := by
      have sound := Life.livedSound lived
      rw [sound.honest]
      simpa [Hub.isOpen, held] using isOpen
    obtain ⟨l'', found'', talks⟩ := Session.writeTalks found sink held talking sending step
    cases found'.symm.trans found''
    exact talks

structure Beating (config : HubConfig) (s : Scene) (h : Handle) (as : List Action) (s' : Scene) (l : Link)
    (deadline n : Nat) : Prop where
  found : s'.session.link? h = some l
  reading : l.reading = some deadline
  pulse : Pulse config s.session.clock s'.session.clock n l
  since : s.session.clock ≤ s'.session.clock
  first : s.session.clock + config.pongWait.nanos ≤ deadline
  pongs : ∀ pong, s.PongRead h as pong → pong ≤ s'.session.clock ∧ pong + config.pongWait.nanos ≤ deadline
  isOpen : s'.hub.isOpen h = true

namespace Beating
variable {deadline n : Nat}

theorem early (beating : Beating config s h as s' l deadline n) (valid : config.fault? = none)
    (responsive : Responsive config s h as) (ran : s.run? as = some s') : s'.session.clock < deadline := by
  refine beating.pulse.patient (HubConfig.faultless.mp valid).1 beating.first fun time sent due => ?_
  obtain ⟨pong, read, after, -⟩ :=
    responsive.answered as [] s' l (List.append_nil as).symm ran beating.found time sent due
  exact (Nat.add_le_add_right after _).trans (beating.pongs pong read).2

theorem pass (beating : Beating config s h as s' l deadline n) {nanos : Nat}
    (responsive : Responsive config s h (as ++ [.pass nanos])) (ran : s.run? as = some s')
    {s'' : Scene} (acted : s'.act? (.pass nanos) = some s'') :
    Beating config s h (as ++ [.pass nanos]) s'' l deadline n := by
  cases Option.some.inj acted
  obtain ⟨idle, stops⟩ := Session.passIdle beating.found beating.pulse.sink beating.pulse.talking
    (responsive.punctual s' nanos (.now ran _))
  have later := Nat.le_add_right s'.session.clock nanos
  refine ⟨beating.found, beating.reading, ?_, beating.since.trans later, beating.first, fun pong read => ?_,
    beating.isOpen⟩
  · exact beating.pulse.pass idle stops
  · rcases read.snoc ran with before | ⟨here, -⟩
    · exact (beating.pongs pong before).imp_left later.trans'
    · contradiction

theorem act (beating : Beating config s h as s' l deadline n) (valid : config.fault? = none)
    (responsive : Responsive config s h (as ++ [a])) (ran : s.run? as = some s')
    (conform : Conform (fun _ => False) s') (peopled : Peopled config s') {s'' : Scene}
    (acted : s'.act? a = some s'') (watched : s''.Watched) (still : s''.session.clock = s'.session.clock) :
    ∃ l' deadline' n', Beating config s h (as ++ [a]) s'' l' deadline' n' := by
  obtain ⟨found, reading, pulse, since, first, pongs, isOpen⟩ := beating
  have early := Beating.early ⟨found, reading, pulse, since, first, pongs, isOpen⟩ valid responsive.before ran
  obtain ⟨c, held⟩ := conform.linked found
  have uncancelled := openUncancelled peopled held isOpen
  obtain ⟨l', found', listens⟩ := listens conform held found acted
  obtain ⟨sink', talking', beat⟩ : l'.sink = .ok ∧ l'.point.isTalking = true ∧ Session.Beat s'.session l l' :=
    talksOn conform peopled held found pulse.sink pulse.talking isOpen
      (responsive.smooth a (List.mem_append_right _ List.mem_cons_self)) (effect acted) found'
  have open' : s''.hub.isOpen h = true := by
    refine staysOpen found held acted isOpen found' ?_ uncancelled ?_
      (undisturbedOpen (responsive.undisturbed s' a (.now ran a)) acted isOpen)
    · intro finished
      simp [finished, WritePoint.isTalking] at talking'
    · intro deadline' reading'
      cases reading.symm.trans reading'
      exact early
  obtain ⟨_, reads⟩ := openReads watched found' open'
  obtain ⟨n', pulse'⟩ := pulse.beat peopled.settings beat sink' talking'
  rcases deadlineMoves listens with ⟨rfl, -, -, reading'⟩ | ⟨unread, kept⟩
  · have wait : s'.session.config.pongWait = config.pongWait := by rw [← peopled.settings]; rfl
    rw [Session.readDeadline, wait] at reading'
    refine ⟨l', _, n', found', reading', still ▸ pulse', still ▸ since, Nat.add_le_add_right since _,
      fun pong read => ?_, open'⟩
    rcases read.snoc ran with before | ⟨-, clock, -⟩
    · obtain ⟨past, -⟩ := pongs pong before
      exact ⟨past.trans_eq still.symm, Nat.add_le_add_right past _⟩
    · exact ⟨clock.ge.trans_eq still.symm, Nat.add_le_add_right clock.ge _⟩
  · have reading' : l'.reading = some deadline := by
      exact (kept.resolve_right fun ended => absurd (ended.symm.trans reads) (by simp)).trans reading
    refine ⟨l', deadline, n', found', reading', still ▸ pulse', still ▸ since, first, fun pong read => ?_, open'⟩
    rcases read.snoc ran with before | ⟨here, -, l₀, rest, found₀, waits⟩
    · exact still ▸ pongs pong before
    · cases found.symm.trans found₀
      exact absurd (by rw [waits]; rfl) (unread here)

end Beating

section Run
variable (valid : config.fault? = none) {before : List Action}
variable (reached : (opening config).run? before = some t) (begun : h ∈ t.marked) (isOpen : t.hub.isOpen h = true)

include reached begun isOpen in
theorem beatingStart : ∃ l deadline n, Beating config (t.attach h .ok) h [] (t.attach h .ok) l deadline n := by
  obtain ⟨conform, peopled⟩ := peopled reached
  obtain ⟨-, -, found⟩ := attachedLink conform begun .ok
  have settings : t.session.config = config := peopled.settings
  have beat : config.beat t.session.clock 1 = t.session.clock + config.pingPeriod.nanos := by
    rw [config.beatSucc, config.beatZero]
  refine ⟨_, _, 0, found, rfl, ⟨rfl, rfl, rfl, ?_, ?_, nofun⟩, Nat.le_refl _, ?_, ?_, isOpen⟩
  · rw [settings]
    exact beat.symm
  · exact (Nat.le_add_right _ _).trans_eq beat.symm
  · rw [settings]
    exact Nat.le_refl _
  · rintro pong ⟨u, l, rest, does, -⟩
    exact absurd does.done List.not_mem_nil

include valid reached begun isOpen in
theorem beatingRun (responsive : Responsive config (t.attach h .ok) h as) (ran : (t.attach h .ok).run? as = some s) :
    ∃ l deadline n, Beating config (t.attach h .ok) h as s l deadline n := by
  induction as using List.reverseRecOn generalizing s with
  | nil =>
    cases ran
    exact beatingStart reached begun isOpen
  | append_singleton done a ih =>
    obtain ⟨u, earlier, acted⟩ := runSnoc.mp ran
    obtain ⟨l, deadline, n, beating⟩ := ih responsive.before earlier
    have whole := attachedRun reached begun earlier
    obtain ⟨conform, peopled⟩ := peopled whole
    have watched := watchedStep conform (watched whole) acted
    rcases clockMoves (effect acted) with still | ⟨nanos, rfl, -⟩
    · exact beating.act valid responsive earlier conform peopled acted watched still
    · exact ⟨l, deadline, n, beating.pass responsive earlier acted⟩

end Run

/-- A responsive peer is never dropped. Let the loops of an open client be set going, with a sink that takes every
frame at once, and let every ping be answered in time and nobody close the client. Then, however long the run is and
whatever is sent and comes in, the client is open, its deadline still lies ahead, and the pings that were written went
out a period after the start, two periods after it, and so on; none is left out. -/
theorem responsivePeersStay {config : HubConfig} (valid : config.fault? = none) {before : List Action} {t : Scene}
    (reached : (opening config).run? before = some t) {h : Handle} (begun : h ∈ t.marked)
    (isOpen : t.hub.isOpen h = true) {as : List Action} {s : Scene} (ran : (t.attach h .ok).run? as = some s)
    (responsive : Responsive config (t.attach h .ok) h as) :
    ∃ c l deadline n, s.hub.client? h = some c ∧ s.session.link? h = some l ∧ c.state = .open ∧
      l.reading = some deadline ∧ s.session.clock < deadline ∧ s.session.take? (.readExpired h) = none ∧
      l.pings = (List.range n).map (fun k => t.session.clock + (k + 1) * config.pingPeriod.nanos) ∧
      s.session.clock ≤ t.session.clock + (n + 1) * config.pingPeriod.nanos ∧
      (s.session.rests h = true → s.session.clock < t.session.clock + (n + 1) * config.pingPeriod.nanos) := by
  obtain ⟨l, deadline, n, beating⟩ := beatingRun valid reached begun isOpen responsive ran
  obtain ⟨c, held, state⟩ := (Option.any_eq_true ..).mp beating.isOpen
  have early := beating.early valid responsive ran
  have pulse := beating.pulse
  refine ⟨c, l, deadline, n, held, beating.found, of_decide_eq_true state, beating.reading, early, ?_, pulse.pings,
    pulse.due, fun rests => ?_⟩
  · simpa [Session.take?, Session.readExpired?, beating.found, beating.reading] using fun _ => early
  · obtain ⟨idle, ahead⟩ := Session.restsIdle beating.found pulse.sink pulse.talking rests
    have next := pulse.next
    rw [idle] at next
    exact ahead.trans_eq next

def shortPeriods : HubConfig := { pingPeriod := .ofMillis 20, pongWait := .ofMillis 30 }

def startedClient : List Action := [.build { id := "c", user := "u", tenant := "t" }, .takeQueue 0, .markStarted 0]

/- The first pong comes at the last moment, the second one at once, and the third one is still on its way. -/
def pongsInTime : List Action := [
  .pass 20000000, .turn (.tick 0), .turn (.write 0), .turn (.write 0), .receive 0 .pong, .pass 9000000,
  .turn (.readNext 0), .pass 11000000, .turn (.tick 0), .turn (.write 0), .turn (.write 0), .send 0 [104, 105],
  .turn (.takeMessage 0), .turn (.write 0), .turn (.write 0), .receive 0 .pong, .receive 0 (.text [1]),
  .turn (.readNext 0), .turn (.readNext 0), .pass 20000000, .turn (.tick 0), .turn (.write 0), .turn (.write 0)]

theorem pongsInTimeChecks : ((opening shortPeriods).run? startedClient).any (fun t =>
    t.hub.isOpen 0 && decide (0 ∈ t.marked) &&
    ((t.attach 0 .ok).run? pongsInTime).any (fun s => s.session.clock = 60000000 &&
      (s.session.link? 0).any fun l => l.pings = [20000000, 40000000, 60000000]) &&
    (List.range 24).all (fun n => ((t.attach 0 .ok).run? (pongsInTime.take n)).all fun u =>
      (pongsInTime[n]?).all (u.undisturbed 0) &&
      ((pongsInTime[n]?).bind Action.nanos?).all (u.session.mayPass 0) &&
      (u.session.link? 0).all fun l => l.pings.all fun time => decide (u.session.clock < time + 10000000) ||
        (decide (time = 20000000) && decide (6 < n)) || (decide (time = 40000000) && decide (17 < n))) &&
    [(6, 29000000), (17, 40000000)].all (fun pong => ((t.attach 0 .ok).run? (pongsInTime.take pong.1)).any fun u =>
      u.session.clock = pong.2 && (u.session.link? 0).any fun l => l.incoming.head? = some .pong)) = true := by
  decide +kernel

theorem threePingsOnTime : ∃ t s c l deadline, (opening shortPeriods).run? startedClient = some t ∧
    (t.attach 0 .ok).run? pongsInTime = some s ∧ Responsive shortPeriods (t.attach 0 .ok) 0 pongsInTime ∧
    s.hub.client? 0 = some c ∧ s.session.link? 0 = some l ∧ c.state = .open ∧
    l.pings = [20000000, 40000000, 60000000] ∧ s.session.clock = 60000000 ∧ l.reading = some deadline ∧
    s.session.clock < deadline := by
  obtain ⟨t, reached, shown⟩ := (Option.any_eq_true ..).mp pongsInTimeChecks
  simp only [Bool.and_eq_true, decide_eq_true_eq] at shown
  obtain ⟨⟨⟨⟨isOpen, begun⟩, final⟩, each⟩, pongs⟩ := shown
  obtain ⟨s, ran, final⟩ := (Option.any_eq_true ..).mp final
  simp only [Bool.and_eq_true, decide_eq_true_eq] at final
  obtain ⟨clock, final⟩ := final
  obtain ⟨l', found', pings⟩ := (Option.any_eq_true ..).mp final
  have along : ∀ n u, n < 24 → (t.attach 0 .ok).run? (pongsInTime.take n) = some u → _ := fun n u inside ran => by
    have here := List.all_eq_true.mp each n (List.mem_range.mpr inside)
    rw [ran, Option.all_some, Bool.and_eq_true, Bool.and_eq_true] at here
    exact here
  have inside : ∀ {n a}, pongsInTime[n]? = some a → n < 24 := fun here =>
    Nat.lt_succ_of_lt (List.getElem?_eq_some_iff.mp here).1
  have responsive : Responsive shortPeriods (t.attach 0 .ok) 0 pongsInTime := by
    refine ⟨by simp [pongsInTime, Action.Spares], fun u a does => ?_, fun u nanos does => ?_, ?_⟩
    · obtain ⟨n, here, ran⟩ := doesAt.mp does
      have calm := (along n u (inside here) ran).1.1
      rwa [here, Option.all_some] at calm
    · obtain ⟨n, here, ran⟩ := doesAt.mp does
      have passes := (along n u (inside here) ran).1.2
      rwa [here, Option.bind_some, Action.nanos?, Option.all_some] at passes
    · intro before after u l shape ran found time sent due
      have place : before = pongsInTime.take before.length := by rw [shape, List.take_left]
      have short : before.length < 24 := by
        have length : pongsInTime.length = before.length + after.length := by rw [shape, List.length_append]
        have whole : pongsInTime.length = 23 := rfl
        omega
      generalize before.length = n at place short
      subst place
      have answers := (along n u short ran).2
      rw [found, Option.all_some] at answers
      have answer := List.all_eq_true.mp answers time sent
      have read := fun (i p : Nat) (member : (i, p) ∈ [(6, 29000000), (17, 40000000)]) (later : i < n) here =>
        pongReadAt later here (List.all_eq_true.mp pongs (i, p) member)
      have due : time + 10000000 ≤ u.session.clock := due
      simp only [Bool.or_eq_true, Bool.and_eq_true, decide_eq_true_eq] at answer
      rcases answer with (early | ⟨rfl, later⟩) | ⟨rfl, later⟩
      · exact absurd early (Nat.not_lt.mpr due)
      · exact ⟨29000000, read 6 _ (by simp) later rfl, by decide, by decide⟩
      · exact ⟨40000000, read 17 _ (by simp) later rfl, by decide, by decide⟩
  obtain ⟨c, l, deadline, n, held, found, state, reading, early, -⟩ :=
    responsivePeersStay (by decide) reached begun isOpen ran responsive
  rw [Option.some.inj (found'.symm.trans found)] at pings
  exact ⟨t, s, c, l, deadline, reached, ran, responsive, held, found, state, of_decide_eq_true pings, clock, reading,
    early⟩

end Scene
end RelayHub
