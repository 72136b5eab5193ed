import RelayHub.Proofs.Scene.Pulse

/-! When a peer that says nothing is dropped. The read loop waits for one fixed time since the last pong, or since it
was set going; whatever else comes in or is sent meanwhile makes no difference. -/
namespace RelayHub

def Action.expires (h : Handle) : Action → Bool
  | .turn (.readExpired k) => k = h
  | _ => false

namespace Session
variable {s : Session} {h : Handle}

def heeds (s : Session) (h : Handle) (nanos : Nat) : Bool :=
  (s.link? h).all fun l => l.reading.all fun deadline => s.clock + nanos ≤ deadline

theorem settledEarly (settled : s.settled = true) {l : Link} (found : s.link? h = some l) {deadline : Nat}
    (reading : l.reading = some deadline) : s.clock < deadline := by
  have inside := linkInside found
  have unread : s.take? (.readNext h) = none := settledTurn settled (by simp [turns, inside])
  have unexpired : s.readExpired? h = none := settledTurn settled (t := .readExpired h) (by simp [turns, inside])
  have reads : l.readDone = false := by simp [Link.readDone, reading]
  have idle : l.incoming = [] := Scene.nothingWaits (s := { session := s }) found reads unread
  simpa [readExpired?, found, reading, idle] using unexpired

theorem settledHeeds (settled : s.settled = true) {nanos : Nat}
    (within : ∀ time, s.nextTimer? = some time → s.clock + nanos ≤ time) (h : Handle) : s.heeds h nanos = true := by
  cases found : s.link? h with
  | none => simp [heeds, found]
  | some l =>
    cases reading : l.reading with
    | none => simp [heeds, found, reading]
    | some deadline =>
      have timer : deadline ∈ timers l := by simp [timers, reading]
      obtain ⟨first, next, least⟩ := listedTimer found timer (settledEarly settled found reading)
      simp [heeds, found, reading, (within first next).trans least]

end Session

namespace Scene
variable {config : HubConfig} {as : List Action} {s t u u' : Scene} {a : Action} {h : Handle} {l : Link}
variable {since : Nat}

theorem PongRead.later {time : Nat} (read : s.PongRead h as time) (more : List Action) :
    s.PongRead h (as ++ more) time := by
  obtain ⟨t, l, rest, does, pong⟩ := read
  exact ⟨t, l, rest, does.later more, pong⟩

structure Silence (s : Scene) (h : Handle) (as : List Action) (since : Nat) : Prop where
  last : since = s.session.clock ∨ s.PongRead h as since
  start : s.session.clock ≤ since
  pongs : ∀ pong, s.PongRead h as pong → pong ≤ since

namespace Silence

theorem unique {since' : Nat} (silence : s.Silence h as since) (silence' : s.Silence h as since') :
    since' = since := by
  refine Nat.le_antisymm ?_ ?_
  · rcases silence'.last with rfl | read
    · exact silence.start
    · exact silence.pongs _ read
  · rcases silence.last with rfl | read
    · exact silence'.start
    · exact silence'.pongs _ read

theorem goesOn (silence : s.Silence h as since) (ran : s.run? as = some u) (found : u.session.link? h = some l)
    (unread : a = .turn (.readNext h) → l.incoming.head? ≠ some .pong) : s.Silence h (as ++ [a]) since where
  last := silence.last.imp_right (·.later [a])
  start := silence.start
  pongs pong read := by
    rcases read.snoc ran with before | ⟨here, -, l', rest, found', waits⟩
    · exact silence.pongs pong before
    · cases found.symm.trans found'
      exact absurd (by rw [waits]; rfl) (unread here)

theorem broken (silence : s.Silence h as since) (past : since ≤ u.session.clock) (ran : s.run? as = some u)
    (found : u.session.link? h = some l) (pong : l.incoming.head? = some .pong) :
    s.Silence h (as ++ [.turn (.readNext h)]) u.session.clock where
  last := by
    obtain ⟨rest, waits⟩ := List.head?_eq_some_iff.mp pong
    exact .inr ⟨u, l, rest, .now ran _, found, waits, rfl⟩
  start := silence.start.trans past
  pongs time read := by
    rcases read.snoc ran with before | ⟨-, now, -⟩
    · exact (silence.pongs time before).trans past
    · exact now.ge

end Silence

section Attached
variable {before : List Action} (reached : (opening config).run? before = some t) (begun : h ∈ t.marked)
variable (sink : SinkMode)
include reached begun

variable {sink} (ran : (t.attach h sink).run? as = some s)
include ran

end Attached

def spared (s : Scene) (h : Handle) (a : Action) : Bool :=
  a.expires h || !s.hub.isOpen h || (s.act? a).all (·.hub.isOpen h)

/-- A run in which nothing else closes the client, be it a call, a handler, the end of its write loop, or a close
frame, a fault or the end of the stream that is read; and in which the clock does not pass over the deadline. -/
structure LeftAlone (s : Scene) (h : Handle) (as : List Action) : Prop where
  spared : ∀ t a, s.Does as t a → t.spared h a = true
  punctual : ∀ t nanos, s.Does as t (.pass nanos) → t.session.heeds h nanos = true

theorem LeftAlone.before (alone : s.LeftAlone h (as ++ [a])) : s.LeftAlone h as where
  spared t b does := alone.spared t b (does.later [a])
  punctual t nanos does := alone.punctual t nanos (does.later [a])

structure Dropped (s : Scene) (h : Handle) (as : List Action) (u u' : Scene) (l l' : Link) : Prop where
  place : ∃ earlier later, as = earlier ++ .turn (.readExpired h) :: later ∧ s.run? earlier = some u
  acted : u.act? (.turn (.readExpired h)) = some u'
  found : u.session.link? h = some l
  reading : l.reading = some u.session.clock
  isOpen : u.hub.isOpen h = true
  found' : u'.session.link? h = some l'
  ended : l'.reading = none
  shut : u'.hub.isOpen h = false

theorem Dropped.later {v v' : Scene} {l l' : Link} (dropped : s.Dropped h as v v' l l') (more : List Action) :
    s.Dropped h (as ++ more) v v' l l' := by
  obtain ⟨earlier, later, shape, ran⟩ := dropped.place
  have longer : as ++ more = earlier ++ .turn (.readExpired h) :: (later ++ more) := by
    rw [shape, List.append_assoc, List.cons_append]
  exact { dropped with place := ⟨earlier, later ++ more, longer, ran⟩ }

structure Waiting (config : HubConfig) (u : Scene) (h : Handle) (l : Link) (since : Nat) : Prop where
  isOpen : u.hub.isOpen h = true
  reading : l.reading = some (since + config.pongWait.nanos)
  early : u.session.clock ≤ since + config.pongWait.nanos

structure Gone (config : HubConfig) (s : Scene) (h : Handle) (as : List Action) (u : Scene) (l : Link)
    (since : Nat) : Prop where
  shut : u.hub.isOpen h = false
  ended : l.reading = none
  late : since + config.pongWait.nanos ≤ u.session.clock
  dropped : ∃ v v' m m', v.session.clock = since + config.pongWait.nanos ∧ s.Dropped h as v v' m m'

theorem Gone.later {l' : Link} (gone : Gone config s h as u l since) (known : h < u.hub.clients.length)
    (reading : l'.reading = l.reading ∨ l'.reading = none) (effect : Effect u a u') :
    Gone config s h (as ++ [a]) u' l' since where
  shut := (stir effect).shuts known gone.shut
  ended := reading.elim (·.trans gone.ended) id
  late := gone.late.trans (clockForward effect)
  dropped := by
    obtain ⟨v, v', m, m', clock, dropped⟩ := gone.dropped
    exact ⟨v, v', m, m', clock, dropped.later [a]⟩

theorem Waiting.expires {smooth : Handle → Prop} (waiting : Waiting config u h l since) (conform : Conform smooth u)
    (found : u.session.link? h = some l) (ran : s.run? as = some u)
    (acted : u.act? (.turn (.readExpired h)) = some u') {l' : Link} (found' : u'.session.link? h = some l')
    (watched : u'.Watched) : Gone config s h (as ++ [.turn (.readExpired h)]) u' l' since := by
  obtain ⟨c, held⟩ := conform.linked found
  obtain ⟨session, taken, rfl⟩ := Option.map_eq_some_iff.mp acted
  obtain ⟨_, here, reads, step⟩ := Session.readStep rfl taken
  cases found.symm.trans here
  obtain ⟨l'', found'', hearing⟩ := Session.readHeard held found reads step
  cases found'.symm.trans found''
  cases hearing with
  | expired reading _ due =>
    cases waiting.reading.symm.trans reading
    have clock : u.session.clock = since + config.pongWait.nanos := Nat.le_antisymm waiting.early due
    have ended : (l.unread c).reading = none := rfl
    have shut := watched h (by simp [Session.reads?, found'', ended])
    have place : ∃ earlier later, as ++ [.turn (.readExpired h)] = earlier ++ .turn (.readExpired h) :: later ∧
        s.run? earlier = some u := ⟨as, [], rfl, ran⟩
    exact ⟨shut, ended, clock.ge.trans (clockForward (effect acted)), u, _, l, _, clock, place, acted, found,
      clock ▸ reading, waiting.isOpen, found'', ended, shut⟩

section Alone
variable {before : List Action} (reached : (opening config).run? before = some t) (begun : h ∈ t.marked)
variable {sink : SinkMode}
include reached begun

theorem Dropped.told {u u' : Scene} {m m' : Link} (dropped : (t.attach h sink).Dropped h as u u' m m')
    (ran : (t.attach h sink).run? as = some s) (found : s.session.link? h = some l) :
    m.disconnects = 0 ∧ m'.disconnects = l.disconnects := by
  obtain ⟨earlier, later, rfl, early⟩ := dropped.place
  have attached : t.act? (.attach h sink) = some (t.attach h sink) := by simp [act?, begun]
  constructor
  · have run : t.run? (.attach h sink :: earlier) = some u := by rw [run?, attached]; exact early
    obtain ⟨c, m₀, -, found₀, hears⟩ := heardRun reached run
    cases dropped.found.symm.trans found₀
    exact (hears.whileReading (by simp [Link.readDone, dropped.reading])).2
  · rw [runAppend, early, Option.bind_some, run?, dropped.acted, Option.bind_some] at ran
    have whole : (opening config).run? (before ++ [.attach h sink] ++ (earlier ++ [.turn (.readExpired h)])) =
        some u' := attachedRun reached begun (runSnoc.mpr ⟨u, early, dropped.acted⟩)
    obtain ⟨l', found', -, -, same⟩ :=
      overStays (peopled whole).1 dropped.found' (by simp [Link.readDone, dropped.ended]) ran
    cases found.symm.trans found'
    exact same.symm

end Alone

end Scene
end RelayHub
