import RelayHub.Proofs.Hub.Working
import RelayHub.Proofs.Session.Sending

/-! What is left to do in a session. To the work of the hub comes that of every connection: the way its write loop has
still to go, the pings that fall due and the items that wait to be read. Every turn of a loop makes this less. How
many pings fall due depends on how far the clock may go, so that is left open here; the work that a session is given
to settle counts those that are due already. -/
namespace RelayHub
open Session (pointWork dueTicks clientWork)

namespace Link

def readWork (clients : Nat) (l : Link) : Nat := if l.readDone then 0 else 1 + (3 * clients + 4) * l.incoming.length

def work (ticks : Nat → Nat) (clients : Nat) (l : Link) : Nat :=
  pointWork l.point + 3 * ticks l.nextPing + l.readWork clients

theorem readWorkDone {l : Link} (done : l.readDone = true) (clients : Nat) : l.readWork clients = 0 := if_pos done

theorem readWorkLeft {l : Link} (reads : l.readDone = false) (clients : Nat) :
    l.readWork clients = 1 + (3 * clients + 4) * l.incoming.length := if_neg (by simp [reads])

theorem workPong {l : Link} (reads : l.readDone = false) (ticks : Nat → Nat) (clients deadline : Nat) :
    ({ l with reading := some deadline } : Link).work ticks clients = l.work ticks clients := by
  rw [work, work, readWorkLeft reads, readWorkLeft rfl]

end Link

theorem sumPresent {α : Type} (xs : List (Option α)) (g : α → Nat) :
    ((xs.filterMap id).map g).sum = (xs.map fun x => x.elim 0 g).sum := by
  induction xs with
  | nil => rfl
  | cons x rest ih =>
    cases x with
    | none => simpa using ih
    | some x => simpa using ih

namespace Link

theorem tickLater (due now period : Nat) : due + period ≤ tickAfter due now period := by
  unfold tickAfter
  split
  · omega
  · exact Nat.le_refl _

theorem tickPassed (due now period : Nat) (late : due + tickTolerance < now) :
    tickAfter due now period = now + period := if_pos late

end Link

namespace Session

def workBy (s : Session) (ticks : Nat → Nat) : Nat :=
  ((s.links.filterMap id).map (Link.work ticks s.hub.clients.length)).sum + s.hub.work

def ticksNow (s : Session) (due : Nat) : Nat :=
  dueTicks { reading := none, nextPing := due } s.clock s.config.pingPeriod.nanos

def ticksUntil (period time due : Nat) : Nat := if time < due then 0 else (time - due) / period + 1

/-- More than the number of turns that are left before the clock passes a time. -/
def workUntil (s : Session) (time : Nat) : Nat := s.workBy (ticksUntil s.config.pingPeriod.nanos time)

theorem workNow (s : Session) : s.work = s.workBy s.ticksNow := by
  have links : (s.links.filterMap id).map s.linkWork =
      (s.links.filterMap id).map (Link.work s.ticksNow s.hub.clients.length) := rfl
  simp only [work, workBy, Hub.work, links, List.sum_eq_foldl]
  omega

def Ticking (ticks : Nat → Nat) (now period : Nat) : Prop :=
  ∀ due, due ≤ now → ticks (Link.tickAfter due now period) < ticks due

section Ticks
variable {due time period : Nat}

theorem fewerTicks (positive : 0 < period) {next : Nat} (later : due + period ≤ next) (inTime : due ≤ time) :
    ticksUntil period time next < ticksUntil period time due := by
  have here : ticksUntil period time due = (time - due) / period + 1 := if_neg (Nat.not_lt.mpr inTime)
  rw [here]
  unfold ticksUntil
  split
  · exact Nat.succ_pos _
  · have rest : (time - next) / period ≤ (time - due - period) / period := Nat.div_le_div_right (by omega)
    have one := Nat.div_eq_sub_div (a := time - due) positive (by omega)
    omega

theorem tickingUntil (positive : 0 < period) {now : Nat} (inTime : now ≤ time) :
    Ticking (ticksUntil period time) now period :=
  fun due passed => fewerTicks positive (Link.tickLater due now period) (passed.trans inTime)

theorem ticksNowLe (s : Session) (due : Nat) : s.ticksNow due ≤ ticksUntil s.config.pingPeriod.nanos s.clock due := by
  unfold ticksNow dueTicks ticksUntil
  dsimp only
  split
  · exact Nat.le_refl 0
  · split
    · exact Nat.le_add_left 1 _
    · exact Nat.le_refl _

theorem tickingNow {s : Session} (positive : 0 < s.config.pingPeriod.nanos) :
    Ticking s.ticksNow s.clock s.config.pingPeriod.nanos := by
  intro due passed
  by_cases late : due + Link.tickTolerance < s.clock
  · have one : s.ticksNow due = 1 := by simp [ticksNow, dueTicks, Nat.not_lt.mpr passed, late]
    have ahead : s.clock < s.clock + s.config.pingPeriod.nanos := Nat.lt_add_of_pos_right positive
    have none : s.ticksNow (s.clock + s.config.pingPeriod.nanos) = 0 := if_pos ahead
    rw [Link.tickPassed due _ _ late, one, none]
    exact Nat.one_pos
  · have onTime : s.ticksNow due = ticksUntil s.config.pingPeriod.nanos s.clock due := by
      simp [ticksNow, dueTicks, ticksUntil, late]
    rw [onTime]
    exact (ticksNowLe s _).trans_lt (tickingUntil positive (Nat.le_refl _) due passed)

end Ticks

variable {s s' : Session} {h : Handle} {l : Link} {ticks : Nat → Nat}

section Parts

theorem updateNobody (absent : s.link? h = none) (f : Link → Link) : s.updateLink h f = s := by
  have links : s.links.modify h (Option.map f) = s.links := by
    refine modifySame fun x here => ?_
    have none : x = none := by simpa [link?, here] using absent
    rw [none]
    rfl
  simp [updateLink, links]

theorem setHere (found : s.link? h = some l) (l' : Link) : s.setLink h l' = s.updateLink h fun _ => l' := by
  have links : s.links.set h (some l') = s.links.modify h (Option.map fun _ => l') := by
    refine List.ext_getElem? fun k => ?_
    rw [List.getElem?_set, List.getElem?_modify]
    by_cases here : h = k
    · subst here
      obtain ⟨x, there, rfl⟩ := Option.bind_eq_some_iff.mp found
      rw [if_pos rfl, if_pos (linkInside found), there]
      simp
    · simp [here]
  simp [setLink, updateLink, links]

theorem workUpdateLink (found : s.link? h = some l) (f : Link → Link) (ticks : Nat → Nat) :
    (s.updateLink h f).workBy ticks + l.work ticks s.hub.clients.length =
      s.workBy ticks + (f l).work ticks s.hub.clients.length := by
  obtain ⟨x, there, rfl⟩ := Option.bind_eq_some_iff.mp found
  have moved := sumModify there (Option.map f) fun x => x.elim 0 (Link.work ticks s.hub.clients.length)
  simp only [workBy, updateLink, sumPresent, Option.map_some, Option.elim_some] at moved ⊢
  omega

theorem workUpdateLinkLe {f : Link → Link}
    (less : ∀ l, s.link? h = some l →
      (f l).work ticks s.hub.clients.length ≤ l.work ticks s.hub.clients.length) :
    (s.updateLink h f).workBy ticks ≤ s.workBy ticks := by
  cases found : s.link? h with
  | none => rw [updateNobody found]
  | some l =>
    have moved := workUpdateLink found f ticks
    have less := less l found
    omega

theorem workOnHub {f : Hub → Hub} (more : Nat) (length : (f s.hub).clients.length = s.hub.clients.length)
    (less : (f s.hub).work ≤ s.hub.work + more) : (s.onHub f).workBy ticks ≤ s.workBy ticks + more := by
  simp only [workBy, onHub, length]
  omega

theorem workNoted (s : Session) (h : Handle) (entry : Client → Log.Entry) :
    (s.onHub (·.note h entry)).workBy ticks = s.workBy ticks := by
  simp only [workBy, onHub, Hub.workNote, Hub.noteClients]

theorem Noted.work (noted : Noted s h s') : s'.workBy ticks = s.workBy ticks := by
  cases noted with
  | silent => rfl
  | line entry => exact workNoted s h entry

theorem workClosed (s : Session) (h : Handle) : (s.onHub (·.close h)).workBy ticks ≤ s.workBy ticks :=
  workOnHub 0 (Hub.Dealt.close s.hub h).length (Hub.workClose s.hub h)

end Parts

section Write

theorem workMoveTo (found : s.link? h = some l) (p : WritePoint) (ticks : Nat → Nat) :
    (s.moveTo h p).workBy ticks + pointWork l.point = s.workBy ticks + pointWork p := by
  have moved := workUpdateLink found (fun l => { l with point := p }) ticks
  have reader : ({ l with point := p } : Link).readWork s.hub.clients.length = l.readWork s.hub.clients.length := rfl
  simp only [Link.work, reader] at moved
  simp only [moveTo]
  omega

theorem workPut (s : Session) (h : Handle) (w : Written) (ticks : Nat → Nat) :
    (s.put h w).workBy ticks ≤ s.workBy ticks :=
  workUpdateLinkLe fun _ _ => Nat.le_refl _

theorem workDequeue {m : Bytes} (taken : s.dequeue? h = some (m, s')) (ticks : Nat → Nat) :
    s'.workBy ticks + 3 = s.workBy ticks ∧ s'.links = s.links := by
  obtain ⟨c, rest, found, waits, rfl⟩ := dequeued taken
  refine ⟨?_, rfl⟩
  have moved := Hub.workUpdate found fun _ => { c with queue := rest }
  have lighter : clientWork { c with queue := rest } + 3 = clientWork c := by
    show 3 * rest.length + (if c.isOpen then 2 else 0) + 3 = 3 * c.queue.length + (if c.isOpen then 2 else 0)
    rw [waits, List.length_cons]
    omega
  simp only [workBy, onHub]
  have length : (s.hub.update h fun _ => { c with queue := rest }).clients.length = s.hub.clients.length :=
    List.length_modify ..
  rw [length]
  omega

theorem workNextInBatch (found : s.link? h = some l) {deadline budget : Nat} {m : Bytes}
    (point : l.point = .feeding deadline m budget) :
    (s.nextInBatch h deadline budget).workBy ticks < s.workBy ticks := by
  have flushed := workMoveTo found (.flushing deadline) ticks
  simp only [point, pointWork] at flushed
  cases budget with
  | zero =>
    simp only [nextInBatch]
    omega
  | succ budget =>
    simp only [nextInBatch]
    split
    · rename_i m' t taken
      obtain ⟨lighter, links⟩ := workDequeue taken ticks
      have found' : t.link? h = some l := (congrArg (fun links => links[h]?.join) links).trans found
      have moved := workMoveTo found' (.feeding deadline m' budget) ticks
      simp only [point, pointWork] at moved
      omega
    · omega

theorem workShut (found : s.link? h = some l) (before : 1 < pointWork l.point) :
    (s.shut h).workBy ticks < s.workBy ticks := by
  have moved := workMoveTo found (.shutting s.writeDeadline) ticks
  have last : pointWork (.shutting s.writeDeadline) = 1 := rfl
  simp only [shut]
  omega

theorem workFinishWrite (found : s.link? h = some l) {deadline : Nat} (point : l.point = .shutting deadline) :
    (s.finishWrite h).workBy ticks < s.workBy ticks := by
  let f : Hub → Hub := fun hub => (hub.close h).update h Client.markClosed
  have length : (f s.hub).clients.length = s.hub.clients.length :=
    (List.length_modify ..).trans (Hub.Dealt.close s.hub h).length
  have marked : (f s.hub).work ≤ (s.hub.close h).work := Hub.workUpdateLe fun _ _ => Nat.zero_le _
  have closed : (s.onHub f).workBy ticks ≤ s.workBy ticks :=
    workOnHub 0 length (marked.trans (Hub.workClose s.hub h))
  have moved := workMoveTo (s := s.onHub f) found .finished ticks
  simp only [point, pointWork] at moved
  show ((s.onHub f).moveTo h .finished).workBy ticks < s.workBy ticks
  omega

theorem workLost (found : s.link? h = some l) (before : 1 < pointWork l.point) (entry : Client → Log.Entry) :
    ((s.onHub (·.note h entry)).shut h).workBy ticks < s.workBy ticks :=
  (workShut (s := s.onHub (·.note h entry)) found before).trans_eq (workNoted s h entry)

theorem workPutMove (found : s.link? h = some l) (w : Written) {p : WritePoint}
    (less : pointWork p < pointWork l.point) :
    ((s.put h w).moveTo h p).workBy ticks < s.workBy ticks := by
  have put := workPut s h w ticks
  have moved := workMoveTo (putLink found w) p ticks
  have point : (l.record s.clock w).point = l.point := rfl
  rw [point] at moved
  omega

theorem workTick (ticking : Ticking ticks s.clock s.config.pingPeriod.nanos) (found : s.link? h = some l)
    (point : l.point = .idle) (due : l.nextPing ≤ s.clock) :
    (s.setLink h { l with
      point := .pinging s.writeDeadline
      nextPing := Link.tickAfter l.nextPing s.clock s.config.pingPeriod.nanos }).workBy ticks < s.workBy ticks := by
  rw [setHere found]
  have moved := workUpdateLink found (fun _ => { l with
    point := .pinging s.writeDeadline
    nextPing := Link.tickAfter l.nextPing s.clock s.config.pingPeriod.nanos }) ticks
  have fewer := ticking l.nextPing due
  have reader : ({ l with
      point := .pinging s.writeDeadline
      nextPing := Link.tickAfter l.nextPing s.clock s.config.pingPeriod.nanos } : Link).readWork
        s.hub.clients.length = l.readWork s.hub.clients.length := rfl
  simp only [Link.work, reader, point, pointWork] at moved
  omega

theorem workWrite (ticking : Ticking ticks s.clock s.config.pingPeriod.nanos) (found : s.link? h = some l)
    (step : WriteStep s h l s') : s'.workBy ticks < s.workBy ticks := by
  cases step with
  | @took m t point taken =>
    obtain ⟨lighter, links⟩ := workDequeue taken ticks
    have found' : t.link? h = some l := (congrArg (fun links => links[h]?.join) links).trans found
    have moved := workMoveTo found' (.feeding t.writeDeadline m t.config.sendBufferSize) ticks
    simp only [point, pointWork] at moved
    omega
  | ended point =>
    have moved := workMoveTo found (.goodbye s.writeDeadline) ticks
    simp only [point, pointWork] at moved
    omega
  | ticked point due => exact workTick ticking found point due
  | fed point => exact (workNextInBatch (putLink found _) point).trans_le (workPut s h _ ticks)
  | batchLost e lost =>
    refine workLost found ?_ _
    rcases lost with ⟨_, _, _, point, -⟩ | ⟨_, point, -⟩
    · simp [point, pointWork]
    · simp [point, pointWork]
  | flushed point =>
    have moved := workMoveTo found .idle ticks
    rcases point with point | point
    · simp only [point, pointWork] at moved
      omega
    · simp only [point, pointWork] at moved
      omega
  | pinged point => exact workPutMove found _ (by simp [point, pointWork])
  | pingLost lost =>
    refine workLost found ?_ _
    rcases lost with ⟨_, point, -⟩ | ⟨_, point, -⟩
    · simp [point, pointWork]
    · simp [point, pointWork]
  | parted point => exact workPutMove found _ (by simp [point, pointWork])
  | partingLost point => exact workShut found (by simp [point, pointWork])
  | partingFlushed point => exact workShut found (by simp [point, pointWork])
  | shutDown point => exact (workFinishWrite (putLink found _) point).trans_le (workPut s h _ ticks)
  | abandoned point => exact workFinishWrite found point

end Write

section Read
open Hub (Calls Dealt)

/- An item weighs more than all that may be sent on account of it. -/
theorem workPopped (found : s.link? h = some l) (reads : l.readDone = false) {item : Incoming} {rest : List Incoming}
    (waits : l.incoming = item :: rest) (ticks : Nat → Nat) :
    (s.setLink h { l with incoming := rest }).workBy ticks + (3 * s.hub.clients.length + 4) = s.workBy ticks := by
  rw [setHere found]
  have moved := workUpdateLink found (fun _ => { l with incoming := rest }) ticks
  have before := Link.readWorkLeft reads s.hub.clients.length
  have after := Link.readWorkLeft (l := { l with incoming := rest }) reads s.hub.clients.length
  rw [waits, List.length_cons, Nat.mul_succ] at before
  simp only [Link.work, before, after] at moved
  omega

theorem workRunDisconnect (s : Session) (h : Handle) : (s.runDisconnect h).workBy ticks ≤ s.workBy ticks := by
  unfold runDisconnect
  split
  · exact Nat.le_refl _
  · rename_i handler _
    have told : (s.updateLink h fun l => { l with disconnects := l.disconnects + 1 }).workBy ticks ≤ s.workBy ticks :=
      workUpdateLinkLe fun _ _ => Nat.le_refl _
    cases handler with
    | accept => exact told
    | reject reason => exact (workNoted _ h _).trans_le told

theorem workFinishRead (found : s.link? h = some l) (reads : l.readDone = false) :
    (s.finishRead h).workBy ticks < s.workBy ticks := by
  have ended : (s.updateLink h fun l => { l with reading := none }).workBy ticks < s.workBy ticks := by
    have moved := workUpdateLink found (fun l => { l with reading := none }) ticks
    have before := Link.readWorkLeft reads s.hub.clients.length
    have after := Link.readWorkDone (l := { l with reading := none }) rfl s.hub.clients.length
    simp only [Link.work, before, after] at moved
    omega
  refine Nat.lt_of_le_of_lt ?_ ended
  exact (workClosed _ h).trans ((workRunDisconnect _ h).trans (workNoted _ h _).le)

variable (filed : s.hub.Filed)
include filed

theorem workRunHandler (h : Handle) (data : Bytes) (handler : MessageHandler) (ticks : Nat → Nat) :
    (s.runHandler h data handler).workBy ticks ≤ s.workBy ticks + (3 * s.hub.clients.length + 3) := by
  cases handler with
  | relay =>
    simp only [runHandler]
    split
    · exact workOnHub _ (Dealt.calls (Calls.relay s.hub h data)).length (Hub.workRelay filed h data)
    · exact Nat.le_add_right _ _
  | record => exact Nat.le_add_right _ _
  | reject reason => exact (workNoted s h _).le.trans (Nat.le_add_right _ _)
  | echo =>
    have sent : (runHandler s h data .echo).workBy ticks ≤ s.workBy ticks + 3 :=
      workOnHub (f := fun hub => (hub.send h data).2) 3 (Dealt.send s.hub h data).length (Hub.workSend s.hub h data)
    omega
  | close => exact (workClosed s h).trans (Nat.le_add_right _ _)

theorem workHandle (h : Handle) (data : Bytes) :
    (s.handle h data).workBy ticks ≤ s.workBy ticks + (3 * s.hub.clients.length + 3) := by
  unfold handle
  split
  · exact Nat.le_add_right _ _
  · rename_i handler _
    have heard : (s.updateLink h fun l => { l with handled := l.handled ++ [data] }).workBy ticks ≤ s.workBy ticks :=
      workUpdateLinkLe fun _ _ => Nat.le_refl _
    have handled := workRunHandler (s := s.updateLink h fun l => { l with handled := l.handled ++ [data] }) filed h
      data handler ticks
    exact handled.trans (Nat.add_le_add_right heard _)

theorem workRead (found : s.link? h = some l) (reads : l.readDone = false) {t : Turn} (step : ReadStep s h l t s') :
    s'.workBy ticks < s.workBy ticks := by
  have finished : ∀ {u u' : Session} {l' : Link}, Noted u h u' → u.link? h = some l' → l'.readDone = false →
      (u'.finishRead h).workBy ticks < u.workBy ticks := fun noted found reads =>
    (workFinishRead ((noted.link h).trans found) reads).trans_eq noted.work
  have taken : ∀ rest, (s.setLink h { l with incoming := rest }).link? h = some { l with incoming := rest } :=
    fun rest => by rw [linkSet, if_pos ⟨rfl, linkInside found⟩]
  cases step with
  | @heard item rest data waits =>
    have popped := workPopped found reads waits ticks
    have handled : ((s.setLink h { l with incoming := rest }).handle h data).workBy ticks ≤
        (s.setLink h { l with incoming := rest }).workBy ticks + (3 * s.hub.clients.length + 3) :=
      workHandle (s := s.setLink h { l with incoming := rest }) filed h data
    omega
  | ignored waits =>
    have popped := workPopped found reads waits ticks
    omega
  | @pong rest waits =>
    have popped := workPopped found reads waits ticks
    have put : ∀ l', (s.setLink h { l with incoming := rest }).link? h = some l' → l'.readDone = false := by
      intro l' here
      cases (taken rest).symm.trans here
      exact reads
    refine Nat.lt_of_le_of_lt (workUpdateLinkLe fun l' here => (Link.workPong (put l' here) ..).le) ?_
    omega
  | ended waits _ noted =>
    have popped := workPopped found reads waits ticks
    have ended := finished noted (taken _) reads
    omega
  | cancelled => exact workFinishRead found reads
  | expired _ _ _ noted => exact finished noted found reads

end Read

theorem workTurn (filed : s.hub.Filed) (ticking : Ticking ticks s.clock s.config.pingPeriod.nanos) {t : Turn}
    (taken : s.take? t = some s') : s'.workBy ticks < s.workBy ticks := by
  have wrote : ∀ {h}, (∃ l, s.link? h = some l ∧ WriteStep s h l s') → s'.workBy ticks < s.workBy ticks :=
    fun ⟨_, found, step⟩ => workWrite ticking found step
  cases t with
  | run =>
    obtain ⟨hub, began, rfl⟩ := Option.map_eq_some_iff.mp taken
    have begun := Hub.workBegun (Hub.begun began)
    have length := (Hub.Dealt.beginRun began).length
    simp only [workBy, length]
    omega
  | loop =>
    obtain ⟨hub, stepped, rfl⟩ := Option.map_eq_some_iff.mp taken
    have step := Hub.loopSteps stepped
    have applied := Hub.workLoop step
    have length := (Hub.Dealt.loopStep step).length
    simp only [workBy, length]
    omega
  | readCancelled | readNext | readExpired =>
    obtain ⟨_, found, reads, step⟩ := readStep rfl taken
    exact workRead filed found reads step
  | takeMessage h => exact wrote (takeMessageStep taken)
  | tick h => exact wrote (tickStep taken)
  | write h => exact wrote (writeStep taken)
  | writeExpired h => exact wrote (writeExpiredStep taken)

end Session
end RelayHub
