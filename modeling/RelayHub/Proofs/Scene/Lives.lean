import RelayHub.Proofs.Client.Life
import RelayHub.Proofs.Scene.Delivery
import RelayHub.Proofs.Scene.Noticing
import RelayHub.Proofs.Session.Moving

/-! Every client of every run leads a life: whatever happens to it in an action is a number of parts of calls on it
and of steps of its loops. -/
namespace RelayHub

namespace Life
variable {capacity : Nat} {l : Life} {c c' : Client}

structure Beside (l l' : Life) : Prop where
  cancelling : l'.cancelling = l.cancelling
  telling : l'.telling = l.telling
  loop : l'.loop = l.loop
  started : l'.client.started = l.client.started

theorem Beside.trans {a b c : Life} (first : a.Beside b) (second : b.Beside c) : a.Beside c :=
  ⟨second.cancelling.trans first.cancelling, second.telling.trans first.telling, second.loop.trans first.loop,
    second.started.trans first.started⟩

theorem Step.tell (heard : Bool) {n : Nat} (pending : l.telling = n + 1) :
    Step capacity l { l with telling := n, notices := l.notices + Hub.partings heard true false } := by
  cases heard with
  | true => exact .told pending
  | false => exact .unheard pending

theorem closeBegun (isOpen : l.client.isOpen = true) :
    l.close = { l with client := l.client.beginClose, cancelling := l.cancelling + 1 } := by
  simp [close, isOpen]

theorem beginCloseStarted (c : Client) : c.beginClose.started = c.started := by
  unfold Client.beginClose
  split
  · rfl
  · rfl

/- What a hub does to a client can be done part by part. It hears of the end, or it does not. -/
theorem dealtLater (heard : Bool) (dealt : Client.Dealt capacity c c') (mine : l.client = c) :
    ∃ l', Later capacity l l' ∧ l'.client = c' ∧ l.Beside l' ∧
      l'.notices = l.notices + Hub.partings heard c.isOpen c'.isOpen := by
  induction dealt generalizing l with
  | refl c => exact ⟨l, .refl, mine, ⟨rfl, rfl, rfl, rfl⟩, by rw [Hub.partingsSame]; rfl⟩
  | offered c m =>
    subst mine
    obtain ⟨queue, accepted, offered⟩ := l.client.offerKeeps capacity m
    have started : (l.client.offer capacity m).2.started = l.client.started := by rw [offered]
    have face : (l.client.offer capacity m).2.isOpen = l.client.isOpen :=
      congrArg Face.isOpen (Hub.offerFace l.client capacity m)
    exact ⟨_, .single (.send m), rfl, ⟨rfl, rfl, rfl, started⟩, by rw [face, Hub.partingsSame]; rfl⟩
  | closed isOpen =>
    subst mine
    have begun := closeBegun isOpen
    have parts := (Relation.ReflTransGen.single (@Step.close capacity l)).tail (.cancel (congrArg cancelling begun))
    have shut : l.client.beginClose.cancel.isOpen = false := closedNow l
    exact ⟨_, parts.tail (.tell heard rfl), rfl, ⟨rfl, rfl, rfl, beginCloseStarted _⟩, by rw [isOpen, shut]; rfl⟩
  | trans first second ih ih' =>
    obtain ⟨l', later, mine', beside, notices⟩ := ih mine
    obtain ⟨l'', later', mine'', beside', notices'⟩ := ih' mine'
    refine ⟨l'', later.trans later', mine'', beside.trans beside', ?_⟩
    rw [notices', notices, Nat.add_assoc, Hub.partingsAdd first.shuts second.shuts]

end Life

def WritePoint.stage (p : WritePoint) : LoopStage := if p = .finished then .ended else .running

theorem WritePoint.working {p : WritePoint} (working : p ≠ .finished) : p.stage = .running := if_neg working

theorem WritePoint.stageEnded {p : WritePoint} : p.stage = .ended ↔ p = .finished := by
  unfold stage
  split
  · simp [*]
  · simp [*]

namespace Scene

def stage (s : Scene) (k : Handle) : LoopStage := ((s.session.outgoing? k).map (·.point.stage)).getD .absent

/- The client leads this life: its close calls and its loop stand where the scene has them. -/
structure Lives (s : Scene) (k : Handle) (l : Life) : Prop where
  client : s.hub.client? k = some l.client
  cancelling : l.cancelling = s.closing.count k
  telling : l.telling = 0
  loop : l.loop = s.stage k
  started : l.client.started = true ↔ k ∈ s.marked ∨ l.loop ≠ .absent

def Continues (capacity : Nat) (s : Scene) (k : Handle) (l : Life) (more : Nat) : Prop :=
  ∃ l', Life.Later capacity l l' ∧ s.Lives k l' ∧ l'.notices = l.notices + more

theorem stageAbsent {s : Scene} {k : Handle} (idle : s.session.outgoing? k = none) : s.stage k = .absent := by
  simp [stage, idle]

theorem stageLink {s : Scene} {k : Handle} {l : Link} (found : s.session.link? k = some l) :
    s.stage k = l.point.stage := by
  simp [stage, Session.outgoing?, found, Link.outgoing]

theorem stageSetSink (s : Scene) (h k : Handle) (mode : SinkMode) :
    ({ s with session := s.session.setSink h mode } : Scene).stage k = s.stage k := by
  simp only [stage, Session.setSink, Session.outgoing?, Session.linkUpdate]
  split
  · simp only [Option.map_map]
    rfl
  · rfl

theorem Lives.isOpen {s : Scene} {k : Handle} {l : Life} (lives : s.Lives k l) : s.hub.isOpen k = l.client.isOpen := by
  simp [Hub.isOpen, lives.client]

namespace Lives
variable {capacity : Nat} {s s' : Scene} {k : Handle} {l : Life}

theorem birth (p : Profile) (found : s.hub.client? k = some p.client) (closing : k ∉ s.closing)
    (marked : k ∉ s.marked) (idle : s.session.outgoing? k = none) : s.Lives k (.ofProfile p) where
  client := found
  cancelling := (List.count_eq_zero.mpr closing).symm
  telling := rfl
  loop := (stageAbsent idle).symm
  started := by simp [Life.ofProfile, Profile.client, marked]

theorem beside (lives : s.Lives k l) {l' : Life} (beside : l.Beside l')
    (client : s'.hub.client? k = some l'.client) (closing : s'.closing.count k = s.closing.count k)
    (marked : k ∈ s'.marked ↔ k ∈ s.marked) (stage : s'.stage k = s.stage k) : s'.Lives k l' where
  client := client
  cancelling := (beside.cancelling.trans lives.cancelling).trans closing.symm
  telling := beside.telling.trans lives.telling
  loop := (beside.loop.trans lives.loop).trans stage.symm
  started := by
    rw [beside.started, beside.loop, marked]
    exact lives.started

theorem same (lives : s.Lives k l) (client : s'.hub.client? k = s.hub.client? k)
    (closing : s'.closing.count k = s.closing.count k) (marked : k ∈ s'.marked ↔ k ∈ s.marked)
    (stage : s'.stage k = s.stage k) : s'.Lives k l :=
  lives.beside ⟨rfl, rfl, rfl, rfl⟩ (client.trans lives.client) closing marked stage

theorem dealt (lives : s.Lives k l) (config : s.hub.config.sendBufferSize = capacity) (dealt : s.hub.Dealt s'.hub)
    (closing : s'.closing = s.closing) (marked : s'.marked = s.marked)
    (outgoing : s'.session.outgoing? k = s.session.outgoing? k) :
    s'.Continues capacity k l (Hub.partings s.hub.isHeard (s.hub.isOpen k) (s'.hub.isOpen k)) := by
  obtain ⟨c', found, moved⟩ := dealt.client k _ lives.client
  rw [config] at moved
  obtain ⟨l', later, rfl, beside, notices⟩ := Life.dealtLater s.hub.isHeard moved rfl
  have lives' := lives.beside beside found (by rw [closing]) (by rw [marked]) (by rw [stage, outgoing]; rfl)
  exact ⟨l', later, lives', by rw [lives.isOpen, lives'.isOpen, notices]⟩

theorem still (lives : s.Lives k l) (client : s'.hub.client? k = s.hub.client? k)
    (closing : s'.closing.count k = s.closing.count k) (marked : k ∈ s'.marked ↔ k ∈ s.marked)
    (stage : s'.stage k = s.stage k) : s'.Continues capacity k l 0 :=
  ⟨l, .refl, lives.same client closing marked stage, rfl⟩

theorem changed (lives : s.Lives k l) {h : Handle} {f : Client → Client} {more : Nat}
    (client : s'.hub.client? k = (s.hub.update h f).client? k)
    (mine : k = h → s'.hub.client? k = some (f l.client) → s'.Continues capacity k l more)
    (closing : k ≠ h → s'.closing.count k = s.closing.count k) (marked : k ≠ h → (k ∈ s'.marked ↔ k ∈ s.marked))
    (stage : s'.stage k = s.stage k) : s'.Continues capacity k l (if k = h then more else 0) := by
  rw [Hub.clientUpdate] at client
  split
  · rename_i here
    rw [if_pos here, lives.client] at client
    exact mine here client
  · rename_i other
    rw [if_neg other] at client
    exact lives.still client (closing other) (marked other) stage

theorem beginClose (lives : s.Lives k l) (h : Handle) : (s.beginClose h).Continues capacity k l 0 := by
  refine ite_self 0 ▸ lives.changed rfl (fun here updated => ?_) (fun other => ?_) (fun _ => .rfl) rfl
  · subst here
    have started := Life.beginCloseStarted l.client
    refine ⟨l.close, .single .close, ⟨updated, ?_, lives.telling, lives.loop, started.symm ▸ lives.started⟩, rfl⟩
    have isOpen : s.hub.isOpen k = l.client.isOpen := by simp [Hub.isOpen, lives.client]
    simp only [Scene.beginClose, isOpen, Life.close, lives.cancelling]
    split
    · rw [List.count_cons_self]
    · rfl
  · simp only [Scene.beginClose]
    split
    · exact List.count_cons_of_ne other.symm
    · rfl

theorem finishClose (lives : s.Lives k l) {h : Handle} (begun : h ∈ s.closing) :
    (s.finishClose h).Continues capacity k l (if k = h then Hub.partings s.hub.isHeard true false else 0) := by
  have clients : (s.finishClose h).hub.client? k = (s.hub.update h Client.cancel).client? k :=
    congrArg (·[k]?) (Hub.finishCloseClients s.hub h)
  refine lives.changed clients (fun here updated => ?_) (fun other => List.count_erase_of_ne other) (fun _ => .rfl) rfl
  subst here
  have pending : l.cancelling = (s.closing.erase k).count k + 1 := by
    rw [lives.cancelling, List.count_erase_self]
    exact (Nat.succ_pred_eq_of_pos (List.count_pos_iff.mpr begun)).symm
  have cancelled := @Life.Step.cancel capacity l _ pending
  exact ⟨_, (Relation.ReflTransGen.single cancelled).tail (.tell s.hub.isHeard rfl),
    ⟨updated, rfl, lives.telling, lives.loop, lives.started⟩, rfl⟩

theorem takeQueue (lives : s.Lives k l) (h : Handle) : (s.takeQueue h).Continues capacity k l 0 := by
  rcases s.takeQueueCases h with same | ⟨c, found, free, shape⟩
  · rw [same]
    exact ⟨l, .refl, lives, rfl⟩
  · rw [shape]
    refine ite_self 0 ▸ lives.changed rfl (fun here updated => ?_) (fun _ => rfl) (fun _ => .rfl) rfl
    subst here
    cases found.symm.trans lives.client
    have given : l.client.takeQueue = some { l.client with queueTaken := true } := by simp [Client.takeQueue, free]
    exact ⟨_, .single (.takeQueue given), ⟨updated, lives.cancelling, lives.telling, lives.loop, lives.started⟩, rfl⟩

theorem markStarted (lives : s.Lives k l) (h : Handle) : (s.markStarted h).Continues capacity k l 0 := by
  have others : k ≠ h → (k ∈ h :: s.marked ↔ k ∈ s.marked) := fun other => List.mem_cons.trans (or_iff_right other)
  refine ite_self 0 ▸ lives.changed rfl (fun here updated => ?_) (fun _ => rfl) others rfl
  subst here
  have started : k ∈ k :: s.marked ∨ l.loop ≠ .absent := .inl List.mem_cons_self
  exact ⟨_, .single .markStarted, ⟨updated, lives.cancelling, lives.telling, lives.loop, fun _ => started,
    fun _ => rfl⟩, rfl⟩

theorem setMetadata (lives : s.Lives k l) (h : Handle) (key : String) (value : Json) :
    (s.onHub fun hub =>
      hub.update h fun c => { c with metadata := c.metadata.insert key value }).Continues capacity k l 0 := by
  refine ite_self 0 ▸ lives.changed rfl (fun _ updated => ?_) (fun _ => rfl) (fun _ => .rfl) rfl
  exact ⟨_, .single (.setMetadata _), ⟨updated, lives.cancelling, lives.telling, lives.loop, lives.started⟩, rfl⟩

theorem attach {smooth : Handle → Prop} (conform : Conform smooth s) (lives : s.Lives k l) {h : Handle}
    (sink : SinkMode) (begun : h ∈ s.marked) : (s.attach h sink).Continues capacity k l 0 := by
  obtain ⟨idle, c, found, taken⟩ := conform.given h (List.mem_append_right _ begun)
  by_cases here : k = h
  · subst here
    cases found.symm.trans lives.client
    have inside : k < s.session.links.length := by
      rw [conform.aligned]
      exact (List.getElem?_eq_some_iff.mp found).1
    have absent : l.loop = .absent := lives.loop.trans (stageAbsent idle)
    have running : (s.attach k sink).stage k = .running := by
      simp [stage, Scene.attach, Session.attach, Session.outgoing?, Session.linkSet, inside, Link.outgoing,
        WritePoint.stage]
    refine ⟨_, .single (.spawn taken absent), ⟨found, lives.cancelling, lives.telling, running.symm, ?_⟩, rfl⟩
    have started : l.client.started = true := lives.started.mpr (.inl begun)
    simp [started]
  · have stage : (s.attach h sink).stage k = s.stage k := by
      simp only [stage, Scene.attach, Session.attach, Session.outgoing?, Session.linkSet, here, false_and, if_false]
    exact lives.still rfl rfl (List.mem_erase_of_ne here) stage

theorem through (lives : s.Lives k l) (running : l.loop = .running) {c : Client}
    (closed : (s.hub.close k).client? k = some c) :
    ∃ l', Life.Later capacity l l' ∧ l'.client = c.markClosed ∧ l'.cancelling = l.cancelling ∧
      l'.telling = l.telling ∧ l'.loop = .ended ∧ l'.client.started = l.client.started ∧
      l'.notices = l.notices + Hub.partings s.hub.isHeard (s.hub.isOpen k) false := by
  have left := @Life.Step.leave capacity l running
  have same : s.hub.isOpen k = l.client.isOpen := by simp [Hub.isOpen, lives.client]
  cases isOpen : l.client.isOpen with
  | true =>
    have clients : (s.hub.close k).client? k = (s.hub.update k fun c => c.beginClose.cancel).client? k :=
      congrArg (·[k]?) (Hub.closeClients (same.trans isOpen))
    rw [Hub.clientUpdate, if_pos rfl, lives.client, closed] at clients
    cases Option.some.inj clients
    rw [Life.closeBegun isOpen] at left
    have parts := (Relation.ReflTransGen.single left).tail (.cancel rfl)
    have parts := (parts.tail (.tell s.hub.isHeard rfl)).tail (.markClosed rfl)
    exact ⟨_, parts, rfl, rfl, rfl, rfl, Life.beginCloseStarted _, by rw [same, isOpen]⟩
  | false =>
    rw [Hub.closeOfShut (same.trans isOpen), lives.client] at closed
    cases Option.some.inj closed
    rw [Life.closeShut isOpen] at left
    exact ⟨_, (Relation.ReflTransGen.single left).tail (.markClosed rfl), rfl, rfl, rfl, rfl, rfl, by
      rw [same, isOpen, Hub.partingsSame]; rfl⟩

theorem write (lives : s.Lives k l) {h : Handle} {link : Link} {session : Session}
    (found : s.session.link? h = some link) (step : Session.WriteStep s.session h link session) :
    ({ s with session } : Scene).Continues capacity k l
      (Hub.partings s.hub.isHeard (s.hub.isOpen k) (session.hub.isOpen k)) := by
  have kept : ∀ {l'}, ({ s with session } : Scene).Lives k l' → l'.client.isOpen = l.client.isOpen →
      Hub.partings s.hub.isHeard (s.hub.isOpen k) (session.hub.isOpen k) = 0 := by
    intro l' lives' same
    have after : session.hub.isOpen k = l'.client.isOpen := lives'.isOpen
    rw [after, same, lives.isOpen, Hub.partingsSame]
  by_cases here : k = h
  · subst here
    obtain ⟨c', link', held', found', -, -, moved⟩ := Session.writeMoves found lives.client step
    have stage : s.stage k = .running :=
      (stageLink found).trans (WritePoint.working (Session.writeWorking step))
    have stage' : ({ s with session } : Scene).stage k = link'.point.stage := stageLink found'
    have running : l.loop = .running := lives.loop.trans stage
    obtain ⟨p, place⟩ : ∃ p, p = link'.point := ⟨_, rfl⟩
    rw [← place] at moved stage'
    cases moved with
    | on working =>
      rw [WritePoint.working working] at stage'
      have lives' : ({ s with session } : Scene).Lives k l :=
        lives.same (held'.trans lives.client.symm) rfl .rfl (stage'.trans stage.symm)
      exact kept lives' rfl ▸ ⟨l, .refl, lives', rfl⟩
    | took working taken =>
      rw [WritePoint.working working] at stage'
      obtain ⟨rest, -, rfl⟩ := Client.dequeueTaken taken
      have lives' : ({ s with session } : Scene).Lives k { l with client := { l.client with queue := rest } } :=
        ⟨held', lives.cancelling, lives.telling, running.trans stage'.symm, lives.started⟩
      exact kept lives' rfl ▸ ⟨_, .single (.dequeue running taken), lives', rfl⟩
    | through closed =>
      obtain ⟨l', later, same, cancelling, telling, loop, started, notices⟩ := lives.through running closed
      have begun : l.client.started = true := lives.started.mpr (.inr (by simp [running]))
      have lives' : ({ s with session } : Scene).Lives k l' :=
        ⟨same ▸ held', cancelling.trans lives.cancelling, telling.trans lives.telling, loop.trans stage'.symm, by
          simp [started, begun, loop]⟩
      have after : session.hub.isOpen k = l'.client.isOpen := lives'.isOpen
      have shut : l'.client.isOpen = false := by rw [same]; rfl
      exact ⟨l', later, lives', by rw [after, shut, notices]⟩
  · have apart := Session.writeApart step
    have stage : ({ s with session } : Scene).stage k = s.stage k := by
      rw [stage, Conform.outgoingApart apart here]
      rfl
    have lives' : ({ s with session } : Scene).Lives k l := lives.same (apart.client k here) rfl .rfl stage
    exact kept lives' rfl ▸ ⟨l, .refl, lives', rfl⟩

theorem step {smooth : Handle → Prop} (conform : Conform smooth s) (lives : s.Lives k l) {a : Action}
    (config : s.hub.config.sendBufferSize = capacity) (effect : Effect s a s') :
    s'.Continues capacity k l (s.notified s' k a) := by
  have kept : ∀ {s' : Scene}, (s.hub.isOpen k = true → s'.hub.isOpen k = true) → s'.Continues capacity k l 0 →
      s'.Continues capacity k l (Hub.partings s.hub.isHeard (s.hub.isOpen k) (s'.hub.isOpen k)) := by
    intro s' kept continues
    rwa [Hub.partingsKept kept]
  have same : ∀ {s' : Scene}, s'.hub.outline = s.hub.outline → s'.Continues capacity k l 0 →
      s'.Continues capacity k l (Hub.partings s.hub.isHeard (s.hub.isOpen k) (s'.hub.isOpen k)) :=
    fun same => kept (Hub.sameOpen same k).trans
  cases effect with
  | build p =>
    have inside := (List.getElem?_eq_some_iff.mp lives.client).1
    refine kept (buildOpen s.hub p.client) (lives.still (List.getElem?_append_left inside) rfl .rfl ?_)
    simp only [stage, Session.outgoing?, Session.linkBuild]
  | register h _ => exact lives.dealt config (.register s.hub h) rfl rfl rfl
  | beginClose h _ => exact lives.beginClose h
  | finishClose h begun => exact lives.finishClose begun
  | takeQueue h _ => exact same (takeQueueOutline s h) (lives.takeQueue h)
  | markStarted h _ => exact same (Hub.outlineUpdate fun _ _ => rfl) (lives.markStarted h)
  | attach h sink begun => exact same rfl (lives.attach conform sink begun)
  | setMetadata h key value _ => exact same (Hub.outlineUpdate fun _ _ => rfl) (lives.setMetadata h key value)
  | flush => exact lives.dealt config (.flush s.hub) rfl rfl rfl
  | shutdown => exact lives.dealt config (.shutdown s.hub) rfl rfl rfl
  | run => exact lives.dealt config (.same rfl rfl) rfl rfl rfl
  | setSink h mode => exact same rfl (lives.still rfl rfl .rfl (stageSetSink s h k mode))
  | pass nanos => exact same rfl (lives.still rfl rfl .rfl rfl)
  | begin began => exact lives.dealt config (.beginRun began) rfl rfl rfl
  | loop stepped => exact lives.dealt config (.loopStep (Hub.loopSteps stepped)) rfl rfl rfl
  | write turn found step =>
    rw [(plainNotified s _ k (.inr turn)).2]
    exact lives.write found step
  | call call aside =>
    rw [(plainNotified s _ k (.inl call)).2]
    exact lives.dealt config (.calls aside.hub) rfl rfl (aside.outgoing k)

end Lives

def build (s : Scene) (p : Profile) : Scene := { s with session := (s.session.build p.client).2 }

section Steady
variable {s s' : Scene} {a : Action} (effect : Effect s a s')
include effect

theorem steady : s'.hub.config = s.hub.config ∧
    (s'.hub.clients.length = s.hub.clients.length ∨ ∃ p, s' = s.build p) := by
  have ofDealt : ∀ {hub}, s.hub.Dealt hub → hub.config = s.hub.config ∧
      (hub.clients.length = s.hub.clients.length ∨ ∃ p, s' = s.build p) :=
    fun dealt => ⟨dealt.config, .inl dealt.length⟩
  cases effect with
  | build p => exact ⟨rfl, .inr ⟨p, rfl⟩⟩
  | register h _ => exact ofDealt (.register s.hub h)
  | beginClose h _ => exact ⟨rfl, .inl (Hub.Later.beginClose s.hub h).length⟩
  | finishClose h _ => exact ⟨Hub.finishCloseConfig s.hub h, .inl (Hub.Later.finishClose s.hub h).length⟩
  | takeQueue h _ =>
    rcases s.takeQueueCases h with same | ⟨c, -, -, shape⟩
    · rw [same]
      exact ⟨rfl, .inl rfl⟩
    · rw [shape]
      exact ⟨rfl, .inl (List.length_modify ..)⟩
  | markStarted | setMetadata => exact ⟨rfl, .inl (List.length_modify ..)⟩
  | flush => exact ofDealt (.flush s.hub)
  | shutdown => exact ofDealt (.shutdown s.hub)
  | begin began => exact ofDealt (.beginRun began)
  | loop stepped => exact ofDealt (.loopStep (Hub.loopSteps stepped))
  | attach | run | setSink | pass => exact ⟨rfl, .inl rfl⟩
  | write _ _ step =>
    refine ⟨?_, .inl (Session.writeApart step).clients⟩
    rcases Session.writeOutline step with same | closed
    · exact congrArg Outline.config same
    · exact (congrArg Outline.config closed).trans (Hub.Dealt.close _ _).config
  | call _ aside => exact ofDealt (.calls aside.hub)

theorem closingKnown {h : Handle} (member : h ∈ s'.closing) : h ∈ s.closing ∨ s.has h = true := by
  cases effect with
  | beginClose k known =>
    simp only [Scene.beginClose] at member
    split at member
    · rcases List.mem_cons.mp member with rfl | earlier
      · exact .inr known
      · exact .inl earlier
    · exact .inl member
  | finishClose => exact .inl (List.mem_of_mem_erase member)
  | takeQueue k _ =>
    rcases s.takeQueueCases k with same | ⟨c, -, -, shape⟩
    · exact .inl (same ▸ member)
    · rw [shape] at member
      exact .inl member
  | _ => exact .inl member

end Steady

structure Peopled (config : HubConfig) (s : Scene) : Prop where
  settings : s.hub.config = config
  closing : ∀ h ∈ s.closing, h < s.hub.clients.length
  lives : ∀ k c, s.hub.client? k = some c → ∃ l, Life.Lived config.sendBufferSize l ∧ s.Lives k l

section Peopled
variable {smooth : Handle → Prop} {config : HubConfig} {s s' : Scene} {a : Action}
variable (conform : Conform smooth s) (peopled : Peopled config s)
include conform peopled

theorem livesOn (effect : Effect s a s') {k : Handle} (known : k < s.hub.clients.length) :
    ∃ l, Life.Lived config.sendBufferSize l ∧ s'.Lives k l := by
  have capacity : s.hub.config.sendBufferSize = config.sendBufferSize := by rw [peopled.settings]
  obtain ⟨l, lived, lives⟩ := peopled.lives k _ (List.getElem?_eq_getElem known)
  obtain ⟨l', later, lives', -⟩ := lives.step conform capacity effect
  exact ⟨l', lived.later later, lives'⟩

theorem livesNew (p : Profile) : ∃ l, Life.Lived config.sendBufferSize l ∧
    (s.build p).Lives s.hub.clients.length l ∧ l.notices = 0 := by
  have strange : ∀ c, s.hub.client? s.hub.clients.length ≠ some c := fun c found =>
    absurd (List.getElem?_eq_some_iff.mp found).1 (Nat.lt_irrefl _)
  refine ⟨.ofProfile p, ⟨p, .refl⟩, .birth p List.getElem?_concat_length ?_ ?_ ?_, rfl⟩
  · exact fun member => Nat.lt_irrefl _ (peopled.closing _ member)
  · intro member
    obtain ⟨-, c, found, -⟩ := conform.given _ (List.mem_append_right _ member)
    exact strange c found
  · cases wired : (s.build p).session.outgoing? s.hub.clients.length with
    | none => rfl
    | some o =>
      have before : s.session.outgoing? s.hub.clients.length = some o :=
        (congrArg (Option.map Link.outgoing) (Session.linkBuild ..)).symm.trans wired
      obtain ⟨c, found, -⟩ := conform.wired _ o before
      exact absurd found (strange c)

theorem peopledStep (effect : Effect s a s') : Peopled config s' := by
  obtain ⟨same, length⟩ := steady effect
  have before : ∀ h ∈ s'.closing, h < s.hub.clients.length := by
    intro h member
    rcases closingKnown effect member with earlier | known
    · exact peopled.closing h earlier
    · exact of_decide_eq_true known
  have settings := same.trans peopled.settings
  rcases length with length | ⟨p, rfl⟩
  · refine ⟨settings, fun h member => length ▸ before h member, fun k c found => ?_⟩
    have known := (List.getElem?_eq_some_iff.mp found).1
    exact livesOn conform peopled effect (known.trans_eq length)
  · have length : (s.build p).hub.clients.length = s.hub.clients.length + 1 := List.length_append
    refine ⟨settings, fun h member => length ▸ Nat.lt_succ_of_lt (before h member), fun k c found => ?_⟩
    have known := (List.getElem?_eq_some_iff.mp found).1
    rcases Nat.lt_succ_iff_lt_or_eq.mp (known.trans_eq length) with old | rfl
    · exact livesOn conform peopled effect old
    · exact (livesNew conform peopled p).imp fun l new => ⟨new.1, new.2.1⟩

end Peopled

theorem unbornSilent {config : HubConfig} {s s' : Scene} {a : Action} {k : Handle} (peopled : Peopled config s)
    (unborn : s.hub.clients.length ≤ k) (acted : s.act? a = some s') :
    (a.asked s.hub).count k = 0 ∧ s.notified s' k a = 0 := by
  have other : ∀ h < s.hub.clients.length, k ≠ h := fun h known => (Nat.ne_of_lt (known.trans_le unborn)).symm
  have shut : s.hub.isOpen k = false := by
    rw [Hub.isOpen, Hub.client?, List.getElem?_eq_none unborn]
    rfl
  have silent : ∀ after, Hub.partings s.hub.isHeard (s.hub.isOpen k) after = 0 := fun _ =>
    Hub.partingsKept fun isOpen => absurd (shut.symm.trans isOpen) (by simp)
  cases a with
  | unregister h =>
    obtain ⟨known, -⟩ := onClientSome acted
    refine ⟨List.count_eq_zero.mpr fun member => ?_, silent _⟩
    rw [Action.asked] at member
    split at member
    · exact other h (of_decide_eq_true known) (List.mem_singleton.mp member)
    · contradiction
  | beginClose => exact ⟨rfl, rfl⟩
  | finishClose h =>
    obtain ⟨begun, -⟩ := ifSome acted
    exact ⟨rfl, if_neg (other h (peopled.closing h begun))⟩
  | _ => exact ⟨rfl, silent _⟩

section Run
variable {config : HubConfig} {as more : List Action} {s s' : Scene}

theorem peopledRun (conform : Conform (fun _ => False) s) (peopled : Peopled config s)
    (ran : s.run? as = some s') : Conform (fun _ => False) s' ∧ Peopled config s' :=
  conform.along peopled (fun _ _ _ conform peopled acted => peopledStep conform peopled (effect acted)) ran

theorem peopledStart (config : HubConfig) : Peopled config (opening config) where
  settings := rfl
  closing := by simp [opening]
  lives := by simp [opening, hub, Hub.client?]

theorem peopled (ran : (opening config).run? as = some s) : Conform (fun _ => False) s ∧ Peopled config s :=
  peopledRun (.start _ config) (peopledStart config) ran

/- A run that goes on takes every life along. All notices of it that join the queue are those of the life, but for
the removals that are asked for. -/
theorem livesLater (conform : Conform (fun _ => False) s) (peopled : Peopled config s) {k : Handle} {l : Life}
    (lives : s.Lives k l) (ran : s.run? as = some s') :
    ∃ l', Life.Later config.sendBufferSize l l' ∧ s'.Lives k l' ∧
      l'.notices + (s.asks as).count k = l.notices + (s.joins as).count (.unregister k) := by
  induction as generalizing s l with
  | nil =>
    cases ran
    exact ⟨l, .refl, lives, rfl⟩
  | cons a rest ih =>
    obtain ⟨next, acted, ran⟩ := Option.bind_eq_some_iff.mp ran
    have effect := effect acted
    obtain ⟨l', later, lives', notices⟩ := lives.step conform (by rw [peopled.settings]) effect
    obtain ⟨l'', later', lives'', onwards⟩ := ih (conform.onward effect) (peopledStep conform peopled effect) lives' ran
    refine ⟨l'', later.trans later', lives'', ?_⟩
    have joined := joinedRemovals effect k
    simp only [asks, joins, acted, List.count_append]
    omega

theorem livesBorn (conform : Conform (fun _ => False) s) (peopled : Peopled config s) {k : Handle}
    (unborn : s.hub.clients.length ≤ k) (ran : s.run? as = some s') (born : k < s'.hub.clients.length) :
    ∃ l, Life.Lived config.sendBufferSize l ∧ s'.Lives k l ∧
      l.notices + (s.asks as).count k = (s.joins as).count (.unregister k) := by
  induction as generalizing s with
  | nil =>
    cases ran
    exact absurd born (Nat.not_lt.mpr unborn)
  | cons a rest ih =>
    obtain ⟨next, acted, ran⟩ := Option.bind_eq_some_iff.mp ran
    have effect := effect acted
    obtain ⟨unasked, silent⟩ := unbornSilent peopled unborn acted
    have joined := joinedRemovals effect k
    -- until it is built nothing is asked or told about the client; from then on its life goes along
    have conform' := conform.onward effect
    have peopled' := peopledStep conform peopled effect
    simp only [asks, joins, acted, List.count_append]
    have onwards : next.hub.clients.length ≤ k → ∃ l, Life.Lived config.sendBufferSize l ∧ s'.Lives k l ∧
        l.notices + (next.asks rest).count k = (next.joins rest).count (.unregister k) :=
      fun unborn => ih conform' peopled' unborn ran
    rw [joined, unasked, silent, Nat.add_zero, Nat.zero_add, Nat.zero_add]
    obtain ⟨-, same | ⟨p, rfl⟩⟩ := steady effect
    · exact onwards (same ▸ unborn)
    · rcases Nat.eq_or_lt_of_le unborn with rfl | later
      · obtain ⟨l, lived, lives, fresh⟩ := livesNew conform peopled p
        obtain ⟨l', later, lives', notices⟩ := livesLater conform' peopled' lives ran
        rw [fresh, Nat.zero_add] at notices
        exact ⟨l', lived.later later, lives', notices⟩
      · exact onwards (List.length_append.trans_le later)

end Run

theorem sendOffers {hub : Hub} {k : Handle} {c : Client} (found : hub.client? k = some c) (m : Bytes) :
    ((hub.send k m).1 = true ↔ (c.offer hub.config.sendBufferSize m).1 = .accepted) ∧
      (hub.send k m).2.client? k = some (c.offer hub.config.sendBufferSize m).2 := by
  rcases c.offerCases hub.config.sendBufferSize m with ⟨-, offered⟩ | ⟨-, -, offered⟩ | ⟨-, -, offered⟩
  · simp [Hub.send, found, offered]
  · simp [Hub.send, found, offered, Hub.clientUpdate]
  · simp only [Hub.send, found, offered]
    exact ⟨by simp, found⟩

/-- Lives are orderly, in whatever order the parts of the calls on a client and the steps of its loops come. And
every client of every run leads such a life: it has got as far with its calls and its loop as the run has, a
send to it is answered as its queue says, and as the run goes on so does the life. -/
theorem lifeGoesForward (config : HubConfig) :
    (∀ l, Life.Lived config.sendBufferSize l → l.Orderly config.sendBufferSize) ∧
    ∀ as s, (opening config).run? as = some s → ∀ k c, s.hub.client? k = some c →
      ∃ l, Life.Lived config.sendBufferSize l ∧ l.client = c ∧ s.Lives k l ∧
        (∀ m, ((s.hub.send k m).1 = true ↔ (c.offer config.sendBufferSize m).1 = .accepted) ∧
          (s.hub.send k m).2.client? k = some (c.offer config.sendBufferSize m).2) ∧
        l.notices + ((opening config).asks as).count k = ((opening config).joins as).count (.unregister k) ∧
        ∀ more s', s.run? more = some s' → ∃ l', Life.Later config.sendBufferSize l l' ∧ s'.Lives k l' ∧
          l'.notices + (s.asks more).count k = l.notices + (s.joins more).count (.unregister k) := by
  refine ⟨fun l => Life.orderly, fun as s ran k c found => ?_⟩
  obtain ⟨l, lived, lives, notices⟩ := livesBorn (.start _ config) (peopledStart config) (Nat.zero_le k) ran
    (List.getElem?_eq_some_iff.mp found).1
  obtain ⟨conform, peopled⟩ := peopled ran
  have mine : l.client = c := Option.some.inj (lives.client.symm.trans found)
  have sends := sendOffers found
  rw [peopled.settings] at sends
  exact ⟨l, lived, mine, lives, sends, notices, fun more s' => livesLater conform peopled lives⟩

def closedDuringStart : List Action := [
  .build { id := "c", user := "u", tenant := "t" }, .send 0 [1], .takeQueue 0, .beginClose 0, .markStarted 0,
  .beginClose 0, .takeQueue 0, .attach 0 .ok, .finishClose 0]

theorem cancelledOnce : ∃ s c l, (opening {}).run? closedDuringStart = some s ∧ s.hub.client? 0 = some c ∧
    l.client = c ∧ c.state = .closed ∧ c.queue = [[1]] ∧ l.loop = .running ∧ l.cancels = 1 ∧ l.notices = 1 ∧
    l.starts = 1 ∧ (s.hub.send 0 [2]).1 = false ∧
    ∀ l', Life.Later 256 l l' → ClientState.rank .closed ≤ l'.client.state.rank := by
  have shown : ((opening {}).run? closedDuringStart).map
      (fun s => (s.hub.client? 0).map (fun c => (c.state, c.queue, c.queueTaken))) =
      some (some (.closed, [[1]], true)) := by rfl
  have stands : ((opening {}).run? closedDuringStart).map (fun s => (s.closing, s.stage 0)) =
      some ([], .running) := by rfl
  have told : (opening {}).joins closedDuringStart = [.unregister 0] := by rfl
  have unasked : (opening {}).asks closedDuringStart = [] := by rfl
  obtain ⟨s, ran, shown⟩ := Option.map_eq_some_iff.mp shown
  rw [ran] at stands
  obtain ⟨closing, stage⟩ := Prod.mk.inj (Option.some.inj stands)
  obtain ⟨c, found, shown⟩ := Option.map_eq_some_iff.mp shown
  simp only [Prod.mk.injEq] at shown
  obtain ⟨closed, queue, given⟩ := shown
  obtain ⟨orderly, led⟩ := lifeGoesForward {}
  obtain ⟨l, lived, rfl, lives, sends, notices, -⟩ := led closedDuringStart s ran 0 c found
  have orderly := orderly l lived
  have shut : l.client.state ≠ .open := by simp [closed]
  have once : l.cancels = 1 := by
    have cancels := orderly.cancels
    rwa [if_neg shut, lives.cancelling, closing] at cancels
  rw [told, unasked] at notices
  refine ⟨s, l.client, l, ran, found, rfl, closed, queue, lives.loop.trans stage, once, notices,
    orderly.given.trans (if_pos given), ?_, fun l' later => closed ▸ orderly.forward l' later⟩
  rw [Bool.eq_false_iff, ne_eq, (sends [2]).1, orderly.silent shut]
  simp

end Scene
end RelayHub
