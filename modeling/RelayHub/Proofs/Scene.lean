import RelayHub.Session.Turn

/-! Everything that may happen to one hub, one action after another in any order: the calls on the hub
and on its clients, the turns of all loops, what comes in from the peers, how their outgoing sides
behave, and the clock. Closing a client and starting one are calls of several steps, so other actions
may come between them; the scene remembers which are half done. A handler that does more than those of
the model is a sequence of further actions. -/
namespace RelayHub

structure Profile where
  id : String
  user : String
  tenant : String
  token : Option String := none
  metadata : Table Json := .empty
  onMessage : Option MessageHandler := none
  onDisconnect : Option DisconnectHandler := none

def Profile.client (p : Profile) : Client where
  id := p.id
  user := p.user
  tenant := p.tenant
  token := p.token
  metadata := p.metadata
  onMessage := p.onMessage
  onDisconnect := p.onDisconnect

inductive Action where
  | build (p : Profile)
  | register (client : Handle)
  | unregister (client : Handle)
  | beginClose (client : Handle)
  | finishClose (client : Handle)
  | takeQueue (client : Handle)
  | markStarted (client : Handle)
  | attach (client : Handle) (sink : SinkMode)
  | setMetadata (client : Handle) (key : String) (value : Json)
  | join (group : String) (client : Handle)
  | leave (group : String) (client : Handle)
  | disconnect (user : String)
  | send (client : Handle) (m : Bytes)
  | sendToUser (user : String) (m : Bytes)
  | sendToGroup (group : String) (m : Bytes)
  | sendToGroupExcept (group user : String) (m : Bytes)
  | sendToTenant (tenant : String) (m : Bytes)
  | broadcast (m : Bytes)
  | relay (client : Handle) (raw : Bytes)
  | flush
  | shutdown
  | run
  | receive (client : Handle) (item : Incoming)
  | setSink (client : Handle) (mode : SinkMode)
  | pass (nanos : Nat)
  | turn (t : Session.Turn)

structure Scene where
  session : Session
  /- Close calls that have changed the state and not yet told the hub. -/
  closing : List Handle := []
  /- Start calls that have the queue and have not yet marked the client. -/
  taken : List Handle := []
  /- Start calls that have marked the client and not yet set the loops going. -/
  marked : List Handle := []

namespace Scene

def opening (c : HubConfig) : Scene := { session := { hub := { config := c } } }

def hub (s : Scene) : Hub := s.session.hub

def has (s : Scene) (h : Handle) : Bool := h < s.hub.clients.length

def onHub (s : Scene) (f : Hub → Hub) : Scene := { s with session := s.session.onHub f }

def onClient? (s : Scene) (h : Handle) (f : Hub → Hub) : Option Scene :=
  if s.has h then some (s.onHub f) else none

def beginClose (s : Scene) (h : Handle) : Scene :=
  { s.onHub (fun hub => (hub.beginClose h).2) with
    closing := if s.hub.isOpen h then h :: s.closing else s.closing }

def finishClose (s : Scene) (h : Handle) : Scene :=
  { s.onHub (·.finishClose h) with closing := s.closing.erase h }

def takeQueue (s : Scene) (h : Handle) : Scene :=
  match s.session.takeQueue h with
  | .ok session => { s with session, taken := h :: s.taken }
  | .error _ => s

def markStarted (s : Scene) (h : Handle) : Scene :=
  { s with session := s.session.markStarted h, taken := s.taken.erase h, marked := h :: s.marked }

def attach (s : Scene) (h : Handle) (sink : SinkMode) : Scene :=
  { s with session := s.session.attach h sink, marked := s.marked.erase h }

def act? (s : Scene) : Action → Option Scene
  | .build p => some { s with session := (s.session.build p.client).2 }
  | .register h => s.onClient? h (·.register h)
  | .unregister h => s.onClient? h (·.unregister h)
  | .beginClose h => if s.has h then some (s.beginClose h) else none
  | .finishClose h => if h ∈ s.closing then some (s.finishClose h) else none
  | .takeQueue h => if s.has h then some (s.takeQueue h) else none
  | .markStarted h => if h ∈ s.taken then some (s.markStarted h) else none
  | .attach h sink => if h ∈ s.marked then some (s.attach h sink) else none
  | .setMetadata h key value => s.onClient? h fun hub =>
      hub.update h fun c => { c with metadata := c.metadata.insert key value }
  | .join group h => s.onClient? h fun hub => (hub.joinGroup group h).2
  | .leave group h => s.onClient? h fun hub => (hub.leaveGroup group h).2
  | .disconnect user => some (s.onHub fun hub => (hub.disconnectUser user).2)
  | .send h m => s.onClient? h fun hub => (hub.send h m).2
  | .sendToUser user m => some (s.onHub fun hub => (hub.sendToUser user m).2)
  | .sendToGroup group m => some (s.onHub fun hub => (hub.sendToGroup group m).2)
  | .sendToGroupExcept group user m => some (s.onHub fun hub => (hub.sendToGroupExcept group user m).2)
  | .sendToTenant tenant m => some (s.onHub fun hub => (hub.sendToTenant tenant m).2)
  | .broadcast m => some (s.onHub fun hub => (hub.broadcast m).2)
  | .relay h raw => s.onClient? h (·.relay h raw)
  | .flush => some (s.onHub fun hub => hub.flush.2)
  | .shutdown => some (s.onHub Hub.shutdown)
  | .run => some (s.onHub Hub.run)
  | .receive h item => some { s with session := (s.session.receive h item).2 }
  | .setSink h mode => some { s with session := s.session.setSink h mode }
  | .pass nanos => some { s with session := { s.session with clock := s.session.clock + nanos } }
  | .turn t => (s.session.take? t).map fun session => { s with session }

def run? (s : Scene) : List Action → Option Scene
  | [] => some s
  | a :: rest => (s.act? a).bind (·.run? rest)

theorem runAppend (s : Scene) (as bs : List Action) :
    s.run? (as ++ bs) = (s.run? as).bind (·.run? bs) := by
  induction as generalizing s with
  | nil => rfl
  | cons a rest ih =>
    simp only [List.cons_append, run?]
    cases s.act? a with
    | none => rfl
    | some next => exact ih next

theorem runSnoc {s s' : Scene} {as : List Action} {a : Action} :
    s.run? (as ++ [a]) = some s' ↔ ∃ t, s.run? as = some t ∧ t.act? a = some s' := by
  rw [runAppend, Option.bind_eq_some_iff]
  simp only [run?, Option.bind_fun_some]

theorem runInduction {P : Scene → Prop} {s s' : Scene} {as : List Action} (start : P s)
    (step : ∀ t a t', a ∈ as → P t → t.act? a = some t' → P t') (ran : s.run? as = some s') : P s' := by
  induction as generalizing s with
  | nil =>
    cases ran
    exact start
  | cons a rest ih =>
    obtain ⟨next, acted, later⟩ := Option.bind_eq_some_iff.mp ran
    have here := step s a next List.mem_cons_self start acted
    exact ih here (fun t b t' member => step t b t' (List.mem_cons_of_mem a member)) later

theorem runHistory {P : List Action → Scene → Prop} {s s' : Scene} {as : List Action} (start : P [] s)
    (step : ∀ done t a t', P done t → t.act? a = some t' → P (done ++ [a]) t')
    (ran : s.run? as = some s') : P as s' := by
  suffices ∀ done t, P done t → t.run? as = some s' → P (done ++ as) s' from this [] s start ran
  clear start ran
  induction as with
  | nil =>
    intro done t held ran
    cases ran
    rwa [List.append_nil]
  | cons a rest ih =>
    intro done t held ran
    obtain ⟨next, acted, later⟩ := Option.bind_eq_some_iff.mp ran
    have whole := ih (done ++ [a]) next (step done t a next held acted) later
    rwa [List.append_assoc] at whole

theorem onClientSome {s s' : Scene} {h : Handle} {f : Hub → Hub} (acted : s.onClient? h f = some s') :
    s.has h = true ∧ s' = s.onHub f := by
  unfold onClient? at acted
  split at acted
  · exact ⟨by assumption, (Option.some.inj acted).symm⟩
  · contradiction

theorem ifSome {p : Prop} [Decidable p] {t s' : Scene} (acted : (if p then some t else none) = some s') :
    p ∧ s' = t := by
  split at acted
  · exact ⟨by assumption, (Option.some.inj acted).symm⟩
  · contradiction

theorem takeQueueCases (s : Scene) (h : Handle) : s.takeQueue h = s ∨
    ∃ c, s.hub.client? h = some c ∧ c.queueTaken = false ∧ s.takeQueue h =
      { s.onHub (·.update h fun _ => { c with queueTaken := true }) with taken := h :: s.taken } := by
  unfold takeQueue Session.takeQueue
  cases found : s.session.hub.client? h with
  | none => exact .inl rfl
  | some c =>
    cases free : c.queueTaken with
    | true =>
      left
      simp [Client.takeQueue, free]
    | false =>
      refine .inr ⟨c, found, free, ?_⟩
      simp [Client.takeQueue, free, onHub]

end Scene
end RelayHub
