import RelayHub.Proofs.Scene
import RelayHub.Proofs.Session.Reading
import RelayHub.Proofs.Session.Writing

/-! What one action can do to a scene. Most actions are calls on the hub, made directly or by a read
loop, and move no outgoing side; the others are told one by one. -/
namespace RelayHub

def Action.isCall : Action → Bool
  | .unregister _ | .join .. | .leave .. | .disconnect _ | .send .. | .sendToUser .. | .sendToGroup ..
  | .sendToGroupExcept .. | .sendToTenant .. | .broadcast _ | .relay .. | .receive ..
  | .turn (.readCancelled _) | .turn (.readNext _) | .turn (.readExpired _) => true
  | _ => false

/- The client whose removal the action asks for, if the hub still takes events. -/
def Action.asked (hub : Hub) : Action → List Handle
  | .unregister h => if hub.accepting then [h] else []
  | _ => []

def Action.isWrite : Action → Bool
  | .turn (.takeMessage _) | .turn (.tick _) | .turn (.write _) | .turn (.writeExpired _) => true
  | _ => false

namespace Scene
open Hub (Calls)
open Session (Aside WriteStep)

inductive Effect (s : Scene) : Action → Scene → Prop where
  | build (p : Profile) :
      Effect s (.build p) { s with session := (s.session.build p.client).2 }
  | register (h : Handle) (known : s.has h = true) : Effect s (.register h) (s.onHub (·.register h))
  | beginClose (h : Handle) (known : s.has h = true) : Effect s (.beginClose h) (s.beginClose h)
  | finishClose (h : Handle) (begun : h ∈ s.closing) : Effect s (.finishClose h) (s.finishClose h)
  | takeQueue (h : Handle) (known : s.has h = true) : Effect s (.takeQueue h) (s.takeQueue h)
  | markStarted (h : Handle) (begun : h ∈ s.taken) : Effect s (.markStarted h) (s.markStarted h)
  | attach (h : Handle) (sink : SinkMode) (begun : h ∈ s.marked) :
      Effect s (.attach h sink) (s.attach h sink)
  | setMetadata (h : Handle) (key : String) (value : Json) (known : s.has h = true) :
      Effect s (.setMetadata h key value) (s.onHub fun hub =>
        hub.update h fun c => { c with metadata := c.metadata.insert key value })
  | flush : Effect s .flush (s.onHub fun hub => hub.flush.2)
  | shutdown : Effect s .shutdown (s.onHub Hub.shutdown)
  | run : Effect s .run (s.onHub Hub.run)
  | setSink (h : Handle) (mode : SinkMode) :
      Effect s (.setSink h mode) { s with session := s.session.setSink h mode }
  | pass (nanos : Nat) :
      Effect s (.pass nanos) { s with session := { s.session with clock := s.session.clock + nanos } }
  | begin {hub : Hub} (began : s.hub.beginRun? = some hub) :
      Effect s (.turn .run) { s with session := { s.session with hub } }
  | loop {hub : Hub} (stepped : s.hub.loopStep? = some hub) :
      Effect s (.turn .loop) { s with session := { s.session with hub } }
  | write {a : Action} {h : Handle} {l : Link} {session : Session} (turn : a.isWrite = true)
      (found : s.session.link? h = some l) (step : WriteStep s.session h l session) :
      Effect s a { s with session }
  | call {a : Action} {session : Session} (calls : a.isCall = true)
      (aside : Aside (a.asked s.hub) s.session session) : Effect s a { s with session }

variable {s s' : Scene} {a : Action}

theorem callOnHub {f : Hub → Hub} (call : a.isCall = true) (calls : Calls (a.asked s.hub) s.hub (f s.hub)) :
    Effect s a (s.onHub f) :=
  .call call (.onHub s.session calls)

theorem callOnClient {h : Handle} {f : Hub → Hub} (call : a.isCall = true) (acted : s.onClient? h f = some s')
    (calls : Calls (a.asked s.hub) s.hub (f s.hub)) : Effect s a s' := by
  obtain ⟨-, rfl⟩ := onClientSome acted
  exact callOnHub call calls

theorem writeTurn {h : Handle} {session : Session} (turn : a.isWrite = true)
    (step : ∃ l, s.session.link? h = some l ∧ WriteStep s.session h l session) :
    Effect s a { s with session } := by
  obtain ⟨l, found, step⟩ := step
  exact .write turn found step

theorem turnEffect {t : Session.Turn} (acted : s.act? (.turn t) = some s') : Effect s (.turn t) s' := by
  obtain ⟨session, taken, rfl⟩ := Option.map_eq_some_iff.mp acted
  cases t with
  | run =>
    obtain ⟨hub, began, rfl⟩ := Option.map_eq_some_iff.mp taken
    exact .begin began
  | loop =>
    obtain ⟨hub, stepped, rfl⟩ := Option.map_eq_some_iff.mp taken
    exact .loop stepped
  | readCancelled | readNext | readExpired =>
    obtain ⟨l, found, -, step⟩ := Session.readStep rfl taken
    exact .call rfl (Session.readAside found step)
  | takeMessage h => exact writeTurn rfl (Session.takeMessageStep taken)
  | tick h => exact writeTurn rfl (Session.tickStep taken)
  | write h => exact writeTurn rfl (Session.writeStep taken)
  | writeExpired h => exact writeTurn rfl (Session.writeExpiredStep taken)

theorem effect (acted : s.act? a = some s') : Effect s a s' := by
  cases a with
  | build p =>
    cases Option.some.inj acted
    exact .build p
  | register h =>
    obtain ⟨known, rfl⟩ := onClientSome acted
    exact .register h known
  | unregister h => exact callOnClient rfl acted (Calls.unregister s.hub h)
  | beginClose h =>
    obtain ⟨known, rfl⟩ := ifSome acted
    exact .beginClose h known
  | finishClose h =>
    obtain ⟨begun, rfl⟩ := ifSome acted
    exact .finishClose h begun
  | takeQueue h =>
    obtain ⟨known, rfl⟩ := ifSome acted
    exact .takeQueue h known
  | markStarted h =>
    obtain ⟨begun, rfl⟩ := ifSome acted
    exact .markStarted h begun
  | attach h sink =>
    obtain ⟨begun, rfl⟩ := ifSome acted
    exact .attach h sink begun
  | setMetadata h key value =>
    obtain ⟨known, rfl⟩ := onClientSome acted
    exact .setMetadata h key value known
  | join group h => exact callOnClient rfl acted (Calls.joinGroup s.hub group h)
  | leave group h => exact callOnClient rfl acted (Calls.leaveGroup s.hub group h)
  | disconnect user =>
    cases Option.some.inj acted
    exact callOnHub rfl (Calls.disconnect s.hub user)
  | send h m => exact callOnClient rfl acted (Calls.send s.hub h m)
  | sendToUser user m =>
    cases Option.some.inj acted
    exact callOnHub rfl (Calls.sendToUser s.hub user m)
  | sendToGroup group m =>
    cases Option.some.inj acted
    exact callOnHub rfl (Calls.sendToGroupFrom s.hub group none m)
  | sendToGroupExcept group user m =>
    cases Option.some.inj acted
    exact callOnHub rfl (Calls.sendToGroupFrom s.hub group (some user) m)
  | sendToTenant tenant m =>
    cases Option.some.inj acted
    exact callOnHub rfl (Calls.sendToTenant s.hub tenant m)
  | broadcast m =>
    cases Option.some.inj acted
    exact callOnHub rfl (Calls.broadcast s.hub m)
  | relay h raw => exact callOnClient rfl acted (Calls.relay s.hub h raw)
  | flush =>
    cases Option.some.inj acted
    exact .flush
  | shutdown =>
    cases Option.some.inj acted
    exact .shutdown
  | run =>
    cases Option.some.inj acted
    exact .run
  | receive h item =>
    cases Option.some.inj acted
    exact .call rfl (Session.asideReceive s.session h item)
  | setSink h mode =>
    cases Option.some.inj acted
    exact .setSink h mode
  | pass nanos =>
    cases Option.some.inj acted
    exact .pass nanos
  | turn t => exact turnEffect acted

end Scene
end RelayHub
