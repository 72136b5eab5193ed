import RelayHub.Proofs.Hub.Sparing
import RelayHub.Proofs.Scene.Relaying

/-! Who may put a message into a client's queue: somebody who names the client, and anybody at all once the client is
registered. -/
namespace RelayHub

/- The action is a send to this very client, or a frame of the client, which gets a reply. -/
def Action.names (h : Handle) : Action → Bool
  | .send k _ | .relay k _ | .turn (.readNext k) => k = h
  | _ => false

namespace Session
open Hub (Registered)
variable {s s' : Session} {h k : Handle} {l : Link} {x : Client}

theorem noteGiven (s : Session) (h : Handle) (entry : Client → Log.Entry) :
    (s.onHub (·.note h entry)).hub.given? k = s.hub.given? k := Hub.givenSame (Hub.noteClients s.hub h entry)

theorem finishReadGiven (s : Session) (h : Handle) : (s.finishRead h).hub.given? k = s.hub.given? k := by
  refine (Hub.givenClose _ h).trans ?_
  unfold runDisconnect
  split
  · exact noteGiven _ h _
  · rename_i handler _
    cases handler with
    | accept => exact noteGiven _ h _
    | reject reason => exact (noteGiven _ h _).trans (noteGiven _ h _)

section Read
variable {owed : List Handle} (a : s.hub.Accounted owed) (truthful : s.hub.Truthful) (found : s.hub.client? k = some x)
include a truthful found

theorem handleRegistered (other : k ≠ h) (data : Bytes) : Registered k s.hub (s.handle h data).hub := by
  unfold handle
  split
  · exact .inl rfl
  · rename_i handler _
    cases handler with
    | relay =>
      simp only [runHandler]
      split
      · exact Hub.relayRegistered a truthful found other data
      · exact .inl rfl
    | record => exact .inl rfl
    | reject reason => exact .inl (noteGiven _ h _)
    | echo => exact .inl (Hub.givenSend s.hub other data)
    | close => exact .inl (Hub.givenClose s.hub h)

theorem readRegistered {t : Turn} (step : ReadStep s h l t s') (other : t = .readNext h → k ≠ h) :
    Registered k s.hub s'.hub := by
  cases step with
  | heard => exact handleRegistered (s := s.setLink h _) a truthful found (other rfl) _
  | ignored | pong => exact .inl rfl
  | ended _ _ noted | expired _ _ _ noted =>
    exact .inl ((finishReadGiven _ h).trans (Hub.givenSame noted.clients))
  | cancelled => exact .inl (finishReadGiven s h)

end Read

theorem receiveHub (s : Session) (h : Handle) (item : Incoming) : (s.receive h item).2.hub = s.hub := by
  unfold receive
  split
  · rfl
  · split
    · rfl
    · rfl

theorem dequeueGiven {m : Bytes} (taken : s.dequeue? h = some (m, s')) : s'.hub.given? k = s.hub.given? k := by
  obtain ⟨c, rest, found, -, rfl⟩ := dequeued taken
  rw [onHub, Hub.given?, Hub.clientUpdate]
  split
  · rename_i here
    subst here
    rw [Hub.given?, found]
    rfl
  · rfl

theorem finishWriteGiven (s : Session) (h : Handle) : (s.finishWrite h).hub.given? k = s.hub.given? k := by
  refine (Hub.givenUpdate _ h fun c => ?_).trans (Hub.givenClose s.hub h)
  rfl

theorem writeGiven (step : WriteStep s h l s') : s'.hub.given? k = s.hub.given? k := by
  cases step with
  | took _ taken =>
    have same := dequeueGiven (k := k) taken
    exact same
  | @fed deadline budget m _ _ =>
    cases budget with
    | zero => rfl
    | succ budget =>
      simp only [nextInBatch]
      split
      · rename_i taken
        have same := dequeueGiven (k := k) taken
        exact same
      · rfl
  | batchLost | pingLost => exact noteGiven s h _
  | shutDown => exact finishWriteGiven (s.put h .closed) h
  | abandoned => exact finishWriteGiven s h
  | ended | ticked | flushed | pinged | parted | partingLost | partingFlushed => rfl

end Session

namespace Scene
open Hub (Registered)
variable {s s' : Scene} {a : Action} {h : Handle} {c : Client}

theorem takeQueueGiven (s : Scene) (k : Handle) : (s.takeQueue k).hub.given? h = s.hub.given? h := by
  rcases s.takeQueueCases k with same | ⟨c, found, -, shape⟩
  · rw [same]
  · have found : s.session.hub.client? k = some c := found
    rw [shape, hub, Hub.given?, onHub, Session.onHub, Hub.clientUpdate]
    split
    · rename_i here
      subst here
      rw [hub, Hub.given?, found]
      rfl
    · rfl

theorem quietGiven (quiet : a.isCall = false) (held : s.hub.client? h = some c) (effect : Effect s a s') :
    s'.hub.given? h = s.hub.given? h := by
  cases effect with
  | build p =>
    have old : (s.session.build p.client).2.hub.client? h = s.hub.client? h :=
      List.getElem?_append_left (List.getElem?_eq_some_iff.mp held).1
    exact congrArg (Option.map _) old
  | register k _ => exact Hub.givenRegister s.hub k
  | beginClose k _ => exact Hub.givenUpdate s.hub k Client.beginCloseAccepted
  | finishClose k _ =>
    refine (Hub.givenSame (Hub.finishCloseClients s.hub k)).trans (Hub.givenUpdate s.hub k fun _ => ?_)
    rfl
  | takeQueue k _ => exact takeQueueGiven s k
  | markStarted k _ => exact Hub.givenUpdate s.hub k fun _ => rfl
  | setMetadata k key value _ => exact Hub.givenUpdate s.hub k fun _ => rfl
  | flush => exact Hub.givenFlush s.hub
  | shutdown => exact Hub.givenShutdown s.hub
  | begin began => exact Hub.givenBegin began
  | loop stepped => exact Hub.givenLoop (Hub.loopSteps stepped)
  | write _ _ step => exact Session.writeGiven step
  | call calls _ => exact absurd (calls.symm.trans quiet) (by simp)
  | attach | run | setSink | pass => rfl

theorem clientRegistered {f : Hub → Hub} (acted : s.onClient? h f = some s') {k : Handle}
    (registered : Registered k s.hub (f s.hub)) : Registered k s.hub s'.hub := by
  obtain ⟨-, rfl⟩ := onClientSome acted
  exact registered

section Named
variable (settling : s.Settling) (truthful : s.hub.Truthful) (held : s.hub.client? h = some c)
variable (acted : s.act? a = some s')
include settling truthful held acted

theorem callRegistered (call : a.isCall = true) : a.names h = true ∨ Registered h s.hub s'.hub := by
  cases a with
  | unregister k => exact .inr (clientRegistered acted (.inl (Hub.givenUnregister s.hub k)))
  | join group k => exact .inr (clientRegistered acted (.inl (Hub.givenJoin s.hub group k)))
  | leave group k => exact .inr (clientRegistered acted (.inl (Hub.givenLeave s.hub group k)))
  | disconnect user =>
    cases Option.some.inj acted
    exact .inr (.inl (Hub.givenDisconnect s.hub user))
  | send k m =>
    by_cases here : h = k
    · exact .inl (decide_eq_true here.symm)
    · exact .inr (clientRegistered acted (.inl (Hub.givenSend s.hub here m)))
  | sendToUser user m =>
    cases Option.some.inj acted
    exact .inr (Hub.destinationRegistered settling truthful m (.user user))
  | sendToGroup group m =>
    cases Option.some.inj acted
    exact .inr (Hub.destinationRegistered settling truthful m (.group group))
  | sendToGroupExcept group user m =>
    cases Option.some.inj acted
    exact .inr (Hub.destinationRegistered settling truthful m (.groupExcept group user))
  | sendToTenant tenant m =>
    cases Option.some.inj acted
    exact .inr (Hub.destinationRegistered settling truthful m (.tenant tenant))
  | broadcast m =>
    cases Option.some.inj acted
    exact .inr (Hub.destinationRegistered settling truthful m .everyone)
  | relay k raw =>
    by_cases here : h = k
    · exact .inl (decide_eq_true here.symm)
    · exact .inr (clientRegistered acted (Hub.relayRegistered settling truthful held here raw))
  | receive k item =>
    cases Option.some.inj acted
    exact .inr (.inl (Hub.givenSame (congrArg Hub.clients (Session.receiveHub s.session k item))))
  | turn t =>
    obtain ⟨session, taken, same⟩ := Option.map_eq_some_iff.mp acted
    cases same
    cases t with
    | readNext k =>
      by_cases here : h = k
      · exact .inl (decide_eq_true here.symm)
      · obtain ⟨_, -, -, step⟩ := Session.readStep rfl taken
        exact .inr (Session.readRegistered settling truthful held step fun _ => here)
    | readCancelled | readExpired =>
      obtain ⟨_, -, -, step⟩ := Session.readStep rfl taken
      exact .inr (Session.readRegistered settling truthful held step nofun)
    | _ => contradiction
  | _ => contradiction

theorem namedOrRegistered : a.names h = true ∨ Registered h s.hub s'.hub := by
  cases call : a.isCall with
  | true => exact callRegistered settling truthful held acted call
  | false => exact .inr (.inl (quietGiven call held (effect acted)))

end Named

end Scene
end RelayHub
