import RelayHub.Proofs.Hub.Calls
import RelayHub.Proofs.Hub.Serving

/-! What a hub does to its clients, in its calls and in its loop: it offers them messages and closes them. All
else about a client is the business of its owner and of its loops. -/
namespace RelayHub

inductive Client.Dealt (capacity : Nat) : Client → Client → Prop where
  | refl (c : Client) : Dealt capacity c c
  | offered (c : Client) (m : Bytes) : Dealt capacity c (c.offer capacity m).2
  | closed {c : Client} (isOpen : c.isOpen = true) : Dealt capacity c c.beginClose.cancel
  | trans {a b c : Client} (first : Dealt capacity a b) (second : Dealt capacity b c) : Dealt capacity a c

theorem Client.Dealt.shuts {capacity : Nat} {c c' : Client} (dealt : Dealt capacity c c') (isOpen : c'.isOpen = true) :
    c.isOpen = true := by
  induction dealt with
  | refl => exact isOpen
  | offered c m => exact (congrArg Face.isOpen (Hub.offerFace c capacity m)).symm.trans isOpen
  | closed was => exact was
  | trans _ _ first second => exact first (second isOpen)

namespace Hub

theorem noteClients (hub : Hub) (h : Handle) (entry : Client → Log.Entry) :
    (hub.note h entry).clients = hub.clients := by
  unfold note
  split
  · rfl
  · rfl

theorem noteConfig (hub : Hub) (h : Handle) (entry : Client → Log.Entry) :
    (hub.note h entry).config = hub.config := by
  unfold note
  split
  · rfl
  · rfl

theorem finishCloseClients (hub : Hub) (h : Handle) :
    (hub.finishClose h).clients = (hub.update h Client.cancel).clients := by
  unfold finishClose
  refine (noteClients _ h _).trans ?_
  split
  · rfl
  · rfl

theorem finishCloseConfig (hub : Hub) (h : Handle) : (hub.finishClose h).config = hub.config := by
  unfold finishClose
  refine (noteConfig _ h _).trans ?_
  split
  · rfl
  · rfl

section Close
variable {hub : Hub} {h : Handle} (isOpen : hub.isOpen h = true)
include isOpen

theorem closeClients : (hub.close h).clients = (hub.update h fun c => c.beginClose.cancel).clients := by
  rw [closeOfOpen isOpen, finishCloseClients]
  simp only [beginClose, Hub.update, List.modify_modify_eq]
  rfl

theorem closeConfig : (hub.close h).config = hub.config := by
  rw [closeOfOpen isOpen, finishCloseConfig]
  rfl

end Close

structure Dealt (hub hub' : Hub) : Prop where
  config : hub'.config = hub.config
  length : hub'.clients.length = hub.clients.length
  client : ∀ k c, hub.client? k = some c →
    ∃ c', hub'.client? k = some c' ∧ Client.Dealt hub.config.sendBufferSize c c'

namespace Dealt
variable {hub hub' : Hub}

theorem same (clients : hub'.clients = hub.clients) (config : hub'.config = hub.config) : Dealt hub hub' where
  config := config
  length := by rw [clients]
  client k c found := by
    refine ⟨c, ?_, .refl c⟩
    rw [client?, clients]
    exact found

theorem refl (hub : Hub) : Dealt hub hub := .same rfl rfl

theorem trans {a b c : Hub} (first : Dealt a b) (second : Dealt b c) : Dealt a c where
  config := second.config.trans first.config
  length := second.length.trans first.length
  client k x found := by
    obtain ⟨y, found', dealt⟩ := first.client k x found
    obtain ⟨z, found'', dealt'⟩ := second.client k y found'
    rw [first.config] at dealt'
    exact ⟨z, found'', dealt.trans dealt'⟩

theorem update (hub : Hub) (h : Handle) {f : Client → Client}
    (dealt : ∀ c, hub.client? h = some c → Client.Dealt hub.config.sendBufferSize c (f c)) :
    Dealt hub (hub.update h f) where
  config := rfl
  length := by simp [Hub.update]
  client k c found := by
    rw [clientUpdate]
    split
    · rename_i here
      subst here
      exact ⟨f c, by simp [found], dealt c found⟩
    · exact ⟨c, found, .refl c⟩

theorem note (hub : Hub) (h : Handle) (entry : Client → Log.Entry) : Dealt hub (hub.note h entry) :=
  .same (noteClients hub h entry) (noteConfig hub h entry)

theorem close (hub : Hub) (h : Handle) : Dealt hub (hub.close h) := by
  cases isOpen : hub.isOpen h with
  | true =>
    have whole : Dealt hub (hub.update h fun c => c.beginClose.cancel) := by
      refine .update hub h fun c found => .closed ?_
      simpa [Hub.isOpen, found] using isOpen
    exact whole.trans (.same (closeClients isOpen) (closeConfig isOpen))
  | false =>
    rw [closeOfShut isOpen]
    exact .refl hub

theorem closeAll (hub : Hub) (hs : List Handle) : Dealt hub (hub.closeAll hs) := by
  induction hs generalizing hub with
  | nil => exact .refl hub
  | cons h rest ih => exact (close hub h).trans (ih _)

theorem send (hub : Hub) (h : Handle) (m : Bytes) : Dealt hub (hub.send h m).2 := by
  unfold Hub.send
  split
  · exact .refl hub
  · rename_i c found
    have offered := @Client.Dealt.offered hub.config.sendBufferSize c m
    split
    · rename_i c' shape
      refine .update hub h fun x held => ?_
      cases found.symm.trans held
      rw [shape] at offered
      exact offered
    · exact .refl hub
    · exact .same rfl rfl

theorem calls {asked : List Handle} (calls : Calls asked hub hub') : Dealt hub hub' := by
  induction calls with
  | refl hub => exact .refl hub
  | log => exact .same rfl rfl
  | send hub h m => exact send hub h m
  | close hub h => exact close hub h
  | notice => exact .same rfl rfl
  | join => exact .same rfl rfl
  | leave => exact .same rfl rfl
  | disconnect hub user =>
    have removed : Dealt hub { hub with registry := (hub.registry.removeUser user).2 } := .same rfl rfl
    exact removed.trans ((closeAll _ _).trans (.same rfl rfl))
  | trans _ _ first second => exact first.trans second

theorem register (hub : Hub) (h : Handle) : Dealt hub (hub.register h) := by
  unfold Hub.register
  split
  · exact .same rfl rfl
  · exact (note hub h _).trans (close _ h)

theorem flush (hub : Hub) : Dealt hub hub.flush.2 := by
  unfold Hub.flush
  split
  · exact .same rfl rfl
  · exact .same rfl rfl

theorem shutdown (hub : Hub) : Dealt hub hub.shutdown := by
  unfold Hub.shutdown
  split
  · exact .same rfl rfl
  · exact .refl hub

theorem applyRegister (hub : Hub) (h : Handle) : Dealt hub (hub.applyRegister h) := by
  unfold Hub.applyRegister
  split
  · exact .refl hub
  · split
    · exact .same rfl rfl
    · simp only
      split
      · exact .same rfl rfl
      · rename_i p _
        split
        · exact .same rfl rfl
        · refine Dealt.trans ?_ ((close _ p.handle).trans (.same rfl rfl))
          exact .same rfl rfl

theorem applyUnregister (hub : Hub) (h : Handle) : Dealt hub (hub.applyUnregister h) := by
  unfold Hub.applyUnregister
  split
  · exact .refl hub
  · rename_i c _
    have removed : Dealt hub { hub with registry := (hub.registry.remove (c.member h)).2 } := .same rfl rfl
    have closed := removed.trans (close _ h)
    simp only
    split
    · exact closed.trans (.same rfl rfl)
    · exact closed

theorem loopStep (step : LoopStep hub hub') : Dealt hub hub' := by
  cases step with
  | @applied e rest _ _ =>
    have popped : Dealt hub { hub with events := rest } := .same rfl rfl
    refine popped.trans ?_
    cases e with
    | register h => exact applyRegister _ h
    | unregister h => exact applyUnregister _ h
    | flush ticket => exact .same rfl rfl
    | shutdown =>
      have cleared : Dealt { hub with events := rest } { hub with events := rest, registry := {} } :=
        .same rfl rfl
      exact cleared.trans ((closeAll _ _).trans (.same rfl rfl))
  | drains => exact .same rfl rfl
  | @discarded e rest _ _ =>
    have popped : Dealt hub { hub with events := rest } := .same rfl rfl
    refine popped.trans ?_
    cases e with
    | register h => exact close _ h
    | unregister h => exact .refl _
    | flush ticket => exact .same rfl rfl
    | shutdown => exact .refl _
  | stopped => exact .same rfl rfl

theorem beginRun (began : hub.beginRun? = some hub') : Dealt hub hub' := by
  cases begun began with
  | first | another => exact .same rfl rfl

end Dealt
end Hub
end RelayHub
