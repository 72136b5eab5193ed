import RelayHub.Proofs.Hub.Relaying
import RelayHub.Proofs.Message.Equality
import RelayHub.Proofs.Scene.Delivery
import RelayHub.Proofs.Scene.Quiescence

/-! A frame of any client, in any state of a run: one reply, at most one delivery, and both say what became
of the frame. -/
namespace RelayHub
open Session (WriteStep)

namespace Session
variable {s s' : Session} {h : Handle} {l : Link}

theorem dequeueTruthful (truthful : s.hub.Truthful) {m : Bytes} (taken : s.dequeue? h = some (m, s')) :
    s'.hub.Truthful := by
  obtain ⟨c, rest, found, -, rfl⟩ := dequeued taken
  refine Hub.Truthful.update truthful fun c' found' honest => ?_
  cases found.symm.trans found'
  exact honest

theorem finishTruthful (truthful : s.hub.Truthful) : (s.finishWrite h).hub.Truthful := by
  have closed : (s.hub.close h).Truthful := truthful.later (.dealt (.close s.hub h))
  refine Hub.Truthful.update closed fun c found honest => ?_
  have shut : c.isOpen = false := by
    have after := Hub.closeOpen s.hub h h
    simpa [Hub.isOpen, found] using after
  exact honest.trans shut

theorem writeTruthful (truthful : s.hub.Truthful) (step : WriteStep s h l s') : s'.hub.Truthful := by
  cases step with
  | took _ taken =>
    have after := dequeueTruthful truthful taken
    exact after
  | @fed deadline budget m _ _ =>
    cases budget with
    | zero => exact truthful
    | succ budget =>
      simp only [nextInBatch]
      split
      · rename_i taken
        have after := dequeueTruthful (s := s.put h (.frame (.ofBytes m))) truthful taken
        exact after
      · exact truthful
  | batchLost | pingLost => exact truthful.same (Hub.noteClients s.hub h _)
  | shutDown => exact finishTruthful (s := s.put h .closed) truthful
  | abandoned => exact finishTruthful truthful
  | ended | ticked | flushed | pinged | parted | partingLost | partingFlushed => exact truthful

end Session

namespace Scene

theorem truthfulStep {s s' : Scene} {a : Action} (before : s.hub.Truthful) (effect : Effect s a s') :
    s'.hub.Truthful := by
  cases effect with
  | build p =>
    intro k c found
    have found : (s.hub.clients ++ [p.client])[k]? = some c := found
    rw [List.getElem?_append] at found
    split at found
    · exact before k c found
    · cases List.mem_singleton.mp (List.mem_of_getElem? found)
      rfl
  | register h _ => exact before.later (.dealt (.register s.hub h))
  | beginClose h _ => exact before.later (.beginClose s.hub h)
  | finishClose h _ => exact before.later (.finishClose s.hub h)
  | takeQueue h _ =>
    rcases s.takeQueueCases h with same | ⟨c, found, -, shape⟩
    · rw [same]
      exact before
    · rw [shape]
      refine Hub.Truthful.update before fun c' found' honest => ?_
      cases found.symm.trans found'
      exact honest
  | markStarted h _ => exact before.update fun _ _ honest => honest
  | setMetadata h key value _ => exact before.update fun _ _ honest => honest
  | flush => exact before.later (.dealt (.flush s.hub))
  | shutdown => exact before.later (.dealt (.shutdown s.hub))
  | begin began => exact before.later (.dealt (.beginRun began))
  | loop stepped => exact before.later (.dealt (.loopStep (Hub.loopSteps stepped)))
  | attach | run | setSink | pass => exact before
  | write _ _ step => exact Session.writeTruthful before step
  | call _ aside => exact before.later (.dealt (.calls aside.hub))

theorem truthful {c : HubConfig} {s : Scene} (reached : Reached c s) : s.hub.Truthful := by
  induction reached with
  | start =>
    intro k c found
    simp [opening, hub, Hub.client?] at found
  | act _ acted before => exact truthfulStep before (effect acted)
  | late _ _ _ before => exact before

/-- What comes of a frame of any client in any state. -/
theorem frameAnswered {config : HubConfig} {s : Scene} (reached : Reached config s) {h : Handle} {c : Client}
    (known : s.hub.client? h = some c) (raw : Bytes) :
    ∃ reply delivery takers, s.hub.Relayed h c raw reply delivery takers :=
  Hub.relayed (settling reached) (truthful reached) known raw

def groupOfThree : List Action := [
  .build { id := "a", user := "u", tenant := "t" }, .build { id := "b", user := "u", tenant := "t" },
  .build { id := "a", user := "v", tenant := "t" }, .run, .turn .run, .register 0, .register 1, .register 2,
  .turn .loop, .turn .loop, .turn .loop, .join "g" 0, .join "g" 1, .join "g" 2]

def groupFrame : Bytes := Utf8.encode "[\"group\",\"g\",null]"

theorem groupFrameRead : ClientMessage.read groupFrame = .ok (.group "g" .null false) :=
  ClientMessage.readsAs (by decide +kernel)

theorem groupFrameReachesTheOther : ∃ s c reply delivery takers, (opening {}).run? groupOfThree = some s ∧
    s.hub.client? 0 = some c ∧ s.hub.Relayed 0 c groupFrame reply delivery takers ∧
    delivery = .delivery "u" "group:g" .null ∧ takers = [2] ∧ reply = .receipt "group:g" 1 := by
  have read := groupFrameRead
  have shown : ((opening {}).run? groupOfThree).map (fun s => (s.hub.clients.map Client.user,
      s.hub.isGroupMember "g" 0, s.hub.registry.groupMember? "g" "v" "a", s.hub.ready 2)) =
      some (["u", "u", "v"], true, some ⟨2, "v", "a", "t"⟩, true) := by
    rfl
  obtain ⟨s, ran, shown⟩ := Option.map_eq_some_iff.mp shown
  simp only [Prod.mk.injEq] at shown
  obtain ⟨users, member, entry, ready⟩ := shown
  have user : ∀ k x, s.hub.client? k = some x → ["u", "u", "v"][k]? = some x.user := by
    intro k x found
    have found : s.hub.clients[k]? = some x := found
    rw [← users, List.getElem?_map, found]
    rfl
  have length : s.hub.clients.length = 3 := by simpa using congrArg List.length users
  have known : s.hub.client? 0 = some s.hub.clients[0] := List.getElem?_eq_getElem (by simp [length])
  have sender : s.hub.clients[0].user = "u" := (Option.some.inj (user 0 _ known)).symm
  obtain ⟨reply, delivery, takers, relayed⟩ := frameAnswered (reachedRun ran) known groupFrame
  have addresses := Hub.Addresses.group (c := s.hub.clients[0]) read member
  have reached : 2 ∈ takers := by
    refine (relayed.delivers.takers 2).mpr ⟨_, _, addresses, ⟨"v", "a", _, entry, ?_, rfl⟩, ready⟩
    simp [sender]
  have alone : ∀ k ∈ takers, k = 2 := by
    intro k taker
    obtain ⟨-, -, -, -, taking⟩ := (relayed.delivers.takers k).mp taker
    obtain ⟨x, found, -⟩ := (Option.any_eq_true ..).mp taking
    have other : x.user ≠ "u" := sender ▸ relayed.spared "g" .null read k taker x found
    have own := user k x found
    rcases k with _ | _ | _ | k
    · exact absurd (Option.some.inj own).symm other
    · exact absurd (Option.some.inj own).symm other
    · rfl
    · simp at own
  have taken : takers = [2] := by
    refine List.perm_singleton.mp ((List.perm_ext_iff_of_nodup relayed.delivers.once (by simp)).mpr fun k => ?_)
    exact ⟨fun taker => List.mem_singleton.mpr (alone k taker), fun here => List.mem_singleton.mp here ▸ reached⟩
  have grants := relayed.replies.granted fun text refuses => refuses.nobody addresses
  refine ⟨s, _, reply, delivery, takers, ran, known, relayed, ?_, taken, ?_⟩
  · rw [← relayed.delivers.message _ _ addresses, sender]
    rfl
  · subst taken
    cases grants with
    | group read' =>
      cases read.symm.trans read'
      rfl
    | joined read' | left read' | direct read' | tenant read' | broadcast read' => cases read.symm.trans read'

end Scene
end RelayHub
