import RelayHub.Proofs.Message.Codec
import RelayHub.Proofs.Scene.Relaying

/-! What a client makes the hub send can be read by whoever gets it, and says who sent it. -/
namespace RelayHub

inductive ClientMessage.Relays (c : Client) (raw : Bytes) : String → Json → Prop where
  | group {group : String} {payload : Json} {echo : Bool} (read : read raw = .ok (.group group payload echo)) :
      Relays c raw ("group:" ++ group) payload
  | direct {user : String} {payload : Json} (read : read raw = .ok (.direct user payload)) :
      Relays c raw ("user:" ++ user) payload
  | tenant {payload : Json} (read : read raw = .ok (.tenant payload)) : Relays c raw ("tenant:" ++ c.tenant) payload
  | broadcast {payload : Json} (read : read raw = .ok (.broadcast payload)) : Relays c raw "all" payload

def ServerMessage.Honest (source target : String) (payload : Json) (m : Bytes) : Prop :=
  ∃ message, read m = .ok message ∧
    ∀ source' target' payload', message = .delivery source' target' payload' →
      source' = source ∧ target' = target ∧ payload' = payload

namespace ServerMessage
variable {source target : String} {payload : Json}

theorem deliveryHonest (carried : payload.Carried) :
    Honest source target payload (delivery source target payload).encode := by
  refine ⟨_, readEncoded (fun p here => Option.some.inj here ▸ carried) nofun, fun s t p same => ?_⟩
  cases same
  exact ⟨rfl, rfl, rfl⟩

theorem receiptHonest {aim : String} {n : Nat} (counted : n ≤ maxWord64) :
    Honest source target payload (receipt aim n).encode :=
  ⟨_, readEncoded nofun fun _ here => Option.some.inj here ▸ counted, nofun⟩

theorem errorHonest {text : String} : Honest source target payload (error text).encode :=
  ⟨_, readEncoded nofun nofun, nofun⟩

end ServerMessage

namespace Hub
variable {hub : Hub} {h : Handle} {c : Client} {raw : Bytes} {reply delivery : ServerMessage}
variable {takers : List Handle} {target : String} {payload : Json}

theorem relaysCarried (relays : ClientMessage.Relays c raw target payload) (integral : payload.Integral) :
    payload.Carried := by
  cases relays with
  | group read | direct read | tenant read | broadcast read =>
    exact ClientMessage.readCarries read (fun p here => Option.some.inj here ▸ integral) _ rfl

theorem Addresses.relayed (relays : ClientMessage.Relays c raw target payload) {audience : Handle → Prop}
    (addresses : hub.Addresses h c raw delivery audience) : delivery = .delivery c.user target payload := by
  cases addresses with
  | group read _ | direct read | tenant read | broadcast read =>
    cases relays with
    | group read' | direct read' | tenant read' | broadcast read' =>
      cases read.symm.trans read'
      try rfl

theorem Delivers.few (delivers : hub.Delivers h c raw delivery takers) : takers.length ≤ hub.clients.length := by
  refine knownFew delivers.once fun k taker => ?_
  obtain ⟨-, -, -, -, ready⟩ := (delivers.takers k).mp taker
  obtain ⟨x, found, -⟩ := (Option.any_eq_true ..).mp ready
  exact ⟨x, found⟩

theorem Grants.honest {n : Nat} (relays : ClientMessage.Relays c raw target payload)
    (grants : Grants c raw n reply) (counted : n ≤ maxWord64) :
    ServerMessage.Honest c.user target payload reply.encode := by
  cases grants with
  | joined read | left read =>
    cases relays with
    | group read' | direct read' | tenant read' | broadcast read' => cases read.symm.trans read'
  | group | direct | tenant | broadcast => exact ServerMessage.receiptHonest counted

theorem Relayed.replyHonest (relayed : hub.Relayed h c raw reply delivery takers)
    (relays : ClientMessage.Relays c raw target payload) (counted : takers.length ≤ maxWord64) :
    ServerMessage.Honest c.user target payload reply.encode := by
  by_cases refused : ∃ text, hub.Refuses h raw text
  · obtain ⟨text, refuses⟩ := refused
    rw [relayed.replies.refused text refuses]
    exact ServerMessage.errorHonest
  · have grants := relayed.replies.granted fun text refuses => refused ⟨text, refuses⟩
    exact grants.honest relays counted

theorem Relayed.deliveryHonest (relayed : hub.Relayed h c raw reply delivery takers)
    (relays : ClientMessage.Relays c raw target payload) (carried : payload.Carried) {k : Handle}
    (taker : k ∈ takers) : ServerMessage.Honest c.user target payload delivery.encode := by
  obtain ⟨m, audience, addresses, -, -⟩ := (relayed.delivers.takers k).mp taker
  obtain rfl := relayed.delivers.message m audience addresses
  rw [addresses.relayed relays]
  exact ServerMessage.deliveryHonest carried

end Hub

namespace Client

theorem offeredQueue (c : Client) (capacity : Nat) (m : Bytes) :
    (c.offered capacity m).queue = c.queue ++ if c.ready capacity then [m] else [] := by
  unfold offered
  split
  · rfl
  · exact (List.append_nil _).symm

end Client

namespace Scene

/-- Whatever a frame contains besides its message, whatever its texts look like: all that it puts into any queue
can be read by the recipient, and a delivery among it names the client's own user as its source, the target
that goes with the kind of the message, and the payload as it came. No more clients are counted than a word
holds. -/
theorem relaysHonestly {config : HubConfig} {s : Scene} (reached : Reached config s) {h : Handle} {c : Client}
    (known : s.hub.client? h = some c) (few : s.hub.clients.length ≤ maxWord64) {raw : Bytes} {target : String}
    {payload : Json} (relays : ClientMessage.Relays c raw target payload) (integral : payload.Integral)
    (k : Handle) {x : Client} (receives : s.hub.client? k = some x) :
    ∃ x' new, (s.hub.handleMessage h raw).2.client? k = some x' ∧ x'.queue = x.queue ++ new ∧
      ∀ m ∈ new, ServerMessage.Honest c.user target payload m := by
  obtain ⟨reply, delivery, takers, relayed⟩ := Hub.relayed (settling reached) (truthful reached) known raw
  have carried := Hub.relaysCarried relays integral
  have replied := relayed.replyHonest relays (relayed.delivers.few.trans few)
  have delivered : ∀ m ∈ (if k ∈ takers then [delivery.encode] else []),
      ServerMessage.Honest c.user target payload m := by
    split
    · rename_i taker
      exact List.forall_mem_singleton.mpr (relayed.deliveryHonest relays carried taker)
    · exact fun m none => absurd none List.not_mem_nil
  obtain ⟨y, shape, after⟩ := relayed.queues k x receives
  have queue : y.queue = x.queue ++ if k ∈ takers then [delivery.encode] else [] := by
    rw [shape]
    split
    · rfl
    · exact (List.append_nil _).symm
  rw [relayed.returned]
  by_cases own : k = h
  · rw [if_pos own] at after
    refine ⟨_, _, after, (Client.offeredQueue ..).trans (by rw [queue, List.append_assoc]), fun m new => ?_⟩
    rcases List.mem_append.mp new with first | last
    · exact delivered m first
    · split at last
      · exact List.mem_singleton.mp last ▸ replied
      · contradiction
  · rw [if_neg own] at after
    exact ⟨_, _, after, queue, delivered⟩

def forgedFrame : Bytes := Utf8.encode ("\x7b\"from\":\"eve\",\"type\":\"group\",\"target\":\"all\"," ++
  "\"payload\":\x7b\"type\":\"delivery\",\"from\":\"eve\"\x7d,\"group\":\"g\"\x7d")

def forgedPayload : Json := .object [("from", .string "eve"), ("type", .string "delivery")]

theorem forgedFrameRead : ClientMessage.read forgedFrame = .ok (.group "g" forgedPayload false) :=
  ClientMessage.readsAs (by decide +kernel)

theorem forgedFrameNamesSender : ∃ s x m, (opening {}).run? groupOfThree = some s ∧
    (s.hub.handleMessage 0 forgedFrame).2.client? 2 = some x ∧ x.queue = [m] ∧
    ServerMessage.Honest "u" "group:g" forgedPayload m := by
  have shown : ((opening {}).run? groupOfThree).map (fun s => (s.hub.clients.map Client.user,
      s.hub.clients.map (·.queue.length), (s.hub.handleMessage 0 forgedFrame).2.clients.map (·.queue.length))) =
      some (["u", "u", "v"], [0, 0, 0], [1, 0, 1]) := by decide +kernel
  obtain ⟨s, ran, shown⟩ := Option.map_eq_some_iff.mp shown
  simp only [Prod.mk.injEq] at shown
  obtain ⟨users, before, after⟩ := shown
  have length : s.hub.clients.length = 3 := by simpa using congrArg List.length users
  have known : s.hub.client? 0 = some s.hub.clients[0] := List.getElem?_eq_getElem (by simp [length])
  have receives : s.hub.client? 2 = some s.hub.clients[2] := List.getElem?_eq_getElem (by simp [length])
  have sender : s.hub.clients[0].user = "u" :=
    (List.getElem_map Client.user).symm.trans (List.getElem_of_eq users (by simp [length]))
  have empty : s.hub.clients[2].queue = [] :=
    List.length_eq_zero_iff.mp ((List.getElem_map _).symm.trans (List.getElem_of_eq before (by simp [length])))
  have integral : forgedPayload.Integral := by simp [forgedPayload, Json.Integral, Json.MembersIntegral]
  obtain ⟨x, new, found, queue, honest⟩ := relaysHonestly (reachedRun ran) known (by simp [length, maxWord64])
    (.group forgedFrameRead) integral 2 receives
  rw [empty, List.nil_append] at queue
  have one : new.length = 1 := by
    have there := congrArg (·[2]?) after
    have found : (s.hub.handleMessage 0 forgedFrame).2.clients[2]? = some x := found
    simpa [found, queue] using there
  obtain ⟨m, rfl⟩ := List.length_eq_one_iff.mp one
  exact ⟨s, x, m, ran, found, queue, sender ▸ honest m List.mem_cons_self⟩

end Scene
end RelayHub
