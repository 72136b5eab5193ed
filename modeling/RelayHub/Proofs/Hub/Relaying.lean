import RelayHub.Proofs.Hub.Admission
import RelayHub.Proofs.Hub.Audience

/-! What one frame of a client brings about: at most one change of the groups, at most one delivery, and then
one reply, which says what was done. -/
namespace RelayHub

theorem ServerMessage.documentText (m : ServerMessage) : m.document.encode = .ok m.encode := by
  cases m <;> rfl

namespace Hub

section Frame
variable (hub : Hub) (h : Handle) (c : Client) (raw : Bytes)

/- The frames that get an error in reply, and its text. -/
inductive Refuses : String → Prop where
  | garbled {refusal : Message.Refusal} (read : ClientMessage.read raw = .error refusal) :
      Refuses ("invalid message: " ++ refusal.message raw)
  | unregistered {group : String} (read : ClientMessage.read raw = .ok (.join group))
      (refused : (hub.joinGroup group h).1 = false) : Refuses ("cannot join group " ++ group)
  | outside {group : String} {payload : Json} {echo : Bool}
      (read : ClientMessage.read raw = .ok (.group group payload echo))
      (absent : hub.isGroupMember group h = false) : Refuses ("not a member of group " ++ group)

inductive Grants (n : Nat) : ServerMessage → Prop where
  | joined {group : String} (read : ClientMessage.read raw = .ok (.join group)) : Grants n (.joined group)
  | left {group : String} (read : ClientMessage.read raw = .ok (.leave group)) : Grants n (.left group)
  | group {group : String} {payload : Json} {echo : Bool}
      (read : ClientMessage.read raw = .ok (.group group payload echo)) :
      Grants n (.receipt ("group:" ++ group) n)
  | direct {user : String} {payload : Json} (read : ClientMessage.read raw = .ok (.direct user payload)) :
      Grants n (.receipt ("user:" ++ user) n)
  | tenant {payload : Json} (read : ClientMessage.read raw = .ok (.tenant payload)) :
      Grants n (.receipt ("tenant:" ++ c.tenant) n)
  | broadcast {payload : Json} (read : ClientMessage.read raw = .ok (.broadcast payload)) :
      Grants n (.receipt "all" n)

/- The delivery of a frame, and whom it is for. -/
inductive Addresses : ServerMessage → (Handle → Prop) → Prop where
  | group {group : String} {payload : Json} {echo : Bool}
      (read : ClientMessage.read raw = .ok (.group group payload echo))
      (member : hub.isGroupMember group h = true) :
      Addresses (.delivery c.user ("group:" ++ group) payload)
        (hub.Grouped group (if echo then none else some c.user))
  | direct {user : String} {payload : Json} (read : ClientMessage.read raw = .ok (.direct user payload)) :
      Addresses (.delivery c.user ("user:" ++ user) payload)
        (∃ i x, hub.registry.client? user i = some x ∧ x.handle = ·)
  | tenant {payload : Json} (read : ClientMessage.read raw = .ok (.tenant payload)) :
      Addresses (.delivery c.user ("tenant:" ++ c.tenant) payload)
        (∃ u i x, hub.registry.client? u i = some x ∧ x.tenant = c.tenant ∧ x.handle = ·)
  | broadcast {payload : Json} (read : ClientMessage.read raw = .ok (.broadcast payload)) :
      Addresses (.delivery c.user "all" payload) hub.Held

/- The indexes behind the frame: only an accepted join and a leave change them, each in one entry. -/
structure Regroups (r : Registry) : Prop where
  users : r.users = hub.registry.users
  joined : ∀ group, ClientMessage.read raw = .ok (.join group) → (hub.joinGroup group h).1 = true →
    ∀ g u i, r.groupMember? g u i = if g = group ∧ u = c.user ∧ i = c.id then some (c.member h)
      else hub.registry.groupMember? g u i
  left : ∀ group, ClientMessage.read raw = .ok (.leave group) →
    ∀ g u i, r.groupMember? g u i =
      if g = group ∧ u = c.user ∧ i = c.id ∧ hub.isGroupMember group h = true then none
      else hub.registry.groupMember? g u i
  kept : (∀ group, ClientMessage.read raw = .ok (.join group) → (hub.joinGroup group h).1 = false) →
    (∀ group, ClientMessage.read raw ≠ .ok (.leave group)) → r = hub.registry

structure Delivers (delivery : ServerMessage) (takers : List Handle) : Prop where
  once : takers.Nodup
  message : ∀ m audience, hub.Addresses h c raw m audience → m = delivery
  takers : ∀ k, k ∈ takers ↔
    ∃ m audience, hub.Addresses h c raw m audience ∧ audience k ∧ hub.ready k = true

structure Replies (n : Nat) (reply : ServerMessage) : Prop where
  refused : ∀ text, hub.Refuses h raw text → reply = .error text
  granted : (∀ text, ¬ hub.Refuses h raw text) → Grants c raw n reply

structure Answers (reply delivery : ServerMessage) (takers : List Handle) (hub' : Hub) : Prop where
  regroups : hub.Regroups h c raw hub'.registry
  delivers : hub.Delivers h c raw delivery takers
  replies : hub.Replies h c raw takers.length reply
  outline : hub'.outline = { hub.outline with registry := hub'.registry }
  client : ∀ k, hub'.client? k =
    (hub.client? k).map fun x => if k ∈ takers then x.took delivery.encode else x

end Frame

section Answer
variable {hub hub' : Hub} {h : Handle} {c : Client} {raw : Bytes} {n : Nat} {reply delivery : ServerMessage}
variable {takers : List Handle}

theorem Refuses.unique {text text' : String} (one : hub.Refuses h raw text) (two : hub.Refuses h raw text') :
    text = text' := by
  cases one with
  | garbled read | unregistered read _ | outside read _ =>
    cases two with
    | garbled read' | unregistered read' _ | outside read' _ =>
      cases read.symm.trans read'
      try rfl

theorem Addresses.unique {delivery' : ServerMessage} {audience audience' : Handle → Prop}
    (one : hub.Addresses h c raw delivery audience) (two : hub.Addresses h c raw delivery' audience') :
    delivery' = delivery ∧ audience' = audience := by
  cases one with
  | group read _ | direct read | tenant read | broadcast read =>
    cases two with
    | group read' _ | direct read' | tenant read' | broadcast read' =>
      cases read.symm.trans read'
      try exact ⟨rfl, rfl⟩

theorem Refuses.nobody {text : String} (refuses : hub.Refuses h raw text) {audience : Handle → Prop} :
    ¬ hub.Addresses h c raw delivery audience := by
  intro addresses
  cases refuses with
  | garbled read | unregistered read _ =>
    cases addresses with
    | group read' _ | direct read' | tenant read' | broadcast read' => cases read.symm.trans read'
  | outside read absent =>
    cases addresses with
    | group read' member =>
      cases read.symm.trans read'
      exact absurd (absent.symm.trans member) (by simp)
    | direct read' | tenant read' | broadcast read' => cases read.symm.trans read'

theorem Addresses.unjoined {audience : Handle → Prop} (addresses : hub.Addresses h c raw delivery audience)
    (group : String) : ClientMessage.read raw ≠ .ok (.join group) := by
  intro read
  cases addresses with
  | group read' _ | direct read' | tenant read' | broadcast read' => cases read.symm.trans read'

theorem Addresses.unleft {audience : Handle → Prop} (addresses : hub.Addresses h c raw delivery audience)
    (group : String) : ClientMessage.read raw ≠ .ok (.leave group) := by
  intro read
  cases addresses with
  | group read' _ | direct read' | tenant read' | broadcast read' => cases read.symm.trans read'

theorem Refuses.unjoined {text : String} (refuses : hub.Refuses h raw text) {group : String}
    (read : ClientMessage.read raw = .ok (.join group)) : (hub.joinGroup group h).1 = false := by
  cases refuses with
  | unregistered read' refused =>
    cases read.symm.trans read'
    exact refused
  | garbled read' | outside read' _ => cases read.symm.trans read'

theorem Refuses.unleft {text : String} (refuses : hub.Refuses h raw text) (group : String) :
    ClientMessage.read raw ≠ .ok (.leave group) := by
  intro read
  cases refuses with
  | garbled read' | unregistered read' _ | outside read' _ => cases read.symm.trans read'

theorem Regroups.same (same : hub'.registry = hub.registry)
    (unjoined : ∀ group, ClientMessage.read raw = .ok (.join group) → (hub.joinGroup group h).1 = false)
    (unleft : ∀ group, ClientMessage.read raw ≠ .ok (.leave group)) :
    hub.Regroups h c raw hub'.registry where
  users := congrArg Registry.users same
  joined group read joined := absurd ((unjoined group read).symm.trans joined) (by simp)
  left group read := absurd read (unleft group)
  kept _ _ := same

theorem Replies.ofGrant (grants : Grants c raw n reply) (fair : ∀ text, ¬ hub.Refuses h raw text) :
    hub.Replies h c raw n reply where
  refused text refuses := absurd refuses (fair text)
  granted _ := grants

theorem Replies.ofRefusal {text : String} (refuses : hub.Refuses h raw text) :
    hub.Replies h c raw n (.error text) where
  refused _ other := congrArg ServerMessage.error (refuses.unique other)
  granted fair := absurd refuses (fair text)

theorem Answers.alone (regroups : hub.Regroups h c raw hub'.registry) (replies : hub.Replies h c raw 0 reply)
    (nobody : ∀ delivery audience, ¬ hub.Addresses h c raw delivery audience)
    (clients : hub'.clients = hub.clients)
    (outline : hub'.outline = { hub.outline with registry := hub'.registry }) :
    hub.Answers h c raw reply delivery [] hub' where
  regroups := regroups
  delivers := by
    refine ⟨List.nodup_nil, fun m audience addresses => absurd addresses (nobody m audience),
      fun k => ⟨fun member => absurd member List.not_mem_nil, ?_⟩⟩
    rintro ⟨m, audience, addresses, -, -⟩
    exact absurd addresses (nobody m audience)
  replies := replies
  outline := outline
  client k := by
    rw [client?, clients]
    simp [client?]

theorem Answers.spread {audience : Handle → Prop} {result : Nat × Hub}
    (addresses : hub.Addresses h c raw delivery audience)
    (fanned : Fanned delivery.encode audience hub takers result)
    (grants : Grants c raw takers.length reply) : hub.Answers h c raw reply delivery takers result.2 := by
  have registry : result.2.registry = hub.registry := sameRegistry fanned.spread.outline
  exact {
    regroups := .same registry (fun group read => absurd read (addresses.unjoined group)) addresses.unleft
    delivers := by
      refine ⟨fanned.nodup, fun m other addresses' => (addresses.unique addresses').1,
        fun k => (fanned.members k).trans ⟨?_, ?_⟩⟩
      · rintro ⟨inside, ready⟩
        exact ⟨delivery, audience, addresses, inside, ready⟩
      · rintro ⟨m, other, addresses', inside, ready⟩
        obtain ⟨rfl, rfl⟩ := addresses.unique addresses'
        exact ⟨inside, ready⟩
    replies := .ofGrant grants fun text refuses => refuses.nobody addresses
    outline := by rw [fanned.spread.outline, registry]; rfl
    client := fanned.spread.client }

theorem Answers.refused {text : String} (refuses : hub.Refuses h raw text)
    (clients : hub'.clients = hub.clients) (outline : hub'.outline = hub.outline) :
    hub.Answers h c raw (.error text) delivery [] hub' := by
  have registry : hub'.registry = hub.registry := sameRegistry outline
  exact .alone (.same registry (fun _ => refuses.unjoined) refuses.unleft) (.ofRefusal refuses)
    (fun _ _ => refuses.nobody) clients (by rw [outline, registry]; rfl)

theorem answersJoin (known : hub.client? h = some c) {group : String}
    (read : ClientMessage.read raw = .ok (.join group)) : hub.Answers h c raw
      (hub.applyMessage h c (.join group)).1 delivery [] (hub.applyMessage h c (.join group)).2 := by
  rcases joinCases known group with ⟨e, joined⟩ | ⟨e, refused⟩
  · simp only [applyMessage, joined]
    refine .alone ⟨rfl, fun group' read' _ g u i => ?_, fun group' read' => ?_, fun unjoined => ?_⟩
      (.ofGrant (.joined read) fun text refuses => ?_) (fun _ _ addresses => addresses.unjoined group read) rfl rfl
    · cases read.symm.trans read'
      exact Registry.joinGroupMember ..
    · cases read.symm.trans read'
    · exact absurd (unjoined group read) (by simp [joined])
    · exact absurd (refuses.unjoined read) (by simp [joined])
  · simp only [applyMessage, refused]
    exact .refused (.unregistered read (by simp [refused])) rfl rfl

theorem answersLeave (known : hub.client? h = some c) {group : String}
    (read : ClientMessage.read raw = .ok (.leave group)) : hub.Answers h c raw
      (hub.applyMessage h c (.leave group)).1 delivery [] (hub.applyMessage h c (.leave group)).2 := by
  have member : hub.isGroupMember group h = hub.registry.isMember group (c.member h) := by
    simp [isGroupMember, known]
  simp only [applyMessage, leaveGroup, known]
  refine .alone ⟨rfl, fun group' read' => ?_, fun group' read' g u i => ?_, fun _ unleft => ?_⟩
    (.ofGrant (.left read) fun text refuses => refuses.unleft group read)
    (fun _ _ addresses => addresses.unleft group read) rfl rfl
  · cases read.symm.trans read'
  · cases read.symm.trans read'
    rw [member]
    exact Registry.leaveGroupMember ..
  · exact absurd read (unleft group)

theorem answersGroup (truthful : hub.Truthful) {group : String} {payload : Json} {echo : Bool}
    (read : ClientMessage.read raw = .ok (.group group payload echo)) : ∃ delivery takers,
      hub.Answers h c raw (hub.applyMessage h c (.group group payload echo)).1 delivery takers
        (hub.applyMessage h c (.group group payload echo)).2 := by
  cases member : hub.isGroupMember group h with
  | false =>
    simp only [applyMessage, member]
    exact ⟨.error "", [], .refused (.outside read member) rfl rfl⟩
  | true =>
    have addresses : hub.Addresses h c raw _ _ := .group read member
    obtain ⟨takers, fanned⟩ := truthful.toGroup
      (ServerMessage.delivery c.user ("group:" ++ group) payload).encode group
      (if echo then none else some c.user)
    simp only [applyMessage, member]
    cases echo with
    | true => exact ⟨_, takers, .spread addresses fanned (fanned.count ▸ .group read)⟩
    | false => exact ⟨_, takers, .spread addresses fanned (fanned.count ▸ .group read)⟩

theorem answers {owed : List Handle} (a : Accounted owed hub) (truthful : hub.Truthful)
    (known : hub.client? h = some c) (raw : Bytes) : ∃ delivery takers,
      hub.Answers h c raw (hub.answer h c raw).1 delivery takers (hub.answer h c raw).2 := by
  unfold answer
  cases read : ClientMessage.read raw with
  | error refusal => exact ⟨.error "", [], .refused (.garbled read) rfl rfl⟩
  | ok m =>
    cases m with
    | join group => exact ⟨.error "", [], answersJoin known read⟩
    | leave group => exact ⟨.error "", [], answersLeave known read⟩
    | group group payload echo => exact answersGroup truthful read
    | direct user payload =>
      obtain ⟨takers, fanned⟩ := a.toUser truthful
        (ServerMessage.delivery c.user ("user:" ++ user) payload).encode user
      exact ⟨_, takers, .spread (.direct read) fanned (fanned.count ▸ .direct read)⟩
    | tenant payload =>
      obtain ⟨takers, fanned⟩ := truthful.toTenant
        (ServerMessage.delivery c.user ("tenant:" ++ c.tenant) payload).encode c.tenant
      exact ⟨_, takers, .spread (.tenant read) fanned (fanned.count ▸ .tenant read)⟩
    | broadcast payload =>
      obtain ⟨takers, fanned⟩ := a.toAll truthful (ServerMessage.delivery c.user "all" payload).encode
      exact ⟨_, takers, .spread (.broadcast read) fanned (fanned.count ▸ .broadcast read)⟩

end Answer

section Return
variable (hub : Hub) (h : Handle) (c : Client) (raw : Bytes)

theorem tryDeliverySent (target : String) (payload : Json) (send : Hub → Bytes → Nat × Hub) :
    hub.tryDelivery c target payload send =
      (.ok (.receipt target (send hub (ServerMessage.delivery c.user target payload).encode).1),
        (send hub (ServerMessage.delivery c.user target payload).encode).2) := by
  simp [tryDelivery, sendDocument, ServerMessage.documentText]

theorem tryAnswerSent : hub.tryAnswer h c raw = (.ok (hub.answer h c raw).1, (hub.answer h c raw).2) := by
  unfold tryAnswer answer
  cases ClientMessage.read raw with
  | error refusal => rfl
  | ok m =>
    cases m with
    | join group =>
      simp only [tryMessage, applyMessage]
      split
      · rfl
      · rfl
    | leave group => rfl
    | group group payload echo =>
      simp only [tryMessage, applyMessage, tryDeliverySent]
      split
      · rfl
      · rfl
    | direct | tenant | broadcast => simp only [tryMessage, applyMessage, tryDeliverySent]

theorem handleMessageReturns : hub.handleMessage h raw = (.ok (), hub.relay h raw) := by
  unfold handleMessage relay
  cases hub.client? h with
  | none => rfl
  | some c => simp [tryAnswerSent, sendDocument, ServerMessage.documentText]

/- All that comes of one frame: `reply` is what is offered to its client in the end, `delivery` what the
`takers` have got before. -/
structure Relayed (reply delivery : ServerMessage) (takers : List Handle) : Prop where
  returned : hub.handleMessage h raw = (.ok (), hub.relay h raw)
  regroups : hub.Regroups h c raw (hub.relay h raw).registry
  delivers : hub.Delivers h c raw delivery takers
  replies : hub.Replies h c raw takers.length reply
  outline : (hub.relay h raw).outline = { hub.outline with registry := (hub.relay h raw).registry }
  queues : ∀ k x, hub.client? k = some x → ∃ y, (y = if k ∈ takers then x.took delivery.encode else x) ∧
    (hub.relay h raw).client? k = some (if k = h then y.offered hub.config.sendBufferSize reply.encode else y)
  lives : ∀ k x, hub.client? k = some x → ∃ x', (hub.relay h raw).client? k = some x' ∧ x'.state = x.state
  error : ∀ text, reply = .error text ↔ hub.Refuses h raw text
  silent : ∀ text, reply = .error text → takers = []
  spared : ∀ group payload, ClientMessage.read raw = .ok (.group group payload false) →
    ∀ k ∈ takers, ∀ x, hub.client? k = some x → x.user ≠ c.user

end Return

theorem Replies.error {hub : Hub} {h : Handle} {c : Client} {raw : Bytes} {n : Nat} {reply : ServerMessage}
    (replies : hub.Replies h c raw n reply) (text : String) : reply = .error text ↔ hub.Refuses h raw text := by
  constructor
  · rintro rfl
    by_cases refused : ∃ other, hub.Refuses h raw other
    · obtain ⟨other, refuses⟩ := refused
      cases replies.refused other refuses
      exact refuses
    · have grants := replies.granted fun other refuses => refused ⟨other, refuses⟩
      contradiction
  · exact replies.refused text

theorem Delivers.spared {hub : Hub} {h : Handle} {c : Client} {raw : Bytes} {owed takers : List Handle}
    {delivery : ServerMessage} (a : Accounted owed hub) (delivers : hub.Delivers h c raw delivery takers)
    {group : String} {payload : Json} (read : ClientMessage.read raw = .ok (.group group payload false))
    {k : Handle} (taker : k ∈ takers) {x : Client} (known : hub.client? k = some x) : x.user ≠ c.user := by
  obtain ⟨m, audience, addresses, inside, -⟩ := (delivers.takers k).mp taker
  cases addresses with
  | direct read' | tenant read' | broadcast read' => cases read.symm.trans read'
  | group read' _ =>
    cases read.symm.trans read'
    obtain ⟨u, i, entry, held, kept, rfl⟩ := inside
    obtain ⟨own, rfl, -⟩ := a.known u i entry (.inr ⟨group, held⟩)
    obtain ⟨y, found, same⟩ := Option.map_eq_some_iff.mp own
    cases known.symm.trans found
    have user : x.user = entry.user := congrArg Member.user same
    exact fun sender => kept (congrArg some (user.symm.trans sender))

theorem Answers.truthful {hub hub' : Hub} {h : Handle} {c : Client} {raw : Bytes}
    {reply delivery : ServerMessage} {takers : List Handle}
    (answers : hub.Answers h c raw reply delivery takers hub') (truthful : hub.Truthful) : hub'.Truthful := by
  intro k y found
  rw [answers.client] at found
  obtain ⟨x, before, rfl⟩ := Option.map_eq_some_iff.mp found
  have honest := truthful k x before
  split
  · exact honest
  · exact honest

theorem Answers.replied {hub hub' : Hub} {h : Handle} {c : Client} {raw : Bytes}
    {reply delivery : ServerMessage} {takers : List Handle}
    (answers : hub.Answers h c raw reply delivery takers hub') (truthful : hub.Truthful) (k : Handle)
    {x : Client} (found : hub.client? k = some x) :
    ∃ y, (y = if k ∈ takers then x.took delivery.encode else x) ∧ (hub'.send h reply.encode).2.client? k =
      some (if k = h then y.offered hub.config.sendBufferSize reply.encode else y) := by
  refine ⟨_, rfl, ?_⟩
  have there : hub'.client? k = some (if k ∈ takers then x.took delivery.encode else x) := by
    rw [answers.client, found]
    rfl
  have sent := (sendSpread (answers.truthful truthful) h reply.encode).2
  rw [sent.client, there, Option.map_some]
  have config : hub'.config = hub.config := congrArg Outline.config answers.outline
  by_cases own : k = h
  · subst own
    have ready : hub'.ready k =
        (if k ∈ takers then x.took delivery.encode else x).ready hub.config.sendBufferSize := by
      simp [Hub.ready, there, config]
    rw [if_pos rfl, Client.offered, ready]
    cases (if k ∈ takers then x.took delivery.encode else x).ready hub.config.sendBufferSize with
    | true => simp
    | false => simp
  · have spared : k ∉ if hub'.ready h then [h] else [] := by
      split
      · simpa using own
      · exact List.not_mem_nil
    rw [if_neg spared, if_neg own]

theorem relayed {hub : Hub} {h : Handle} {c : Client} {owed : List Handle} (a : Accounted owed hub)
    (truthful : hub.Truthful) (known : hub.client? h = some c) (raw : Bytes) :
    ∃ reply delivery takers, hub.Relayed h c raw reply delivery takers := by
  obtain ⟨delivery, takers, answers⟩ := answers a truthful known raw
  refine ⟨(hub.answer h c raw).1, delivery, takers, ?_⟩
  have relay : hub.relay h raw = ((hub.answer h c raw).2.send h (hub.answer h c raw).1.encode).2 := by
    simp [Hub.relay, known]
  have sent := (sendSpread (answers.truthful truthful) h (hub.answer h c raw).1.encode).2
  rw [← relay] at sent
  have registry : (hub.relay h raw).registry = (hub.answer h c raw).2.registry := sameRegistry sent.outline
  have queues := fun k x (found : hub.client? k = some x) => answers.replied truthful k found
  rw [← relay] at queues
  refine ⟨handleMessageReturns hub h raw, registry ▸ answers.regroups, answers.delivers, answers.replies,
    registry ▸ sent.outline.trans answers.outline, queues, fun k x found => ?_, answers.replies.error,
    fun text error => ?_, fun group payload read k taker x found => answers.delivers.spared a read taker found⟩
  · obtain ⟨y, rfl, after⟩ := queues k x found
    refine ⟨_, after, ?_⟩
    have taken : (if k ∈ takers then x.took delivery.encode else x).state = x.state := by
      rw [apply_ite Client.state, Client.tookState, ite_self]
    rw [apply_ite Client.state, Client.offeredState, ite_self, taken]
  · have refuses := (answers.replies.error text).mp error
    refine List.eq_nil_iff_forall_not_mem.mpr fun k taker => ?_
    obtain ⟨m, audience, addresses, -, -⟩ := (answers.delivers.takers k).mp taker
    exact refuses.nobody addresses

end Hub
end RelayHub
