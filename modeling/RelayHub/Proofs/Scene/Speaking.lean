import RelayHub.Proofs.Scene.Registration
import RelayHub.Proofs.Scene.Relaying

/-! What a client that is not open can still do with its frames. Groups are closed to it once the notice of its end
has been applied; to users, to its tenant and to all it speaks as before. -/
namespace RelayHub

namespace Hub
variable {hub : Hub} {h : Handle} {c : Client} {raw : Bytes} {reply delivery : ServerMessage} {takers : List Handle}

inductive Ungrouped (raw : Bytes) : Prop where
  | direct {user : String} {payload : Json} (read : ClientMessage.read raw = .ok (.direct user payload))
  | tenant {payload : Json} (read : ClientMessage.read raw = .ok (.tenant payload))
  | broadcast {payload : Json} (read : ClientMessage.read raw = .ok (.broadcast payload))

theorem memberTold {owed : List Handle} (a : Accounted owed hub) (shut : hub.isOpen h = false) {group : String}
    (member : hub.isGroupMember group h = true) : Told owed hub h := by
  obtain ⟨c, -, listed⟩ := (Option.any_eq_true ..).mp member
  rw [Registry.isMemberIff] at listed
  obtain ⟨m, held, same⟩ := (Option.any_eq_true ..).mp listed
  have handle : m.handle = h := of_decide_eq_true same
  subst handle
  exact a.told _ _ m (.inr ⟨group, held⟩) shut

theorem shutUnready (known : hub.client? h = some c) (shut : c.isOpen = false) : hub.ready h = false := by
  simp [ready, known, Client.ready, shut]

theorem Relayed.unheard (relayed : hub.Relayed h c raw reply delivery takers) (known : hub.client? h = some c)
    (shut : c.isOpen = false) : h ∉ takers ∧ (hub.relay h raw).client? h = some c := by
  have spared : h ∉ takers := by
    intro taker
    obtain ⟨m, audience, -, -, ready⟩ := (relayed.delivers.takers h).mp taker
    exact absurd (ready.symm.trans (shutUnready known shut)) (by simp)
  obtain ⟨y, rfl, after⟩ := relayed.queues h c known
  have unready : c.ready hub.config.sendBufferSize = false := by simp [Client.ready, shut]
  refine ⟨spared, after.trans ?_⟩
  rw [if_pos rfl, if_neg spared, Client.offered, unready]
  rfl

theorem Relayed.heardAs {owed : List Handle} (a : Accounted owed hub)
    (relayed : hub.Relayed h c raw reply delivery takers) (shut : hub.isOpen h = false) {k : Handle}
    (taker : k ∈ takers) : Ungrouped raw ∨ (∃ group payload echo,
      ClientMessage.read raw = .ok (.group group payload echo)) ∧ Told owed hub h := by
  obtain ⟨m, audience, addresses, -, -⟩ := (relayed.delivers.takers k).mp taker
  cases addresses with
  | group read member => exact .inr ⟨⟨_, _, _, read⟩, memberTold a shut member⟩
  | direct read => exact .inl (.direct read)
  | tenant read => exact .inl (.tenant read)
  | broadcast read => exact .inl (.broadcast read)

theorem Relayed.unjoined (relayed : hub.Relayed h c raw reply delivery takers) (known : hub.client? h = some c)
    (shut : c.isOpen = false) {group : String} (read : ClientMessage.read raw = .ok (.join group)) :
    reply = .error ("cannot join group " ++ group) ∧ (hub.relay h raw).registry = hub.registry := by
  have refused : ∀ g, (hub.joinGroup g h).1 = false := fun g => (joinRefused known (.inl shut) g).1
  refine ⟨relayed.replies.refused _ (.unregistered read (refused group)), ?_⟩
  refine relayed.regroups.kept (fun g _ => refused g) fun g read' => ?_
  cases read.symm.trans read'

end Hub

namespace Session
variable {s : Session} {h : Handle} {c : Client} {l : Link}

theorem readNextRelays (held : s.hub.client? h = some c) (relays : c.onMessage = some .relay)
    (reachable : s.hub.reachable = true) (found : s.link? h = some l) (reads : l.readDone = false)
    {item : Incoming} {rest : List Incoming} (waits : l.incoming = item :: rest) {data : Bytes}
    (payload : item = .text data ∨ item = .binary data) :
    (s.take? (.readNext h)).map (·.hub) = some (s.hub.relay h data) := by
  obtain ⟨deadline, reading⟩ : ∃ deadline, l.reading = some deadline := by
    simpa [Link.readDone, Option.isSome_iff_exists] using reads
  have read : s.take? (.readNext h) = some ((s.setLink h { l with incoming := rest }).readItem h item) := by
    simp [take?, readNext?, found, reading, waits]
  have handled : ∀ s' : Session, s'.hub = s.hub → (s'.handle h data).hub = s.hub.relay h data := by
    intro s' same
    simp [handle, same, held, relays, runHandler, updateLink, reachable, onHub]
  rw [read, Option.map_some]
  rcases payload with rfl | rfl
  · exact congrArg some (handled _ rfl)
  · exact congrArg some (handled _ rfl)

end Session

namespace Scene
variable {config : HubConfig} {s s' : Scene} {h : Handle} {c : Client}

theorem shutStays {as : List Action} (known : s.hub.client? h = some c) (shut : s.hub.isOpen h = false)
    (ran : s.run? as = some s') : s'.hub.isOpen h = false := by
  have inside : h < s.hub.clients.length := (List.getElem?_eq_some_iff.mp known).1
  exact (knownAlong (P := fun hub => hub.isOpen h = false) inside shut (fun _ _ _ stir => stir.shuts) ran).2

/-- A client that is not open stays so, and its frames do not change its own queue or get it into a group. They are
delivered to others all the same: a group message as long as the notice of the client's end has not been applied;
and a direct message, a message to the tenant and a message to all at any time, like those of an open client. So
it is for every frame that is handed to the hub, and for every frame that still waits for a read loop that relays. -/
theorem shutClientsStillSpeak (reached : Reached config s) (known : s.hub.client? h = some c)
    (shut : c.state ≠ .open) :
    (∀ more s', s.run? more = some s' → s'.hub.isOpen h = false) ∧
    (∀ raw, ∃ reply delivery takers, s.hub.Relayed h c raw reply delivery takers ∧
      h ∉ takers ∧ (s.hub.relay h raw).client? h = some c ∧
      (∀ group, ClientMessage.read raw = .ok (.join group) →
        reply = .error ("cannot join group " ++ group) ∧ (s.hub.relay h raw).registry = s.hub.registry) ∧
      ∀ k ∈ takers, Hub.Ungrouped raw ∨ (∃ group payload echo,
        ClientMessage.read raw = .ok (.group group payload echo)) ∧ Hub.Told s.closing s.hub h) ∧
    (∀ l item rest data, s.session.link? h = some l → l.readDone = false → l.incoming = item :: rest →
      (item = .text data ∨ item = .binary data) → c.onMessage = some .relay →
      (s.session.take? (.readNext h)).map (·.hub) = some (s.hub.relay h data)) := by
  have closed : c.isOpen = false := by simpa [Client.isOpen] using shut
  have shut : s.hub.isOpen h = false := by simp [Hub.isOpen, known, closed]
  have accounted : Hub.Accounted s.closing s.hub := settling reached
  refine ⟨fun more s' => shutStays known shut, fun raw => ?_, ?_⟩
  · obtain ⟨reply, delivery, takers, relayed⟩ := frameAnswered reached known raw
    obtain ⟨spared, same⟩ := relayed.unheard known closed
    exact ⟨reply, delivery, takers, relayed, spared, same, fun group => relayed.unjoined known closed,
      fun k => relayed.heardAs accounted shut⟩
  · intro l item rest data found reads waits payload relays
    have reachable : s.session.hub.reachable = true := by
      have owned : s.session.hub.owned = true := accounted.owned
      simp [Hub.reachable, owned]
    exact Session.readNextRelays known relays reachable found reads waits payload

def disconnectedUser : List Action := [
  .build { id := "a", user := "u", tenant := "t" }, .build { id := "b", user := "v", tenant := "t" }, .run,
  .turn .run, .register 0, .register 1, .turn .loop, .turn .loop, .disconnect "u"]

def directFrame : Bytes := Utf8.encode "[\"direct\",\"v\",null]"

theorem directFrameRead : ClientMessage.read directFrame = .ok (.direct "v" .null) :=
  ClientMessage.readsAs (by decide +kernel)

theorem disconnectedIsClosed : ∃ s c d, (opening {}).run? disconnectedUser = some s ∧ s.hub.client? 0 = some c ∧
    s.hub.client? 1 = some d ∧ c.state = .closed ∧
    s.hub.registry.client? "v" "b" = some ⟨1, "v", "b", "t"⟩ ∧ s.hub.ready 1 = true := by
  have shown : ((opening {}).run? disconnectedUser).map (fun s => (s.hub.clients.map Client.state,
      s.hub.registry.client? "v" "b", s.hub.ready 1)) =
        some ([.closed, .open], some ⟨1, "v", "b", "t"⟩, true) := by
    rfl
  obtain ⟨s, ran, shown⟩ := Option.map_eq_some_iff.mp shown
  simp only [Prod.mk.injEq] at shown
  obtain ⟨states, entry, ready⟩ := shown
  have stands : ∀ k, (s.hub.client? k).map Client.state = [ClientState.closed, .open][k]? := by
    intro k
    rw [← states, List.getElem?_map]
    rfl
  obtain ⟨c, kicked, closed⟩ := Option.map_eq_some_iff.mp (stands 0)
  obtain ⟨d, other, -⟩ := Option.map_eq_some_iff.mp (stands 1)
  exact ⟨s, c, d, ran, kicked, other, closed, entry, ready⟩

theorem disconnectedStillSpeaks : ∃ s c reply delivery takers, (opening {}).run? disconnectedUser = some s ∧
    s.hub.client? 0 = some c ∧ c.state = .closed ∧ s.hub.Relayed 0 c directFrame reply delivery takers ∧
    1 ∈ takers ∧ 0 ∉ takers := by
  obtain ⟨s, c, -, ran, kicked, -, closed, entry, ready⟩ := disconnectedIsClosed
  obtain ⟨-, frames, -⟩ := shutClientsStillSpeak (reachedRun ran) kicked (by simp [closed])
  obtain ⟨reply, delivery, takers, relayed, spared, -⟩ := frames directFrame
  have heard : 1 ∈ takers :=
    (relayed.delivers.takers 1).mpr ⟨_, _, .direct directFrameRead, ⟨"b", _, entry, rfl⟩, ready⟩
  exact ⟨s, c, reply, delivery, takers, ran, kicked, closed, relayed, heard, spared⟩

theorem closedIsNotSilent : ¬ ∀ as s h c raw k d d' target payload, (opening {}).run? as = some s →
    s.hub.client? h = some c → c.state ≠ .open → s.hub.client? k = some d →
    (s.hub.relay h raw).client? k = some d' →
    d'.queue ≠ d.queue ++ [(ServerMessage.delivery c.user target payload).encode] := by
  intro silent
  obtain ⟨s, c, d, ran, kicked, other, closed, entry, ready⟩ := disconnectedIsClosed
  obtain ⟨reply, delivery, takers, relayed⟩ := frameAnswered (reachedRun ran) kicked directFrame
  have addresses := @Hub.Addresses.direct s.hub 0 c _ _ _ directFrameRead
  have heard : 1 ∈ takers := (relayed.delivers.takers 1).mpr ⟨_, _, addresses, ⟨"b", _, entry, rfl⟩, ready⟩
  obtain ⟨y, taken, after⟩ := relayed.queues 1 d other
  rw [if_pos heard, ← relayed.delivers.message _ _ addresses] at taken
  rw [if_neg (by decide)] at after
  refine silent _ s 0 c directFrame 1 d y ("user:" ++ "v") .null ran kicked (by simp [closed]) other after ?_
  rw [taken]
  rfl

end Scene
end RelayHub
