import RelayHub.Proofs.Hub.Calls
import RelayHub.Proofs.Registry.Laws

/-! Whoever an index holds is open, or the notice of his end is on the way. This is what every call and
every step of the event loop keeps; once nothing is on the way any more, only open clients are held. -/
namespace RelayHub

def LoopState.ended : LoopState → Bool
  | .idle | .serving => false
  | .stopping | .draining | .stopped => true

def Registry.Holds (r : Registry) (user id : String) (m : Member) : Prop :=
  r.client? user id = some m ∨ ∃ group, r.groupMember? group user id = some m

theorem Registry.emptyHolds (user id : String) (m : Member) : ¬ Holds {} user id m := by
  rintro (found | ⟨group, found⟩)
  · simp [client?, Users.at?] at found
  · simp [groupMember?] at found

theorem Registry.removeHolds (r : Registry) (m : Member) : ¬ (r.remove m).2.Holds m.user m.id m := by
  rintro (found | ⟨group, found⟩)
  · rw [removeClient] at found
    split at found
    · contradiction
    · rename_i kept
      exact kept ⟨rfl, rfl, by simp [containsIff, found]⟩
  · rw [removeGroupMember] at found
    split at found
    · contradiction
    · rename_i kept
      exact kept ⟨rfl, rfl, by simp [isMemberIff, found]⟩

namespace Hub

/- The notice waits among the events, or a close call that has shut the client still owes it. -/
def Told (owed : List Handle) (hub : Hub) (h : Handle) : Prop :=
  .unregister h ∈ hub.events ∨ h ∈ owed

structure Accounted (owed : List Handle) (hub : Hub) : Prop where
  owned : hub.owned = true
  ended : hub.loop.ended = true → hub.registry = {}
  known : ∀ u i m, hub.registry.Holds u i m →
    hub.member? m.handle = some m ∧ m.user = u ∧ m.id = i
  told : ∀ u i m, hub.registry.Holds u i m → hub.isOpen m.handle = false → Told owed hub m.handle
  shared : ∀ g u i m, hub.registry.groupMember? g u i = some m → hub.isOpen m.handle = true →
    hub.registry.client? u i = some m

theorem knownFew {hub : Hub} {hs : List Handle} (nodup : hs.Nodup)
    (known : ∀ k ∈ hs, ∃ c, hub.client? k = some c) : hs.length ≤ hub.clients.length := by
  have inside : hs ⊆ List.range hub.clients.length := by
    intro k listed
    obtain ⟨c, found⟩ := known k listed
    exact List.mem_range.mpr (List.getElem?_eq_some_iff.mp found).1
  have fewer := (nodup.subperm inside).length_le
  rwa [List.length_range] at fewer

def Filed (hub : Hub) : Prop := ∀ u i m, hub.registry.Holds u i m →
    hub.member? m.handle = some m ∧ m.user = u ∧ m.id = i

namespace Filed
variable {hub : Hub} (filed : hub.Filed)
include filed

theorem sole {u i u' i' : String} {m m' : Member} (held : hub.registry.Holds u i m)
    (held' : hub.registry.Holds u' i' m') (same : m.handle = m'.handle) : m = m' := by
  have own := (filed u i m held).1
  have own' := (filed u' i' m' held').1
  rw [same] at own
  exact Option.some.inj (own.symm.trans own')

theorem handlesOnce {ms : List Member} (nodup : ms.Nodup)
    (held : ∀ m ∈ ms, ∃ u i, hub.registry.Holds u i m) : (ms.map (·.handle)).Nodup := by
  refine nodup.map_on fun m listed m' listed' same => ?_
  obtain ⟨u, i, one⟩ := held m listed
  obtain ⟨u', i', two⟩ := held m' listed'
  exact filed.sole one two same

theorem keyed : hub.registry.users.Keyed := fun u i m found => (filed u i m (.inl found)).2

theorem handlesNodup : (hub.registry.members.map (·.handle)).Nodup := by
  refine filed.handlesOnce (Users.membersNodup filed.keyed) fun m listed => ?_
  obtain ⟨u, i, found⟩ := (Users.memMembers _ m).mp listed
  exact ⟨u, i, .inl found⟩

end Filed

theorem endedOfRefusing {hub : Hub} (refusing : hub.accepting = false) : hub.loop.ended = true := by
  cases loop : hub.loop with
  | idle | serving | stopping => simp [accepting, loop] at refusing
  | draining | stopped => rfl

theorem noticeOf {hub : Hub} (owned : hub.owned = true) (serving : hub.loop.ended = false) (h : Handle) :
    hub.notice h = [.unregister h] := by
  have accepting : hub.accepting = true := by
    cases a : hub.accepting with
    | true => rfl
    | false => simp [endedOfRefusing a] at serving
  simp [notice, reachable, owned, accepting]

namespace Accounted
variable {owed owed' : List Handle} {hub hub' : Hub}

theorem vacant (a : Accounted owed hub) (ended : hub.loop.ended = true) (u i : String) (m : Member) :
    ¬ hub.registry.Holds u i m := by
  rw [a.ended ended]
  exact Registry.emptyHolds u i m

theorem ofVacant (owned : hub.owned = true) (vacant : hub.registry = {}) : Accounted owed hub where
  owned := owned
  ended _ := vacant
  known u i m held := absurd (vacant ▸ held) (Registry.emptyHolds u i m)
  told u i m held := absurd (vacant ▸ held) (Registry.emptyHolds u i m)
  shared g u i m held := absurd (.inr ⟨g, vacant ▸ held⟩) (Registry.emptyHolds u i m)

theorem keep (a : Accounted owed hub) (registry : hub'.registry = hub.registry)
    (owned : hub'.owned = hub.owned) (ended : hub'.loop.ended = hub.loop.ended)
    (member : ∀ k m, hub.member? k = some m → hub'.member? k = some m)
    (isOpen : ∀ k m, hub.member? k = some m → hub'.isOpen k = true → hub.isOpen k = true)
    (told : hub.loop.ended = false → ∀ k, (hub.isOpen k = false → Told owed hub k) →
      hub'.isOpen k = false → Told owed' hub' k) : Accounted owed' hub' where
  owned := owned.trans a.owned
  ended stops := by
    rw [registry]
    exact a.ended (ended ▸ stops)
  known u i m held := by
    rw [registry] at held
    obtain ⟨own, key⟩ := a.known u i m held
    exact ⟨member _ m own, key⟩
  told u i m held shut := by
    rw [registry] at held
    cases stops : hub.loop.ended with
    | true => exact absurd held (a.vacant stops u i m)
    | false => exact told stops _ (a.told u i m held) shut
  shared g u i m held stillOpen := by
    rw [registry] at held ⊢
    obtain ⟨own, -⟩ := a.known u i m (.inr ⟨g, held⟩)
    exact a.shared g u i m held (isOpen _ m own stillOpen)

theorem same (a : Accounted owed hub) (same : hub'.outline = hub.outline) : Accounted owed hub' := by
  refine a.keep (sameRegistry same) (sameOwned same) (by rw [sameLoop same]) ?_ ?_ ?_
  · intro k m own
    rwa [sameMember same]
  · intro k m _ isOpen
    rwa [sameOpen same] at isOpen
  · intro _ k told shut
    rw [sameOpen same] at shut
    unfold Told
    rw [sameEvents same]
    exact told shut

theorem events (a : Accounted owed hub) (more : List Event) (flushes : List FlushState)
    (runs : List RunState) :
    Accounted owed { hub with events := hub.events ++ more, flushes, runs } :=
  a.keep rfl rfl rfl (fun _ _ own => own) (fun _ _ _ isOpen => isOpen)
    (fun _ _ told shut => (told shut).imp_left (List.mem_append_left more))

theorem submit (a : Accounted owed hub) (e : Event) : Accounted owed (hub.submit e) :=
  a.events [e] hub.flushes hub.runs

theorem close (a : Accounted owed hub) (h : Handle) : Accounted owed (hub.close h) := by
  refine a.keep (closeRegistry hub h) (closeOwned hub h) (by rw [closeLoop]) ?_ ?_ ?_
  · intro k m own
    rwa [closeMember]
  · intro k m _ isOpen
    rw [closeOpen] at isOpen
    exact (Bool.and_eq_true _ _ ▸ isOpen).1
  · intro serving k told shut
    rw [closeOpen] at shut
    unfold Told
    rw [closeEvents]
    cases open' : hub.isOpen k with
    | false => exact (told open').imp_left (List.mem_append_left _)
    | true =>
      have here : k = h := by simpa [open'] using shut
      subst here
      simp [closing, open', noticeOf a.owned serving]

theorem closeAll (a : Accounted owed hub) (hs : List Handle) : Accounted owed (hub.closeAll hs) := by
  induction hs generalizing hub with
  | nil => exact a
  | cons h rest ih => exact ih (a.close h)

theorem beginClose (a : Accounted owed hub) (h : Handle) :
    Accounted (if hub.isOpen h then h :: owed else owed) (hub.beginClose h).2 := by
  refine a.keep rfl rfl rfl ?_ ?_ ?_
  · intro k m own
    rwa [beginCloseMember]
  · intro k m _ isOpen
    rw [beginCloseOpen] at isOpen
    exact (Bool.and_eq_true _ _ ▸ isOpen).1
  · intro _ k told shut
    rw [beginCloseOpen] at shut
    cases open' : hub.isOpen k with
    | false =>
      refine (told open').imp_right fun member => ?_
      split
      · exact List.mem_cons_of_mem h member
      · exact member
    | true =>
      have here : k = h := by simpa [open'] using shut
      subst here
      simp [Told, open']

theorem finishClose (a : Accounted owed hub) (h : Handle) :
    Accounted (owed.erase h) (hub.finishClose h) := by
  have outline := finishCloseOutline hub h
  have registry := congrArg Outline.registry outline
  have events : (hub.finishClose h).events = hub.events ++ hub.notice h := congrArg Outline.events outline
  have loop : (hub.finishClose h).loop = hub.loop := congrArg Outline.loop outline
  refine a.keep registry (congrArg Outline.owned outline) (by rw [loop]) ?_ ?_ ?_
  · intro k m own
    rwa [finishCloseMember]
  · intro k m _ isOpen
    rwa [finishCloseOpen] at isOpen
  · intro serving k told shut
    rw [finishCloseOpen] at shut
    unfold Told
    rw [events, noticeOf a.owned serving]
    rcases told shut with waits | owes
    · exact .inl (List.mem_append_left _ waits)
    · by_cases here : k = h
      · subst here
        exact .inl (by simp)
      · exact .inr ((List.mem_erase_of_ne here).mpr owes)

theorem owe (a : Accounted owed hub) {rest : List Event} {h : Handle}
    (last : hub.events = rest ++ [.unregister h]) :
    Accounted (h :: owed) { hub with events := rest } := by
  refine a.keep rfl rfl rfl (fun _ _ own => own) (fun _ _ _ isOpen => isOpen) ?_
  intro _ k told shut
  rcases told shut with waits | owes
  · rw [last] at waits
    rcases List.mem_append.mp waits with earlier | here
    · exact .inl earlier
    · cases List.mem_singleton.mp here
      exact .inr List.mem_cons_self
  · exact .inr (List.mem_cons_of_mem h owes)

theorem shrink (a : Accounted owed hub) {r : Registry} (within : r.Within hub.registry)
    (stays : ∀ g u i m, r.groupMember? g u i = some m → hub.registry.client? u i = some m →
      r.client? u i = some m)
    (ended : hub.loop.ended = true → r = {}) : Accounted owed { hub with registry := r } := by
  have holds : ∀ u i m, r.Holds u i m → hub.registry.Holds u i m := by
    intro u i m held
    rcases held with found | ⟨g, found⟩
    · exact .inl (within.client u i m found)
    · exact .inr ⟨g, within.group g u i m found⟩
  exact {
    owned := a.owned
    ended := ended
    known := fun u i m held => a.known u i m (holds u i m held)
    told := fun u i m held shut => a.told u i m (holds u i m held) shut
    shared := fun g u i m held isOpen =>
      stays g u i m held (a.shared g u i m (within.group g u i m held) isOpen) }

theorem removed (a : Accounted owed hub) (m : Member) :
    Accounted owed { hub with registry := (hub.registry.remove m).2 } := by
  refine a.shrink (hub.registry.removeWithin m) (fun _ _ _ _ => Registry.removeStays) fun stops => ?_
  rw [a.ended stops]
  rfl

theorem removedUser (a : Accounted owed hub) (user : String) :
    Accounted owed { hub with registry := (hub.registry.removeUser user).2 } := by
  refine a.shrink (hub.registry.removeUserWithin user) (fun _ _ _ _ => Registry.removeUserStays) fun stops => ?_
  rw [a.ended stops]
  rfl

theorem left (a : Accounted owed hub) (group : String) (m : Member) :
    Accounted owed { hub with registry := (hub.registry.leave group m).2 } := by
  refine a.shrink (hub.registry.leaveWithin m group) (fun _ _ _ _ _ found => found) fun stops => ?_
  rw [a.ended stops]
  rfl

theorem forget {h : Handle} (a : Accounted (h :: owed) hub)
    (gone : ∀ u i m, hub.registry.Holds u i m → m.handle ≠ h) : Accounted owed hub where
  owned := a.owned
  ended := a.ended
  known := a.known
  told u i m held shut := by
    refine (a.told u i m held shut).imp_right fun owes => ?_
    exact (List.mem_cons.mp owes).resolve_left (gone u i m held)
  shared := a.shared

theorem contained (a : Accounted owed hub) {m : Member} (known : hub.member? m.handle = some m)
    (held : hub.registry.contains m = true) : hub.registry.client? m.user m.id = some m := by
  rw [Registry.containsIff] at held
  cases found : hub.registry.client? m.user m.id with
  | none => simp [found] at held
  | some x =>
    have handle : x.handle = m.handle := by simpa [found] using held
    have own := (a.known _ _ x (.inl found)).1
    rw [handle, known] at own
    exact own.symm

theorem joined (a : Accounted owed hub) (group : String) {m : Member}
    (known : hub.member? m.handle = some m) (held : hub.registry.contains m = true) :
    Accounted owed { hub with registry := hub.registry.join group m } := by
  have registered := a.contained known held
  have holds : ∀ u i x, (hub.registry.join group m).Holds u i x → hub.registry.Holds u i x := by
    rintro u i x (found | ⟨g, found⟩)
    · exact .inl found
    · rw [Registry.joinGroupMember] at found
      split at found
      · rename_i key
        cases found
        obtain ⟨-, rfl, rfl⟩ := key
        exact .inl registered
      · exact .inr ⟨g, found⟩
  exact {
    owned := a.owned
    ended := fun stops => absurd (.inl registered) (a.vacant stops _ _ m)
    known := fun u i x found => a.known u i x (holds u i x found)
    told := fun u i x found shut => a.told u i x (holds u i x found) shut
    shared := by
      intro g u i x found stillOpen
      rw [Registry.joinGroupMember] at found
      split at found
      · rename_i key
        cases found
        obtain ⟨-, rfl, rfl⟩ := key
        exact registered
      · exact a.shared g u i x found stillOpen }

theorem inserted (a : Accounted owed hub) {m : Member} (known : hub.member? m.handle = some m)
    (isOpen : hub.isOpen m.handle = true) (serving : hub.loop.ended = false)
    (free : ∀ p, hub.registry.client? m.user m.id = some p → p = m ∨ hub.isOpen p.handle = false) :
    Accounted owed { hub with registry := (hub.registry.insert m).2 } := by
  have holds : ∀ u i x, (hub.registry.insert m).2.Holds u i x →
      hub.registry.Holds u i x ∨ (x = m ∧ u = m.user ∧ i = m.id) := by
    rintro u i x (found | ⟨g, found⟩)
    · rw [Registry.insertClient] at found
      split at found
      · rename_i key
        cases found
        exact .inr ⟨rfl, key⟩
      · exact .inl (.inl found)
    · exact .inl (.inr ⟨g, found⟩)
  exact {
    owned := a.owned
    ended := by
      intro stops
      rw [serving] at stops
      contradiction
    known := by
      intro u i x found
      rcases holds u i x found with before | ⟨rfl, rfl, rfl⟩
      · exact a.known u i x before
      · exact ⟨known, rfl, rfl⟩
    told := by
      intro u i x found shut
      rcases holds u i x found with before | ⟨rfl, -, -⟩
      · exact a.told u i x before shut
      · exact absurd (isOpen.symm.trans shut) (by simp)
    shared := by
      intro g u i x found stillOpen
      have registered := a.shared g u i x found stillOpen
      rw [Registry.insertClient]
      split
      · rename_i key
        obtain ⟨rfl, rfl⟩ := key
        -- a member of a group that is still open keeps its key, so it is the client itself
        rcases free x registered with rfl | shut
        · rfl
        · exact absurd (stillOpen.symm.trans shut) (by simp)
      · exact registered }

theorem disconnected (a : Accounted owed hub) (user : String) :
    Accounted owed (hub.disconnectUser user).2 := by
  have closed := (a.removedUser user).closeAll
    (((hub.registry.removeUser user).1.getD []).map (·.handle))
  exact closed.same rfl

theorem calls (a : Accounted owed hub) {asked : List Handle} (calls : Calls asked hub hub') : Accounted owed hub' := by
  induction calls with
  | refl hub => exact a
  | log hub e => exact a.same rfl
  | send hub h m => exact a.same (outlineSend hub h m)
  | close hub h => exact a.close h
  | notice hub h _ => exact a.submit _
  | join hub group m known _ held => exact a.joined group known held
  | leave hub group m _ => exact a.left group m
  | disconnect hub user => exact a.disconnected user
  | trans _ _ first second => exact second (first a)

theorem register (a : Accounted owed hub) (h : Handle) : Accounted owed (hub.register h) := by
  unfold Hub.register
  split
  · exact a.submit _
  · exact (a.calls (Calls.note hub h _)).close h

theorem flush (a : Accounted owed hub) : Accounted owed hub.flush.2 := by
  unfold Hub.flush
  split
  · exact a.events _ _ _
  · exact a.keep rfl rfl rfl (fun _ _ own => own) (fun _ _ _ isOpen => isOpen)
      (fun _ _ told shut => told shut)

theorem shutdown (a : Accounted owed hub) : Accounted owed hub.shutdown := by
  unfold Hub.shutdown
  split
  · exact a.submit .shutdown
  · exact a

theorem run (a : Accounted owed hub) : Accounted owed hub.run :=
  a.keep rfl rfl rfl (fun _ _ own => own) (fun _ _ _ isOpen => isOpen)
    (fun _ _ told shut => told shut)

theorem build (a : Accounted owed hub) (c : Client) : Accounted owed (hub.build c).2 := by
  have client : ∀ k m, hub.member? k = some m → (hub.build c).2.client? k = hub.client? k := by
    intro k m own
    obtain ⟨x, found, -⟩ := Option.map_eq_some_iff.mp own
    have inside : k < hub.clients.length := (List.getElem?_eq_some_iff.mp found).1
    exact List.getElem?_append_left inside
  refine a.keep rfl rfl rfl ?_ ?_ ?_
  · intro k m own
    rw [member?, client k m own]
    exact own
  · intro k m own isOpen
    rw [Hub.isOpen, client k m own] at isOpen
    exact isOpen
  · intro _ k told shut
    refine told ?_
    cases found : hub.client? k with
    | none => simp [Hub.isOpen, found]
    | some x =>
      have same := client k (x.member k) (by simp [member?, found])
      rw [Hub.isOpen, same] at shut
      exact shut

theorem filed (a : Accounted owed hub) : hub.Filed := a.known

end Accounted
end Hub
end RelayHub
