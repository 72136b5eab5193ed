import RelayHub.Proofs.Hub.Covering

/-! Clients under different keys, registered together while nothing else is called. Each of them stays
open, and beside their keys the clients index stays as it was. -/
namespace RelayHub.Hub

def key? (hub : Hub) (h : Handle) : Option (String × String) := (hub.member? h).map fun m => (m.user, m.id)

theorem keyIff {hub : Hub} {h : Handle} {u i : String} :
    hub.key? h = some (u, i) ↔ ∃ m, hub.member? h = some m ∧ m.user = u ∧ m.id = i := by
  simp [key?, Option.map_eq_some_iff]

theorem keyOf {hub : Hub} {h : Handle} {m : Member} (known : hub.member? h = some m) :
    hub.key? h = some (m.user, m.id) := keyIff.mpr ⟨m, known, rfl, rfl⟩

theorem knownNodup (hub : Hub) {hs : List Handle} (nodup : hs.Nodup) : (hs.filterMap hub.member?).Nodup :=
  nodup.filterMap fun _ _ _ own own' => (handleOf own).symm.trans (handleOf own')

/- What waits in the queue meanwhile: registrations, flushes, and notices of clients that have lost their
keys. -/
def Gathers (hub : Hub) (hs : List Handle) : Event → Prop
  | .register h => h ∈ hs
  | .unregister p => p ∉ hs ∧ ¬ hub.Held p
  | .flush _ => True
  | .shutdown => False

theorem Gathers.same {hub hub' : Hub} {hs : List Handle} {e : Event} (gathers : hub.Gathers hs e)
    (held : ∀ p, p ∉ hs → hub'.Held p → hub.Held p) : hub'.Gathers hs e := by
  cases e with
  | register _ | flush _ | shutdown => exact gathers
  | unregister p => exact ⟨gathers.1, fun there => gathers.2 (held p gathers.1 there)⟩

theorem heldElsewhere {hub : Hub} {h : Handle} {m : Member} (known : hub.member? h = some m)
    (isOpen : hub.isOpen h = true) {p : Handle} (other : p ≠ h) (held : (hub.applyRegister h).Held p) :
    ∃ u i x, ¬ (u = m.user ∧ i = m.id) ∧ hub.registry.client? u i = some x ∧ x.handle = p := by
  obtain ⟨u, i, x, found, handle⟩ := held
  rw [insertedRegistry known isOpen, Registry.insertClient] at found
  split at found
  · cases found
    exact absurd (handle.symm.trans (handleOf known)) other
  · rename_i elsewhere
    exact ⟨u, i, x, elsewhere, found, handle⟩

theorem Accounted.displacedUnheld {owed : List Handle} {hub : Hub} (a : Accounted owed hub) {h : Handle}
    {m : Member} (known : hub.member? h = some m) (isOpen : hub.isOpen h = true) {p : Handle}
    (displaced : p ∈ hub.displaced m) : ¬ (hub.applyRegister h).Held p := by
  intro held
  obtain ⟨apart, y, under, rfl⟩ := (memDisplaced hub m p).mp displaced
  obtain ⟨u, i, x, elsewhere, found, handle⟩ := heldElsewhere known isOpen (handleOf known ▸ apart) held
  cases a.filed.sole (.inl under) (.inl found) handle.symm
  obtain ⟨user, id⟩ := a.filed.keyed u i y found
  obtain ⟨user', id'⟩ := a.filed.keyed _ _ y under
  exact elsewhere ⟨user.symm.trans user', id.symm.trans id'⟩

structure Gathering (base : Hub) (hs : List Handle) (hub : Hub) : Prop where
  serving : hub.loop = .serving
  same : ∀ k, hub.member? k = base.member? k
  isOpen : ∀ h ∈ hs, hub.isOpen h = true
  waiting : ∀ e ∈ hub.events, hub.Gathers hs e
  others : ∀ u i, some (u, i) ∉ hs.map base.key? →
    hub.registry.client? u i = base.registry.client? u i

theorem closeAllEvents (hub : Hub) (ks : List Handle) {e : Event} (member : e ∈ (hub.closeAll ks).events) :
    e ∈ hub.events ∨ ∃ p ∈ ks, e = .unregister p := by
  induction ks generalizing hub with
  | nil => exact .inl member
  | cons k rest ih =>
    rcases ih (hub.close k) member with before | ⟨p, listed, rfl⟩
    · rw [closeEvents] at before
      rcases List.mem_append.mp before with earlier | notice
      · exact .inl earlier
      · refine .inr ⟨k, List.mem_cons_self, ?_⟩
        unfold closing Hub.notice at notice
        split at notice
        · split at notice
          · exact List.mem_singleton.mp notice
          · contradiction
        · contradiction
    · exact .inr ⟨p, List.mem_cons_of_mem k listed, rfl⟩

namespace Gathering
variable {base hub hub' : Hub} {hs owed owed' : List Handle}

theorem start {hub : Hub} (serving : hub.loop = .serving) (isOpen : ∀ h ∈ hs, hub.isOpen h = true)
    (none : hub.events = []) : Gathering hub hs hub where
  serving := serving
  same _ := rfl
  isOpen := isOpen
  waiting e member := by simp [none] at member
  others _ _ _ := rfl

theorem more (g : Gathering base hs hub) {e : Event} (new : hub.Gathers hs e) (flushes : List FlushState) :
    Gathering base hs { hub.submit e with flushes } where
  serving := g.serving
  same := g.same
  isOpen := g.isOpen
  waiting e' member := by
    rcases List.mem_append.mp member with before | here
    · exact g.waiting e' before
    · cases List.mem_singleton.mp here
      exact new
  others := g.others

theorem register (g : Gathering base hs hub) {h : Handle} (listed : h ∈ hs) :
    Gathering base hs (hub.register h) := by
  have accepting : hub.accepting = true := by simp [Hub.accepting, g.serving]
  have called : hub.register h = hub.submit (.register h) := by simp [Hub.register, accepting]
  exact called ▸ g.more (e := .register h) listed hub.flushes

theorem flush (g : Gathering base hs hub) : Gathering base hs hub.flush.2 := by
  have accepting : hub.accepting = true := by simp [Hub.accepting, g.serving]
  exact flushAccepted accepting ▸ g.more (e := .flush _) trivial _

theorem pop (g : Gathering base hs hub) {e : Event} {rest : List Event} (next : hub.events = e :: rest) :
    Gathering base hs { hub with events := rest } where
  serving := g.serving
  same := g.same
  isOpen := g.isOpen
  waiting e' member := g.waiting e' (next ▸ List.mem_cons_of_mem e member)
  others := g.others

theorem strangers (g : Gathering base hs hub) (a : Accounted owed hub) (distinct : (hs.map base.key?).Nodup)
    {h : Handle} {m : Member} (listed : h ∈ hs) (known : hub.member? h = some m) {p : Handle}
    (displaced : p ∈ hub.displaced m) : p ∉ hs := by
  intro listed'
  obtain ⟨apart, x, found, rfl⟩ := (memDisplaced hub m p).mp displaced
  obtain ⟨own, user, id⟩ := a.known _ _ x (.inl found)
  have keys : base.key? h = base.key? x.handle := by
    rw [keyOf ((g.same h).symm.trans known), keyOf ((g.same x.handle).symm.trans own), user, id]
  have same : h = x.handle := List.inj_on_of_nodup_map distinct listed listed' keys
  exact apart (same.symm.trans (handleOf known).symm)

theorem applyRegister (g : Gathering base hs hub) (a : Accounted owed hub)
    (distinct : (hs.map base.key?).Nodup) {h : Handle} (listed : h ∈ hs) :
    Gathering base hs (hub.applyRegister h) := by
  have here := g.isOpen h listed
  obtain ⟨c, found, isOpen, known⟩ := knownOpen here
  have outline := registerOutline found isOpen
  have strangers : ∀ p ∈ hub.displaced (c.member h), p ∉ hs := fun p => g.strangers a distinct listed known
  refine ⟨(Noticed.applyRegister hub h).loop.trans g.serving, fun k => ?_, fun k member => ?_,
    fun e member => ?_, fun u i other => ?_⟩
  · rw [memberFace, outline, ← memberFace, closeAllMember]
    exact g.same k
  · rw [isOpenFace, outline, ← isOpenFace, closeAllOpen, g.isOpen k member]
    simpa using fun displaced => strangers k displaced member
  · have events : (hub.applyRegister h).events = (hub.closeAll (hub.displaced (c.member h))).events :=
      congrArg Outline.events outline
    rcases closeAllEvents hub _ (events ▸ member) with before | ⟨p, displaced, rfl⟩
    · refine (g.waiting e before).same fun p apart held => ?_
      have other : p ≠ h := fun same => apart (same ▸ listed)
      obtain ⟨u, i, x, -, there, handle⟩ := heldElsewhere known here other held
      exact ⟨u, i, x, there, handle⟩
    · exact ⟨strangers p displaced, a.displacedUnheld known here displaced⟩
  · rw [insertedRegistry known here, Registry.insertClient, if_neg, g.others u i other]
    rintro ⟨rfl, rfl⟩
    exact other (List.mem_map.mpr ⟨h, listed, keyOf ((g.same h).symm.trans known)⟩)

theorem unheldRemoved {p : Handle} (unheld : ¬ hub.Held p) (u i : String) :
    (hub.applyUnregister p).registry.client? u i = hub.registry.client? u i := by
  have registry := removedRegistry hub p
  cases known : hub.member? p with
  | none => simpa [known] using congrArg (·.client? u i) registry
  | some m =>
    simp only [known] at registry
    rw [registry, Registry.removeClient, if_neg]
    rintro ⟨rfl, rfl, contains⟩
    rw [Registry.containsIff] at contains
    obtain ⟨x, there, handle⟩ := (Option.any_eq_true ..).mp contains
    exact unheld ⟨_, _, x, there, (of_decide_eq_true handle).trans (handleOf known)⟩

theorem applyUnregister (g : Gathering base hs hub) {p : Handle} (apart : p ∉ hs) (unheld : ¬ hub.Held p) :
    Gathering base hs (hub.applyUnregister p) := by
  cases found : hub.client? p with
  | none =>
    have same : hub.applyUnregister p = hub := by simp [Hub.applyUnregister, found]
    rw [same]
    exact g
  | some c =>
    have outline := unregisterOutline found
    have client := unheldRemoved unheld
    have held : ∀ k, (hub.applyUnregister p).Held k → hub.Held k := by
      rintro k ⟨u, i, x, there, handle⟩
      exact ⟨u, i, x, (client u i).symm.trans there, handle⟩
    refine ⟨(Noticed.applyUnregister hub p).loop.trans g.serving, fun k => ?_, fun k member => ?_,
      fun e member => ?_, fun u i other => (client u i).trans (g.others u i other)⟩
    · rw [memberFace, outline, ← memberFace, closeMember]
      exact g.same k
    · rw [isOpenFace, outline, ← isOpenFace, closeOpen]
      have spared : k ≠ p := fun here => apart (here ▸ member)
      exact (Bool.and_eq_true _ _).mpr ⟨g.isOpen k member, decide_eq_true spared⟩
    · have events : (hub.applyUnregister p).events =
          (Hub.closeAll { hub with registry := (hub.registry.remove (c.member p)).2 } [p]).events :=
        congrArg Outline.events outline
      rcases closeAllEvents _ [p] (events ▸ member) with before | ⟨q, here, rfl⟩
      · exact (g.waiting e before).same fun k _ => held k
      · cases List.mem_singleton.mp here
        exact ⟨apart, fun there => unheld (held p there)⟩

theorem loopStep (g : Gathering base hs hub) (a : Accounted owed hub) (distinct : (hs.map base.key?).Nodup)
    (step : LoopStep hub hub') : Gathering base hs hub' := by
  cases step with
  | @applied e rest serving next =>
    have popped := g.pop next
    have gathers := g.waiting e (next ▸ List.mem_cons_self)
    cases e with
    | register h => exact popped.applyRegister (a.taken next) distinct gathers
    | unregister p => exact popped.applyUnregister gathers.1 gathers.2
    | flush ticket => exact ⟨popped.serving, popped.same, popped.isOpen, popped.waiting, popped.others⟩
    | shutdown => exact gathers.elim
  -- nobody calls for a shutdown in the meantime, so the loop serves
  | drains other | discarded other | stopped other => simp [g.serving] at other

theorem listed (g : Gathering base hs hub) (a : Accounted owed hub) (before : Accounted owed' base)
    (held : ∀ h ∈ hs, hub.Held h) (m : Member) : m ∈ hub.registry.members ↔
      (∃ h ∈ hs, base.member? h = some m) ∨
        m ∈ base.registry.members ∧ some (m.user, m.id) ∉ hs.map base.key? := by
  have inside : ∀ h ∈ hs, ∀ m, base.member? h = some m → hub.registry.client? m.user m.id = some m :=
    fun h listed m known => a.ownKey ((g.same h).trans known) (held h listed)
  rw [a.memMembers, before.memMembers]
  constructor
  · intro found
    by_cases taken : some (m.user, m.id) ∈ hs.map base.key?
    · obtain ⟨h, member, own⟩ := List.mem_map.mp taken
      obtain ⟨x, known, user, id⟩ := keyIff.mp own
      have there := inside h member x known
      rw [user, id] at there
      cases found.symm.trans there
      exact .inl ⟨h, member, known⟩
    · exact .inr ⟨(g.others m.user m.id taken).symm.trans found, taken⟩
  · rintro (⟨h, member, known⟩ | ⟨found, free⟩)
    · exact inside h member m known
    · exact (g.others _ _ free).trans found

theorem gathered (g : Gathering base hs hub) (a : Accounted owed hub) (before : Accounted owed' base)
    (distinct : (hs.map base.key?).Nodup) (held : ∀ h ∈ hs, hub.Held h) : hub.registry.members.Perm
      (hs.filterMap base.member? ++
        base.registry.members.filter fun m => some (m.user, m.id) ∉ hs.map base.key?) := by
  have newcomers := knownNodup base (List.Nodup.of_map base.key? distinct)
  have others : (base.registry.members.filter fun m => some (m.user, m.id) ∉ hs.map base.key?).Nodup :=
    (List.Nodup.of_map _ before.filed.handlesNodup).filter _
  have apart : (hs.filterMap base.member?).Disjoint
      (base.registry.members.filter fun m => some (m.user, m.id) ∉ hs.map base.key?) := by
    intro m left right
    obtain ⟨h, listed, known⟩ := List.mem_filterMap.mp left
    refine of_decide_eq_true (List.mem_filter.mp right).2 ?_
    exact List.mem_map.mpr ⟨h, listed, keyOf known⟩
  refine (List.perm_ext_iff_of_nodup (List.Nodup.of_map _ a.filed.handlesNodup)
    (List.nodup_append'.mpr ⟨newcomers, others, apart⟩)).mpr fun m => ?_
  simp only [List.mem_append, List.mem_filterMap, List.mem_filter, decide_eq_true_eq]
  exact g.listed a before held m

end Gathering
end RelayHub.Hub
