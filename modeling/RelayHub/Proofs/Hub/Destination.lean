import RelayHub.Proofs.Hub.Audience

/-! The places one message can be sent to, and one law for all of them. Neither the order in which an index is
gone through nor meeting a client twice makes a difference. -/
namespace RelayHub

def Table.Like {α : Type} (like : α → α → Prop) (t t' : Table α) : Prop :=
  ∀ k, Option.Rel like (t.get? k) (t'.get? k)

namespace Table.Like
variable {α : Type} {like : α → α → Prop} {t t' : Table α}

theorem refl (reflexive : ∀ x, like x x) (t : Table α) : t.Like like t := by
  intro k
  cases t.get? k with
  | none => exact .none
  | some x => exact .some (reflexive x)

theorem get (same : t.Like Eq t') (k : String) : t'.get? k = t.get? k := by
  have here := same k
  generalize t.get? k = before, t'.get? k = after at here
  cases here with
  | none => rfl
  | some equal => rw [equal]

theorem ofEmpty (same : Table.empty.Like like t) : t = .empty := by
  obtain ⟨entries, distinct⟩ := t
  cases entries with
  | nil => rfl
  | cons first rest =>
    have here := same first.1
    have there : (⟨first :: rest, distinct⟩ : Table α).get? first.1 = some first.2 := List.lookup_cons_self
    rw [there] at here
    cases here

end Table.Like

structure Registry.Reordered (r r' : Registry) : Prop where
  users : r.users.Like (Table.Like Eq) r'.users
  groups : r.groups.Like (Table.Like (Table.Like Eq)) r'.groups

theorem Users.atLike {us us' : Users} (same : us.Like (Table.Like Eq) us') (u i : String) :
    us'.at? u i = us.at? u i := by
  unfold at?
  have here := same u
  generalize us.get? u = before, us'.get? u = after at here
  cases here with
  | none => rfl
  | some bucket => exact bucket.get i

namespace Registry.Reordered
variable {r r' : Registry}

theorem refl (r : Registry) : r.Reordered r where
  users := .refl (.refl fun _ => rfl) _
  groups := .refl (.refl (.refl fun _ => rfl)) _

section View
variable (same : r.Reordered r')
include same

theorem client (u i : String) : r'.client? u i = r.client? u i := Users.atLike same.users u i

theorem groupMember (g u i : String) : r'.groupMember? g u i = r.groupMember? g u i := by
  unfold groupMember?
  have here := same.groups g
  generalize r.groups.get? g = before, r'.groups.get? g = after at here
  cases here with
  | none => rfl
  | some users => exact Users.atLike users u i

theorem holds (u i : String) (m : Member) : r'.Holds u i m ↔ r.Holds u i m := by
  unfold Holds
  simp only [same.client, same.groupMember]

end View

theorem ofEmpty (same : Reordered {} r) : r = {} := by
  obtain ⟨users, groups⟩ := r
  cases Table.Like.ofEmpty same.users
  cases Table.Like.ofEmpty same.groups
  rfl

end Registry.Reordered

inductive Destination where
  | user (user : String)
  | group (group : String)
  | groupExcept (group user : String)
  | tenant (tenant : String)
  | everyone
  deriving DecidableEq, Repr

namespace Destination

def send (d : Destination) (hub : Hub) (m : Bytes) : Nat × Hub :=
  match d with
  | .user u => hub.sendToUser u m
  | .group g => hub.sendToGroup g m
  | .groupExcept g u => hub.sendToGroupExcept g u m
  | .tenant t => hub.sendToTenant t m
  | .everyone => hub.broadcast m

def sendDocument (d : Destination) (hub : Hub) (document : Json.Document) : Except HubError Nat × Hub :=
  hub.sendDocument document d.send

def Covers (r : Registry) : Destination → Handle → Prop
  | .user u, k => ∃ i x, r.client? u i = some x ∧ x.handle = k
  | .group g, k => ∃ u i x, r.groupMember? g u i = some x ∧ x.handle = k
  | .groupExcept g other, k => ∃ u i x, r.groupMember? g u i = some x ∧ u ≠ other ∧ x.handle = k
  | .tenant t, k => ∃ u i x, r.client? u i = some x ∧ x.tenant = t ∧ x.handle = k
  | .everyone, k => ∃ u i x, r.client? u i = some x ∧ x.handle = k

theorem coversReordered {r r' : Registry} (same : r.Reordered r') (d : Destination) (k : Handle) :
    d.Covers r' k ↔ d.Covers r k := by
  cases d with
  | user | tenant | everyone => simp only [Covers, same.client]
  | group | groupExcept => simp only [Covers, same.groupMember]

end Destination

namespace Hub

def offerUnseen (hub : Hub) (m : Bytes) (seen : List Handle) : List Handle → Nat × Hub
  | [] => (0, hub)
  | h :: rest =>
    if h ∈ seen then hub.offerUnseen m seen rest
    else
      let (took, hub) := hub.send h m
      let (count, hub) := hub.offerUnseen m (h :: seen) rest
      ((if took then 1 else 0) + count, hub)

theorem offerUnseenIsOnce (hub : Hub) (m : Bytes) (seen hs : List Handle) :
    hub.offerUnseen m seen hs = hub.offerAll m (hs.filter fun k => k ∉ seen).eraseDups := by
  induction hs generalizing hub seen with
  | nil => rfl
  | cons h rest ih =>
    by_cases met : h ∈ seen
    · rw [offerUnseen, if_pos met, ih, List.filter_cons_of_neg (by simpa using met)]
    · -- whoever is met later on is neither this client nor one of those before
      have others : (rest.filter fun k => k ∉ seen).filter (fun k => !k == h) =
          rest.filter fun k => k ∉ h :: seen := by
        rw [List.filter_filter]
        exact List.filter_congr fun k _ => by simp [Bool.beq_eq_decide_eq]
      rw [List.filter_cons_of_pos (by simpa using met), List.eraseDups_cons, others]
      simp only [offerUnseen, if_neg met, ih]
      rfl

theorem Accounted.reordered {owed : List Handle} {hub : Hub} (a : Accounted owed hub) {r : Registry}
    (same : hub.registry.Reordered r) : Accounted owed { hub with registry := r } where
  owned := a.owned
  ended stops := by
    have vacant := a.ended stops
    rw [vacant] at same
    exact same.ofEmpty
  known u i m held := a.known u i m ((same.holds u i m).mp held)
  told u i m held shut := a.told u i m ((same.holds u i m).mp held) shut
  shared g u i m held isOpen :=
    (same.client u i).trans (a.shared g u i m ((same.groupMember g u i).symm.trans held) isOpen)

theorem Fanned.listed {m : Bytes} {audience : Handle → Prop} {hub : Hub} {takers takers' : List Handle}
    {result : Nat × Hub} (fanned : Fanned m audience hub takers result) (nodup : takers'.Nodup)
    (same : ∀ k, k ∈ takers' ↔ k ∈ takers) : Fanned m audience hub takers' result where
  nodup := nodup
  members k := (same k).trans (fanned.members k)
  count := fanned.count.trans ((List.perm_ext_iff_of_nodup fanned.nodup nodup).mpr fun k => (same k).symm).length_eq
  spread := ⟨fanned.spread.outline, fun k => by simp only [fanned.spread.client, same]⟩

section Reach
variable {owed : List Handle} {hub : Hub} (a : Accounted owed hub) (truthful : hub.Truthful) (m : Bytes)

include truthful in
theorem offerUnseenFanned (order : List Handle) :
    Fanned m (· ∈ order) hub (order.eraseDups.filter hub.ready) (hub.offerUnseen m [] order) := by
  have all : (order.filter fun k => k ∉ ([] : List Handle)) = order := List.filter_eq_self.mpr (by simp)
  rw [offerUnseenIsOnce, all]
  exact (offerAllFanned truthful m (eraseDupsNodup order)).same fun k => List.mem_eraseDups.symm

include a truthful

theorem destinationFanned (d : Destination) : ∃ takers, Fanned m (d.Covers hub.registry) hub takers (d.send hub m) := by
  cases d with
  | user user => exact a.toUser truthful m user
  | group group =>
    obtain ⟨takers, fanned⟩ := truthful.toGroup m group none
    exact ⟨takers, fanned.same fun k => by simp [Destination.Covers, Grouped]⟩
  | groupExcept group user =>
    obtain ⟨takers, fanned⟩ := truthful.toGroup m group (some user)
    exact ⟨takers, fanned.same fun k => by simp [Destination.Covers, Grouped]⟩
  | tenant tenant => exact truthful.toTenant m tenant
  | everyone => exact a.toAll truthful m

theorem destinationReached (d : Destination) : ∃ takers,
    (∀ r, hub.registry.Reordered r → Fanned m (d.Covers hub.registry) { hub with registry := r } takers
      (d.send { hub with registry := r } m)) ∧
    ∀ order, (∀ k, k ∈ order ↔ d.Covers hub.registry k) →
      Fanned m (d.Covers hub.registry) hub takers (hub.offerUnseen m [] order) := by
  obtain ⟨takers, fanned⟩ := destinationFanned a truthful m d
  refine ⟨takers, fun r same => ?_, fun order covers => ?_⟩
  · obtain ⟨others, moved⟩ := destinationFanned (a.reordered same) truthful m d
    have moved := moved.same fun k => (Destination.coversReordered same d k).symm
    exact moved.listed fanned.nodup fun k => (fanned.members k).trans (moved.members k).symm
  · have visited := (offerUnseenFanned truthful m order).same fun k => (covers k).symm
    exact visited.listed fanned.nodup fun k => (fanned.members k).trans (visited.members k).symm

end Reach

end Hub
end RelayHub
