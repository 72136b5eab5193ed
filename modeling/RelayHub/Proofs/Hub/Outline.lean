import RelayHub.Hub.Relay
import RelayHub.Hub.Loop
import RelayHub.Proofs.Client.Parts

/-! A hub without its log and without the queues of its clients. Sending and starting leave this outline
alone; closing a client, the event loop and the calls on the indexes are described by what they change
in it. -/
namespace RelayHub

theorem mapModify {α β : Type} {l : List α} {i : Nat} {f : α → α} {g : α → β} {t : β → β}
    (same : ∀ x, l[i]? = some x → g (f x) = t (g x)) : (l.modify i f).map g = (l.map g).modify i t := by
  induction l generalizing i with
  | nil => simp
  | cons y rest ih =>
    cases i with
    | zero => simp [same y rfl]
    | succ i => simpa using ih same

theorem modifySame {α : Type} {l : List α} {i : Nat} {f : α → α} (same : ∀ x, l[i]? = some x → f x = x) :
    l.modify i f = l := by
  simpa using mapModify (g := id) (t := id) same

structure Face where
  user : String
  id : String
  tenant : String
  isOpen : Bool
  deriving DecidableEq, Repr

namespace Client

def face (c : Client) : Face := ⟨c.user, c.id, c.tenant, c.isOpen⟩

theorem beginCloseFace (c : Client) : c.beginClose.face = { c.face with isOpen := false } := by
  unfold beginClose
  split
  · cases started : c.started <;> simp [face, isOpen]
  · rename_i shut
    simp [face, isOpen, shut]

theorem beginCloseOfShut {c : Client} (h : c.isOpen = false) : c.beginClose = c := by
  have shut : ¬ c.state = .open := by simpa [isOpen] using h
  simp [beginClose, shut]

end Client

structure Outline where
  config : HubConfig
  faces : List Face
  registry : Registry
  events : List Event
  loop : LoopState
  flushes : List FlushState
  runs : List RunState
  owned : Bool

namespace Hub

def outline (hub : Hub) : Outline :=
  ⟨hub.config, hub.clients.map Client.face, hub.registry, hub.events, hub.loop, hub.flushes, hub.runs,
    hub.owned⟩

def member? (hub : Hub) (h : Handle) : Option Member := (hub.client? h).map (·.member h)

theorem isOpenFace (hub : Hub) (h : Handle) :
    hub.isOpen h = (hub.outline.faces[h]?).any (·.isOpen) := by
  simp [isOpen, client?, outline, List.getElem?_map, Option.any_map]
  rfl

theorem memberFace (hub : Hub) (h : Handle) :
    hub.member? h = (hub.outline.faces[h]?).map fun f => ⟨h, f.user, f.id, f.tenant⟩ := by
  simp [member?, client?, outline, List.getElem?_map]
  rfl

section Same
variable {hub hub' : Hub} (same : hub'.outline = hub.outline)
include same

theorem sameRegistry : hub'.registry = hub.registry := congrArg Outline.registry same
theorem sameEvents : hub'.events = hub.events := congrArg Outline.events same
theorem sameLoop : hub'.loop = hub.loop := congrArg Outline.loop same
theorem sameFlushes : hub'.flushes = hub.flushes := congrArg Outline.flushes same
theorem sameRuns : hub'.runs = hub.runs := congrArg Outline.runs same
theorem sameOwned : hub'.owned = hub.owned := congrArg Outline.owned same

theorem sameOpen (h : Handle) : hub'.isOpen h = hub.isOpen h := by
  rw [isOpenFace, isOpenFace, same]

theorem sameMember (h : Handle) : hub'.member? h = hub.member? h := by
  rw [memberFace, memberFace, same]

end Same

theorem clientUpdate (hub : Hub) (h k : Handle) (f : Client → Client) :
    (hub.update h f).client? k = if k = h then (hub.client? k).map f else hub.client? k := by
  simp only [update, client?, List.getElem?_modify]
  by_cases e : h = k
  · simp [e]
  · have e' : ¬ k = h := fun x => e x.symm
    simp [e, e']

theorem outlineUpdate {hub : Hub} {h : Handle} {f : Client → Client}
    (kept : ∀ c, hub.client? h = some c → (f c).face = c.face) :
    (hub.update h f).outline = hub.outline := by
  have faces : (hub.clients.modify h f).map Client.face = (hub.clients.map Client.face).modify h id :=
    mapModify kept
  simp [outline, update, faces]

theorem outlineNote (hub : Hub) (h : Handle) (entry : Client → Log.Entry) :
    (hub.note h entry).outline = hub.outline := by
  unfold note
  split <;> rfl

theorem offerFace (c : Client) (capacity : Nat) (m : Bytes) : (c.offer capacity m).2.face = c.face := by
  obtain ⟨queue, accepted, offered⟩ := c.offerKeeps capacity m
  rw [offered]
  rfl

theorem outlineSend (hub : Hub) (h : Handle) (m : Bytes) : (hub.send h m).2.outline = hub.outline := by
  unfold send
  split
  · rfl
  · rename_i c found
    have kept := offerFace c hub.config.sendBufferSize m
    split
    · rename_i c' shape
      refine outlineUpdate fun k held => ?_
      rw [shape] at kept
      rw [found] at held
      cases held
      exact kept
    · rfl
    · rfl

end Hub
end RelayHub
