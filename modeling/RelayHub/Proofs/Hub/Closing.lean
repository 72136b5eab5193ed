import RelayHub.Proofs.Hub.Outline

/-! A close call, in its two steps and as a whole: it shuts one client and, if the client was open and
the hub can be told, puts one notice behind the events that wait. Nothing else in the outline moves. -/
namespace RelayHub

def Face.shut (f : Face) : Face := { f with isOpen := false }

namespace Hub
variable (hub : Hub) (h k : Handle)

def notice : List Event := if hub.reachable && hub.accepting then [.unregister h] else []

theorem beginCloseOutline : (hub.beginClose h).2.outline =
    { hub.outline with faces := hub.outline.faces.modify h Face.shut } := by
  have faces : (hub.clients.modify h Client.beginClose).map Client.face =
      (hub.clients.map Client.face).modify h Face.shut := mapModify fun c _ => Client.beginCloseFace c
  simp [beginClose, outline, update, faces]

theorem finishCloseOutline : (hub.finishClose h).outline =
    { hub.outline with events := hub.events ++ hub.notice h } := by
  have cancelled : (hub.update h Client.cancel).outline = hub.outline :=
    outlineUpdate fun c _ => rfl
  have told : ∀ hub' : Hub, hub'.outline = hub.outline →
      (if hub'.reachable && hub'.accepting then hub'.submit (.unregister h) else hub').outline =
        { hub.outline with events := hub.events ++ hub.notice h } := by
    intro hub' same
    have reachable : hub'.reachable = hub.reachable := by
      simp [Hub.reachable, sameOwned same, sameRuns same, sameFlushes same]
    have accepting : hub'.accepting = hub.accepting := by
      simp [Hub.accepting, sameLoop same]
    rw [reachable, accepting, notice]
    split
    · rw [← same]
      simp [submit, outline, sameEvents same]
    · rw [same]
      simp [outline]
  unfold finishClose
  exact (outlineNote _ h _).trans (told _ cancelled)

theorem closeOfOpen {hub : Hub} {h : Handle} (isOpen : hub.isOpen h = true) :
    hub.close h = (hub.beginClose h).2.finishClose h := by
  simp [close, beginClose, isOpen]

theorem updateOfSame {hub : Hub} {h : Handle} {f : Client → Client}
    (same : ∀ c, hub.client? h = some c → f c = c) : hub.update h f = hub := by
  have clients : hub.clients.modify h f = hub.clients := modifySame same
  simp [update, clients]

theorem closeOfShut {hub : Hub} {h : Handle} (shut : hub.isOpen h = false) : hub.close h = hub := by
  have same : hub.update h Client.beginClose = hub := by
    refine updateOfSame fun c found => Client.beginCloseOfShut ?_
    simpa [isOpen, found] using shut
  simp [close, beginClose, shut, same]

theorem noticeBegun : (hub.beginClose h).2.notice k = hub.notice k := rfl

def closing : List Event := if hub.isOpen h then hub.notice h else []

theorem shutOfShut (shut : hub.isOpen h = false) :
    hub.outline.faces.modify h Face.shut = hub.outline.faces := by
  refine modifySame fun f found => ?_
  have already : f.isOpen = false := by simpa [isOpenFace, found] using shut
  simp [Face.shut, ← already]

theorem closeOutline : (hub.close h).outline = { hub.outline with
    faces := hub.outline.faces.modify h Face.shut
    events := hub.events ++ hub.closing h } := by
  cases o : hub.isOpen h with
  | true =>
    rw [closeOfOpen o, finishCloseOutline, beginCloseOutline, noticeBegun]
    simp [closing, o, beginClose, update]
  | false =>
    rw [closeOfShut o, shutOfShut hub h o]
    simp [closing, o, outline]

theorem openShut {faces : List Face} (shut : hub.outline.faces.modify h Face.shut = faces) :
    (faces[k]?).any (·.isOpen) = (hub.isOpen k && k ≠ h) := by
  subst shut
  rw [isOpenFace]
  simp only [List.getElem?_modify]
  by_cases e : h = k
  · subst e
    cases hub.outline.faces[h]? <;> simp [Face.shut]
  · have e' : ¬ k = h := fun x => e x.symm
    simp [e, e']

theorem memberShut {faces : List Face} (shut : hub.outline.faces.modify h Face.shut = faces) :
    (faces[k]?).map (fun f => (⟨k, f.user, f.id, f.tenant⟩ : Member)) = hub.member? k := by
  subst shut
  rw [memberFace]
  simp only [List.getElem?_modify]
  by_cases e : h = k
  · subst e
    cases hub.outline.faces[h]? <;> simp [Face.shut]
  · simp [e]

theorem closeOpen : (hub.close h).isOpen k = (hub.isOpen k && k ≠ h) := by
  rw [isOpenFace (hub.close h), closeOutline]
  exact openShut hub h k rfl

theorem closeMember : (hub.close h).member? k = hub.member? k := by
  rw [memberFace (hub.close h), closeOutline]
  exact memberShut hub h k rfl

theorem beginCloseOpen : (hub.beginClose h).2.isOpen k = (hub.isOpen k && k ≠ h) := by
  rw [isOpenFace (hub.beginClose h).2, beginCloseOutline]
  exact openShut hub h k rfl

theorem beginCloseMember : (hub.beginClose h).2.member? k = hub.member? k := by
  rw [memberFace (hub.beginClose h).2, beginCloseOutline]
  exact memberShut hub h k rfl

theorem finishCloseOpen : (hub.finishClose h).isOpen k = hub.isOpen k := by
  rw [isOpenFace (hub.finishClose h), finishCloseOutline, ← isOpenFace]

theorem finishCloseMember : (hub.finishClose h).member? k = hub.member? k := by
  rw [memberFace (hub.finishClose h), finishCloseOutline, ← memberFace]

theorem closeEvents : (hub.close h).events = hub.events ++ hub.closing h :=
  congrArg Outline.events (closeOutline hub h)

theorem closeRegistry : (hub.close h).registry = hub.registry :=
  congrArg Outline.registry (closeOutline hub h)

theorem closeLoop : (hub.close h).loop = hub.loop := congrArg Outline.loop (closeOutline hub h)

theorem closeOwned : (hub.close h).owned = hub.owned := congrArg Outline.owned (closeOutline hub h)

end Hub
end RelayHub
