import RelayHub.Proofs.Hub.Closing

/-! What the calls on a hub are made of: log entries, single sends, close calls, notices and changes of
the indexes. Building, registering, flushing, the shutdown call and the event loop stay outside. -/
namespace RelayHub.Hub

/- The list has the clients whose removal was asked for, close calls apart. -/
inductive Calls : List Handle → Hub → Hub → Prop where
  | refl (hub : Hub) : Calls [] hub hub
  | log (hub : Hub) (e : Log.Entry) : Calls [] hub (hub.write e)
  | send (hub : Hub) (h : Handle) (m : Bytes) : Calls [] hub (hub.send h m).2
  | close (hub : Hub) (h : Handle) : Calls [] hub (hub.close h)
  | notice (hub : Hub) (h : Handle) (accepting : hub.accepting = true) :
      Calls [h] hub (hub.submit (.unregister h))
  | join (hub : Hub) (group : String) (m : Member) (known : hub.member? m.handle = some m)
      (isOpen : hub.isOpen m.handle = true) (held : hub.registry.contains m = true) :
      Calls [] hub { hub with registry := hub.registry.join group m }
  | leave (hub : Hub) (group : String) (m : Member) (known : hub.member? m.handle = some m) :
      Calls [] hub { hub with registry := (hub.registry.leave group m).2 }
  | disconnect (hub : Hub) (user : String) : Calls [] hub (hub.disconnectUser user).2
  | trans {asked : List Handle} {a b c : Hub} (first : Calls asked a b) (second : Calls [] b c) : Calls asked a c

namespace Calls

theorem thenLog {a b : Hub} (calls : Calls [] a b) (e : Log.Entry) : Calls [] a (b.write e) :=
  calls.trans (.log b e)

theorem note (hub : Hub) (h : Handle) (entry : Client → Log.Entry) : Calls [] hub (hub.note h entry) := by
  unfold Hub.note
  split
  · exact .log hub _
  · exact .refl hub

theorem unregister (hub : Hub) (h : Handle) :
    Calls (if hub.accepting then [h] else []) hub (hub.unregister h) := by
  unfold Hub.unregister
  split
  · exact .notice hub h (by assumption)
  · exact .close hub h

theorem joinGroup (hub : Hub) (group : String) (h : Handle) : Calls [] hub (hub.joinGroup group h).2 := by
  unfold Hub.joinGroup
  split
  · exact .refl hub
  · rename_i c found
    split
    · exact .log hub _
    · rename_i admitted
      simp only [Bool.or_eq_true, Bool.not_eq_true', not_or, Bool.not_eq_false] at admitted
      have isOpen : hub.isOpen h = true := by simpa [Hub.isOpen, found] using admitted.1
      have known : hub.member? h = some (c.member h) := by simp [member?, found]
      exact (Calls.join hub group (c.member h) known isOpen admitted.2).thenLog _

theorem leaveGroup (hub : Hub) (group : String) (h : Handle) : Calls [] hub (hub.leaveGroup group h).2 := by
  unfold Hub.leaveGroup
  split
  · exact .refl hub
  · rename_i c found
    have known : hub.member? h = some (c.member h) := by simp [member?, found]
    exact (Calls.leave hub group (c.member h) known).thenLog _

theorem offerAll (hub : Hub) (m : Bytes) (hs : List Handle) : Calls [] hub (hub.offerAll m hs).2 := by
  induction hs generalizing hub with
  | nil => exact .refl hub
  | cons h rest ih => exact (Calls.send hub h m).trans (ih _)

theorem sendToUser (hub : Hub) (user : String) (m : Bytes) : Calls [] hub (hub.sendToUser user m).2 := by
  unfold Hub.sendToUser
  split
  · exact .log hub _
  · exact (offerAll hub m _).thenLog _

theorem sendToGroupFrom (hub : Hub) (group : String) (excluded : Option String) (m : Bytes) :
    Calls [] hub (hub.sendToGroupFrom group excluded m).2 := by
  unfold Hub.sendToGroupFrom
  split
  · exact .refl hub
  · exact (offerAll hub m _).thenLog _

theorem sendToTenant (hub : Hub) (tenant : String) (m : Bytes) :
    Calls [] hub (hub.sendToTenant tenant m).2 := (offerAll hub m _).thenLog _

theorem broadcast (hub : Hub) (m : Bytes) : Calls [] hub (hub.broadcast m).2 := offerAll hub m _

theorem applyMessage (hub : Hub) (h : Handle) (c : Client) (m : ClientMessage) :
    Calls [] hub (hub.applyMessage h c m).2 := by
  cases m with
  | join group =>
    have joined := joinGroup hub group h
    simp only [Hub.applyMessage]
    split
    · rename_i shape
      rwa [shape] at joined
    · rename_i shape
      rwa [shape] at joined
  | leave group => exact leaveGroup hub group h
  | group group payload echo =>
    simp only [Hub.applyMessage]
    split
    · exact .refl hub
    · cases echo with
      | true => exact sendToGroupFrom hub group none _
      | false => exact sendToGroupFrom hub group (some c.user) _
  | direct user payload => exact sendToUser hub user _
  | tenant payload => exact sendToTenant hub c.tenant _
  | broadcast payload => exact broadcast hub _

theorem answer (hub : Hub) (h : Handle) (c : Client) (raw : Bytes) :
    Calls [] hub (hub.answer h c raw).2 := by
  unfold Hub.answer
  split
  · exact applyMessage hub h c _
  · exact .log hub _

theorem relay (hub : Hub) (h : Handle) (raw : Bytes) : Calls [] hub (hub.relay h raw) := by
  unfold Hub.relay
  split
  · exact .refl hub
  · rename_i c _
    exact (answer hub h c raw).trans (.send _ h _)

end Calls
end RelayHub.Hub
