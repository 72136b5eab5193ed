import RelayHub.Hub.FanOut
import RelayHub.Hub.Groups
import RelayHub.Message.Client
import RelayHub.Message.Server

/-! What the hub does with a message of one of its clients. Every frame gets exactly one reply,
offered to the sender after all deliveries. -/
namespace RelayHub

def ServerMessage.document (m : ServerMessage) : Json.Document :=
  match m.toJson with
  | .object fields => .map (fields.map fun f => (.text f.1, f.2))
  | v => .value v

namespace Hub

def applyMessage (hub : Hub) (h : Handle) (c : Client) : ClientMessage → ServerMessage × Hub
  | .join group =>
    match hub.joinGroup group h with
    | (true, hub) => (.joined group, hub)
    | (false, hub) => (.error ("cannot join group " ++ group), hub)
  | .leave group => (.left group, (hub.leaveGroup group h).2)
  | .group group payload echo =>
    if !hub.isGroupMember group h then (.error ("not a member of group " ++ group), hub)
    else
      let target := "group:" ++ group
      let m := (ServerMessage.delivery c.user target payload).encode
      let (count, hub) :=
        if echo then hub.sendToGroup group m else hub.sendToGroupExcept group c.user m
      (.receipt target count, hub)
  | .direct user payload =>
    let target := "user:" ++ user
    let (count, hub) := hub.sendToUser user (ServerMessage.delivery c.user target payload).encode
    (.receipt target count, hub)
  | .tenant payload =>
    let target := "tenant:" ++ c.tenant
    let (count, hub) :=
      hub.sendToTenant c.tenant (ServerMessage.delivery c.user target payload).encode
    (.receipt target count, hub)
  | .broadcast payload =>
    let (count, hub) := hub.broadcast (ServerMessage.delivery c.user "all" payload).encode
    (.receipt "all" count, hub)

def answer (hub : Hub) (h : Handle) (c : Client) (raw : Bytes) : ServerMessage × Hub :=
  match ClientMessage.read raw with
  | .ok m => hub.applyMessage h c m
  | .error refusal =>
    let text := refusal.message raw
    (.error ("invalid message: " ++ text), hub.write ⟨.debug, .relay, "Invalid client message",
      [("client_id", .plain c.id), ("error", .plain text)]⟩)

def relay (hub : Hub) (h : Handle) (raw : Bytes) : Hub :=
  match hub.client? h with
  | none => hub
  | some c =>
    let (reply, hub) := hub.answer h c raw
    (hub.send h reply.encode).2

def tryDelivery (hub : Hub) (c : Client) (target : String) (payload : Json)
    (send : Hub → Bytes → Nat × Hub) : Except HubError ServerMessage × Hub :=
  match hub.sendDocument (ServerMessage.delivery c.user target payload).document send with
  | (.ok count, hub) => (.ok (.receipt target count), hub)
  | (.error e, hub) => (.error e, hub)

def tryMessage (hub : Hub) (h : Handle) (c : Client) : ClientMessage → Except HubError ServerMessage × Hub
  | .join group =>
    match hub.joinGroup group h with
    | (true, hub) => (.ok (.joined group), hub)
    | (false, hub) => (.ok (.error ("cannot join group " ++ group)), hub)
  | .leave group => (.ok (.left group), (hub.leaveGroup group h).2)
  | .group group payload echo =>
    if !hub.isGroupMember group h then (.ok (.error ("not a member of group " ++ group)), hub)
    else hub.tryDelivery c ("group:" ++ group) payload fun hub m =>
      if echo then hub.sendToGroup group m else hub.sendToGroupExcept group c.user m
  | .direct user payload => hub.tryDelivery c ("user:" ++ user) payload fun hub m => hub.sendToUser user m
  | .tenant payload =>
    hub.tryDelivery c ("tenant:" ++ c.tenant) payload fun hub m => hub.sendToTenant c.tenant m
  | .broadcast payload => hub.tryDelivery c "all" payload fun hub m => hub.broadcast m

def tryAnswer (hub : Hub) (h : Handle) (c : Client) (raw : Bytes) : Except HubError ServerMessage × Hub :=
  match ClientMessage.read raw with
  | .ok m => hub.tryMessage h c m
  | .error _ =>
    let (reply, hub) := hub.answer h c raw
    (.ok reply, hub)

/- The call as it returns: it fails at the first message that has no text, with what was done so far. -/
def handleMessage (hub : Hub) (h : Handle) (raw : Bytes) : Except HubError Unit × Hub :=
  match hub.client? h with
  | none => (.ok (), hub)
  | some c =>
    match hub.tryAnswer h c raw with
    | (.error e, hub) => (.error e, hub)
    | (.ok reply, hub) =>
      match hub.sendDocument reply.document fun hub m => hub.send h m with
      | (.ok _, hub) => (.ok (), hub)
      | (.error e, hub) => (.error e, hub)

end Hub
end RelayHub
