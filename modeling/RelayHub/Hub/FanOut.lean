import RelayHub.Hub.Lifecycle
import RelayHub.Json.Document

/-! Sending one message to many clients. A message is offered to each queue and never waits; the
count says how many queues took it. -/
namespace RelayHub.Hub

def send (hub : Hub) (h : Handle) (m : Bytes) : Bool × Hub :=
  match hub.client? h with
  | none => (false, hub)
  | some c =>
    match c.offer hub.config.sendBufferSize m with
    | (.accepted, c) => (true, hub.update h fun _ => c)
    | (.closed, _) => (false, hub)
    | (.full, _) => (false, hub.write ⟨.warn, .client, "Client send buffer full, dropping message",
        ("component", clientComponent) :: memberFields c⟩)

def offerAll (hub : Hub) (m : Bytes) : List Handle → Nat × Hub
  | [] => (0, hub)
  | h :: rest =>
    let (took, hub) := hub.send h m
    let (count, hub) := hub.offerAll m rest
    ((if took then 1 else 0) + count, hub)

def offerOnce (hub : Hub) (m : Bytes) (ms : List Member) : Nat × Hub :=
  hub.offerAll m (ms.map (·.handle)).eraseDups

def sent (hub : Hub) (message name target : String) (count : Nat) : Hub :=
  hub.write ⟨.debug, .fanOut, message,
    [("component", component), (name, .plain target), ("client_count", .count count)]⟩

def sendToUser (hub : Hub) (user : String) (m : Bytes) : Nat × Hub :=
  match hub.registry.userMembers user with
  | [] => (0, hub.write ⟨.debug, .fanOut, "No clients found for user",
      [("component", component), ("user_id", .plain user)]⟩)
  | members =>
    let (count, hub) := hub.offerAll m (members.map (·.handle))
    (count, hub.sent "Message sent to user" "user_id" user count)

def sendToGroupFrom (hub : Hub) (group : String) (excluded : Option String) (m : Bytes) :
    Nat × Hub :=
  match hub.registry.groups.get? group with
  | none => (0, hub)
  | some users =>
    let kept := users.entries.filter fun e => some e.1 ≠ excluded
    let (count, hub) := hub.offerOnce m (kept.flatMap fun e => e.2.values)
    (count, hub.sent "Message sent to group" "group_id" group count)

def sendToGroup (hub : Hub) (group : String) (m : Bytes) : Nat × Hub :=
  hub.sendToGroupFrom group none m

def sendToGroupExcept (hub : Hub) (group user : String) (m : Bytes) : Nat × Hub :=
  hub.sendToGroupFrom group (some user) m

def sendToTenant (hub : Hub) (tenant : String) (m : Bytes) : Nat × Hub :=
  let (count, hub) := hub.offerOnce m (hub.registry.members.filter (·.tenant = tenant))
  (count, hub.sent "Message sent to tenant" "tenant_id" tenant count)

def broadcast (hub : Hub) (m : Bytes) : Nat × Hub :=
  hub.offerAll m (hub.registry.members.map (·.handle))

def sendDocument {α : Type} (hub : Hub) (d : Json.Document) (send : Hub → Bytes → α × Hub) :
    Except HubError α × Hub :=
  match d.encode with
  | .ok m =>
    let (x, hub) := send hub m
    (.ok x, hub)
  | .error fault => (.error (.serialization fault.message), hub)

end RelayHub.Hub
