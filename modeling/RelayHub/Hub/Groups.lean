import RelayHub.Hub.Lifecycle

/-! Group membership, queries and the removal of a whole user. These act on the indexes at once,
beside the event loop. -/
namespace RelayHub.Hub

def joinGroup (hub : Hub) (group : String) (h : Handle) : Bool × Hub :=
  match hub.client? h with
  | none => (false, hub)
  | some c =>
    if !c.isOpen || !hub.registry.contains (c.member h) then
      (false, hub.write ⟨.debug, .hub, "Refusing group join of unregistered client",
        [("component", component), ("client_id", .plain c.id), ("group_id", .plain group)]⟩)
    else
      let hub := { hub with registry := hub.registry.join group (c.member h) }
      (true, hub.write ⟨.debug, .hub, "Client joined group",
        ("component", component) :: groupFields c group⟩)

def leaveGroup (hub : Hub) (group : String) (h : Handle) : Bool × Hub :=
  match hub.client? h with
  | none => (false, hub)
  | some c =>
    let (removed, registry) := hub.registry.leave group (c.member h)
    (removed, { hub with registry }.write ⟨.debug, .hub, "Client left group",
      ("component", component) :: groupFields c group⟩)

def isGroupMember (hub : Hub) (group : String) (h : Handle) : Bool :=
  (hub.client? h).any fun c => hub.registry.isMember group (c.member h)

def getClient (hub : Hub) (user id : String) : Option Handle :=
  (hub.registry.client? user id).map (·.handle)

def userClients (hub : Hub) (user : String) : List Handle :=
  (hub.registry.userMembers user).map (·.handle)

def groupClients (hub : Hub) (group : String) : List Handle :=
  (hub.registry.groupMembers group).map (·.handle)

def groupUsers (hub : Hub) (group : String) : List String := hub.registry.groupUsers group

def hasActiveConnection (hub : Hub) (user : String) : Bool :=
  !(hub.registry.userMembers user).isEmpty

def connectedUsers (hub : Hub) (tenant : Option String) : List String :=
  hub.registry.connectedUsers tenant

def disconnectUser (hub : Hub) (user : String) : Nat × Hub :=
  let (removed, registry) := hub.registry.removeUser user
  let members := removed.getD []
  let hub := closeAll { hub with registry } (members.map (·.handle))
  (members.length, hub.write ⟨.info, .hub, "Disconnected all clients for user",
    [("component", component), ("user_id", .plain user), ("count", .count members.length)]⟩)

end RelayHub.Hub
