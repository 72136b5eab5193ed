import RelayHub.Hub.Lifecycle

/-! The event loop. `step?` is one step of it: a run call begins, an event is applied, or the loop
stops. Events are taken in the order in which they were submitted, each once. -/
namespace RelayHub.Hub

def applyRegister (hub : Hub) (h : Handle) : Hub :=
  match hub.client? h with
  | none => hub
  | some c =>
    if !c.isOpen then
      hub.write ⟨.debug, .hub, "Skipping registration of closed client",
        [("component", component), ("client_id", .plain c.id)]⟩
    else
      let (previous, registry) := hub.registry.insert (c.member h)
      let hub := { hub with registry }
      let hub := match previous with
        | none => hub
        | some p =>
          if p.handle = h then hub
          else
            let hub := hub.write ⟨.warn, .hub, "Client id reused, closing previous connection",
              ("component", component) :: idFields c⟩
            hub.close p.handle
      hub.write ⟨.info, .hub, "Client registered", ("component", component) :: memberFields c⟩

def applyUnregister (hub : Hub) (h : Handle) : Hub :=
  match hub.client? h with
  | none => hub
  | some c =>
    let (removed, registry) := hub.registry.remove (c.member h)
    let hub := Hub.close { hub with registry } h
    if removed then
      hub.write ⟨.info, .hub, "Client unregistered", ("component", component) :: memberFields c⟩
    else hub

def applyShutdown (hub : Hub) : Hub :=
  let (members, registry) := hub.registry.clear
  let hub := closeAll { hub with registry } (members.map (·.handle))
  { hub with loop := .stopping }.write ⟨.info, .hub, "Hub shut down, all clients closed",
    [("component", component), ("count", .count members.length)]⟩

def apply (hub : Hub) : Event → Hub
  | .register h => hub.applyRegister h
  | .unregister h => hub.applyUnregister h
  | .flush ticket => hub.settleFlush ticket .done
  | .shutdown => hub.applyShutdown

/-- An event behind the shutdown: its client is closed, its flush is refused. A removal is
forgotten. -/
def discard (hub : Hub) : Event → Hub
  | .register h => hub.close h
  | .flush ticket => hub.settleFlush ticket .closed
  | .unregister _ | .shutdown => hub

def waitingRun? (hub : Hub) : Option Nat :=
  hub.runs.findIdx? fun
    | .waiting => true
    | _ => false

def beginRun? (hub : Hub) : Option Hub := do
  let i ← hub.waitingRun?
  if hub.loop = .idle then
    some ({ hub with loop := .serving, runs := hub.runs.set i .active }.write
      ⟨.info, .hub, "Hub event loop started", [("component", component)]⟩)
  else some { hub with runs := hub.runs.set i (.returned (.error .alreadyRunning)) }

def returnActive : RunState → RunState
  | .active => .returned (.ok ())
  | r => r

def loopStep? (hub : Hub) : Option Hub :=
  match hub.loop with
  | .idle | .stopped => none
  | .serving =>
    match hub.events with
    | [] => none
    | e :: rest => some ({ hub with events := rest }.apply e)
  | .stopping => some { hub with loop := .draining }
  | .draining =>
    match hub.events with
    | e :: rest => some ({ hub with events := rest }.discard e)
    | [] => some ({ hub with loop := .stopped, runs := hub.runs.map returnActive }.write
      ⟨.info, .hub, "Hub event loop stopped", [("component", component)]⟩)

def runResult? (hub : Hub) (call : Nat) : Option (Except HubError Unit) :=
  match hub.runs[call]? with
  | some (.returned result) => some result
  | _ => none

end RelayHub.Hub
