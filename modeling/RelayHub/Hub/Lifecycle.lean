import RelayHub.Hub.State

/-! Opening and closing clients, and the calls that hand events to the loop. A close call has two
steps, so that other calls may come in between: the change of state, which only the first call makes,
and the notice to the hub. -/
namespace RelayHub.Hub

def beginClose (hub : Hub) (h : Handle) : Bool × Hub :=
  (hub.isOpen h, hub.update h Client.beginClose)

def finishClose (hub : Hub) (h : Handle) : Hub :=
  let hub := hub.update h Client.cancel
  let hub := if hub.reachable && hub.accepting then hub.submit (.unregister h) else hub
  hub.note h fun c =>
    ⟨.debug, .client, "Client closed", ("component", clientComponent) :: idFields c⟩

def close (hub : Hub) (h : Handle) : Hub :=
  match hub.beginClose h with
  | (true, hub) => hub.finishClose h
  | (false, hub) => hub

def closeAll (hub : Hub) (hs : List Handle) : Hub := hs.foldl close hub

def register (hub : Hub) (h : Handle) : Hub :=
  if hub.accepting then hub.submit (.register h)
  else
    let hub := hub.note h fun c =>
      ⟨.warn, .hub, "Hub is closed, rejecting client", ("component", component) :: idFields c⟩
    hub.close h

def unregister (hub : Hub) (h : Handle) : Hub :=
  if hub.accepting then hub.submit (.unregister h) else hub.close h

def flush (hub : Hub) : Nat × Hub :=
  let ticket := hub.flushes.length
  if hub.accepting then
    (ticket, { hub.submit (.flush ticket) with flushes := hub.flushes ++ [.pending] })
  else (ticket, { hub with flushes := hub.flushes ++ [.closed] })

def settleFlush (hub : Hub) (ticket : Nat) (s : FlushState) : Hub :=
  { hub with flushes := hub.flushes.set ticket s }

def flushResult? (hub : Hub) (ticket : Nat) : Option (Except HubError Unit) :=
  match hub.flushes[ticket]? with
  | some .done => some (.ok ())
  | some .closed => some (.error .hubClosed)
  | _ => none

def shutdown (hub : Hub) : Hub := if hub.accepting then hub.submit .shutdown else hub

def run (hub : Hub) : Hub := { hub with runs := hub.runs ++ [.waiting] }

end RelayHub.Hub
