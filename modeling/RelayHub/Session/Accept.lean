import RelayHub.Connect.Origin
import RelayHub.Connect.Query
import RelayHub.Session.State

/-! Accepting a connection. A request is judged by its origin and its query; then a client is built,
registered, started and greeted, in steps between which anything else may happen. -/
namespace RelayHub

structure UpgradeRequest where
  origin : Option String := none
  query : Option String := none
  peer : String
  deriving DecidableEq, Repr

inductive Verdict where
  | forbidden
  | anonymous
  | admitted (params : ConnectParams)
  deriving DecidableEq, Repr

/- The origin is checked before the query is looked at. -/
def UpgradeRequest.judge (r : UpgradeRequest) (policy : OriginPolicy) : Verdict :=
  if !policy.allows r.origin then .forbidden
  else
    match ConnectParams.ofQuery r.query with
    | none => .anonymous
    | some params => .admitted params

namespace Verdict

def forbiddenStatus : Nat := 403
def forbiddenBody : String := "origin not allowed"

def anonymousClose : Nat × String := (1008, "user_id is required")

def warning? (r : UpgradeRequest) : Verdict → Option Log.Entry
  | .forbidden => some ⟨.warn, .server, "Rejecting connection from disallowed origin",
      [("peer", .plain r.peer), ("origin", .plain (shown r.origin))]⟩
  | .anonymous => some ⟨.warn, .server, "Rejecting connection without user_id", [("peer", .plain r.peer)]⟩
  | .admitted _ => none
where
  shown : Option String → String
    | none => "None"
    | some o => "Some(" ++ Quoted.quote o ++ ")"

end Verdict

def ConnectParams.client (p : ConnectParams) (id peer : String) : Client where
  id
  user := p.user
  tenant := p.tenant
  token := p.token
  metadata := Table.empty.insert "peer_addr" (.string peer)
  onMessage := some .relay

inductive Acceptance where
  | building (params : ConnectParams) (id peer : String)
  | registering (client : Handle)
  | flushing (client : Handle)
  | waiting (client : Handle) (ticket : Nat)
  | taking (client : Handle)
  | marking (client : Handle)
  | attaching (client : Handle)
  | greeting (client : Handle)
  | done (client : Handle)
  | failed
  deriving DecidableEq, Repr

namespace Acceptance
open Session

def setupFailed (client : Client) (e : HubError) : Log.Entry :=
  ⟨.warn, .server, "Hub closed during connection setup",
    [("client_id", .plain client.id), ("error", .plain e.message)]⟩

def startFailed (client : Client) (e : HubError) : Log.Entry :=
  ⟨.error, .server, "Failed to start client",
    [("client_id", .plain client.id), ("error", .plain e.message)]⟩

def greet (s : Session) (h : Handle) : Session :=
  match s.hub.client? h with
  | none => s
  | some c => s.onHub fun hub => (hub.send h (ServerMessage.welcome c.id c.user).encode).2

def step? (s : Session) : Acceptance → Option (Acceptance × Session)
  | .building params id peer =>
    let (h, s) := s.build (params.client id peer)
    some (.registering h, s)
  | .registering h => some (.flushing h, s.onHub (·.register h))
  | .flushing h =>
    let (ticket, s) := s.call (·.flush)
    some (.waiting h ticket, s)
  | .waiting h ticket =>
    match s.hub.flushResult? ticket with
    | none => none
    | some (.ok _) => some (.taking h, s)
    | some (.error e) => some (.failed, s.onHub (·.note h fun c => setupFailed c e))
  | .taking h =>
    match s.takeQueue h with
    | .ok s => some (.marking h, s)
    | .error e => some (.failed, s.onHub fun hub => (hub.note h fun c => startFailed c e).close h)
  | .marking h => some (.attaching h, s.markStarted h)
  | .attaching h => some (.greeting h, s.attach h .ok)
  | .greeting h => some (.done h, greet s h)
  | .done _ | .failed => none

end Acceptance
end RelayHub
