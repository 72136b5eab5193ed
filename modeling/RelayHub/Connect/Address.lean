import RelayHub.Connect.Host
import RelayHub.HubError

/-! The address that a server listens on: a host, and a port behind the last colon. Of hosts by name only
the machine's own name is known here. The machine takes any host of four octets for its own, and of the
hosts in groups those that stand for one of these and the unspecified one. -/
namespace RelayHub

structure Address where
  host : String
  port : Nat
  deriving DecidableEq, Repr

inductive AddressFault where
  | noPort
  | badPort
  | nulInHost
  | noHost
  | unknownHost
  | foreignHost
  | invalidHost
  | noInterface
  | occupied
  deriving DecidableEq, Repr

def AddressFault.message : AddressFault → String
  | .noPort => "invalid socket address"
  | .badPort => "invalid port value"
  | .nulInHost => "file name contained an unexpected NUL byte"
  | .noHost => "failed to lookup address information: Name or service not known"
  | .unknownHost => "failed to lookup address information: Temporary failure in name resolution"
  | .foreignHost => "Cannot assign requested address (os error 99)"
  | .invalidHost => "Invalid argument (os error 22)"
  | .noInterface => "No such device (os error 19)"
  | .occupied => "Address already in use (os error 98)"

namespace Address

def lastColon? (cs : List Char) : Option (List Char × List Char) :=
  match cs.reverse.dropWhile (· ≠ ':') with
  | [] => none
  | _ :: host => some (host.reverse, (cs.reverse.takeWhile (· ≠ ':')).reverse)

def text (a : Address) : String := a.host ++ ":" ++ toString a.port

def interface? (groups : List Nat) (name : List Char) : Option Nat :=
  if Host.isLocal groups ∧ name = "lo".toList then some 1 else Host.interface? name

def plainHost (cs : List Char) : Except AddressFault Host :=
  if cs.contains '\x00' then .error .nulInHost
  else if cs = ['*'] then .error .noHost
  else if cs.map Char.toLower = "localhost".toList then .ok .loopback
  else
    match Host.octets? cs, Host.groups? (cs.takeWhile (· ≠ '%')), cs.dropWhile (· ≠ '%') with
    | some n, _, _ => .ok (.octets n)
    | none, none, _ => .error .unknownHost
    | none, some ns, [] => .ok (.groups ns 0)
    | none, some ns, _ :: name =>
      match interface? ns name with
      | some n => .ok (.groups ns n)
      | none => .error .noHost

def ofText (s : String) : Except AddressFault (Host × Nat) :=
  match lastColon? s.toList with
  | none => .error .noPort
  | some (host, port) =>
    match (Digits.unsigned? port).filter (· ≤ maxWord16) with
    | none => .error .badPort
    | some n =>
      match (Host.ofBrackets? host).filter fun _ => port.head? ≠ some '+' with
      | some h => .ok (h, n)
      | none => (plainHost host).map (·, n)

def refusal? (h : Host) : Option AddressFault :=
  match h with
  | .octets _ => none
  | .groups ns interface =>
    if h.isUnspecified ∨ h.octetNumber?.isSome then none
    else if 0xFF00 ≤ ns.headD 0 then some .invalidHost
    else if Host.isLocal ns ∧ interface = 0 then some .invalidHost
    else if Host.isLocal ns ∧ interface ≠ 1 then some .noInterface
    else some .foreignHost

/- What comes of listening on an address: the address that the server has then, with the host by
number. `isOccupied` says that the port belongs to someone else on the machine itself. -/
def listen (s : String) (isOccupied : Bool) : Except HubError Address :=
  let found : Except AddressFault Address := do
    let (host, port) ← ofText s
    match refusal? host with
    | some fault => .error fault
    | none =>
      if isOccupied ∧ host.includesLoopback then .error .occupied
      else return ⟨host.text, port⟩
  found.mapError fun fault => .io fault.message

end Address
end RelayHub
