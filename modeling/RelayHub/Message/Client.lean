import RelayHub.Message.Schema

/-! Messages that a connected client may send. -/
namespace RelayHub

inductive ClientMessage where
  | join (group : String)
  | leave (group : String)
  | group (group : String) (payload : Json) (echo : Bool)
  | direct (user : String) (payload : Json)
  | tenant (payload : Json)
  | broadcast (payload : Json)
  deriving Repr

namespace ClientMessage
open Message

def schema : Schema ClientMessage where
  title := "ClientMessage"
  variants := [
    ⟨"join", "Join", [⟨"group", .text⟩], fun (g, _) => .join g⟩,
    ⟨"leave", "Leave", [⟨"group", .text⟩], fun (g, _) => .leave g⟩,
    ⟨"group", "Group", [⟨"group", .text⟩, ⟨"payload", .payload⟩, ⟨"echo", .flag⟩],
      fun (g, p, e, _) => .group g p e⟩,
    ⟨"direct", "Direct", [⟨"user_id", .text⟩, ⟨"payload", .payload⟩], fun (u, p, _) => .direct u p⟩,
    ⟨"tenant", "Tenant", [⟨"payload", .payload⟩], fun (p, _) => .tenant p⟩,
    ⟨"broadcast", "Broadcast", [⟨"payload", .payload⟩], fun (p, _) => .broadcast p⟩]

def read (text : Bytes) : Except Refusal ClientMessage := schema.read text

def toJson : ClientMessage → Json
  | .join g => .object [("type", .string "join"), ("group", .string g)]
  | .leave g => .object [("type", .string "leave"), ("group", .string g)]
  | .group g p e =>
    .object [("type", .string "group"), ("group", .string g), ("payload", p), ("echo", .bool e)]
  | .direct u p => .object [("type", .string "direct"), ("user_id", .string u), ("payload", p)]
  | .tenant p => .object [("type", .string "tenant"), ("payload", p)]
  | .broadcast p => .object [("type", .string "broadcast"), ("payload", p)]

def encode (m : ClientMessage) : Bytes := Utf8.encode m.toJson.write

end ClientMessage
end RelayHub
