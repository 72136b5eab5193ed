import RelayHub.Message.Schema

/-! Messages that the hub pushes to its clients. -/
namespace RelayHub

inductive ServerMessage where
  | welcome (client user : String)
  | joined (group : String)
  | left (group : String)
  | delivery (source target : String) (payload : Json)
  | receipt (target : String) (delivered : Nat)
  | error (message : String)
  deriving Repr

namespace ServerMessage
open Message

def schema : Schema ServerMessage where
  title := "ServerMessage"
  variants := [
    ⟨"welcome", "Welcome", [⟨"client_id", .text⟩, ⟨"user_id", .text⟩], fun (c, u, _) => .welcome c u⟩,
    ⟨"joined", "Joined", [⟨"group", .text⟩], fun (g, _) => .joined g⟩,
    ⟨"left", "Left", [⟨"group", .text⟩], fun (g, _) => .left g⟩,
    ⟨"delivery", "Delivery", [⟨"from", .text⟩, ⟨"target", .text⟩, ⟨"payload", .payload⟩],
      fun (s, t, p, _) => .delivery s t p⟩,
    ⟨"receipt", "Receipt", [⟨"target", .text⟩, ⟨"delivered", .size⟩], fun (t, n, _) => .receipt t n⟩,
    ⟨"error", "Error", [⟨"message", .text⟩], fun (m, _) => .error m⟩]

def read (text : Bytes) : Except Refusal ServerMessage := schema.read text

def toJson : ServerMessage → Json
  | .welcome c u =>
    .object [("type", .string "welcome"), ("client_id", .string c), ("user_id", .string u)]
  | .joined g => .object [("type", .string "joined"), ("group", .string g)]
  | .left g => .object [("type", .string "left"), ("group", .string g)]
  | .delivery s t p =>
    .object [("type", .string "delivery"), ("from", .string s), ("target", .string t),
      ("payload", p)]
  | .receipt t n => .object [("type", .string "receipt"), ("target", .string t),
      ("delivered", .integer n)]
  | .error m => .object [("type", .string "error"), ("message", .string m)]

def encode (m : ServerMessage) : Bytes := Utf8.encode m.toJson.write

end ServerMessage
end RelayHub
