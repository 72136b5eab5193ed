import RelayHub.Text.Quoted

/-! Log entries: a level, the part of the program that writes, a message and named fields. -/
namespace RelayHub.Log

inductive Level where
  | error
  | warn
  | info
  | debug
  | trace
  deriving DecidableEq, Repr

def Level.text : Level → String
  | .error => "ERROR"
  | .warn => "WARN"
  | .info => "INFO"
  | .debug => "DEBUG"
  | .trace => "TRACE"

def Level.rank : Level → Nat
  | .error => 1
  | .warn => 2
  | .info => 3
  | .debug => 4
  | .trace => 5

inductive Value where
  | plain (text : String)
  | quoted (text : String)
  | count (n : Nat)
  deriving DecidableEq, Repr

def Value.text : Value → String
  | .plain s => s
  | .quoted s => s
  | .count n => toString n

def Value.line : Value → String
  | .quoted s => Quoted.quote s
  | v => v.text

inductive Source where
  | program
  | hub
  | fanOut
  | relay
  | server
  | session
  | client
  deriving DecidableEq, Repr

def Source.path : Source → String
  | .program => "hubcast"
  | .hub => "hubcast::hub::engine"
  | .fanOut => "hubcast::hub::dispatch"
  | .relay => "hubcast::transport::message"
  | .server => "hubcast::transport::websocket"
  | .session => "hubcast::client::pumps"
  | .client => "hubcast::client::hub_client"

structure Entry where
  level : Level
  source : Source
  message : String
  fields : List (String × Value) := []
  deriving DecidableEq, Repr

def Entry.line (e : Entry) : String :=
  String.intercalate " " (e.level.text :: e.message ::
    e.fields.map fun f => f.1 ++ "=" ++ f.2.line)

def insertField (f : String × Value) : List (String × Value) → List (String × Value)
  | [] => [f]
  | g :: rest => if f.1 < g.1 then f :: g :: rest else g :: insertField f rest

def Entry.record (e : Entry) : String :=
  let sorted := e.fields.foldl (fun sorted f => insertField f sorted) []
  String.intercalate "|" (e.level.text :: e.message :: sorted.map fun f => f.1 ++ "=" ++ f.2.text)

end RelayHub.Log
