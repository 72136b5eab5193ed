import RelayHub.HubConfig

/-! What a hub configuration asks of the layers below: the size limits of a connection, and the ranges
that a queue, a clock and a connection can work with. -/
namespace RelayHub

structure Transport where
  readBuffer : Nat
  writeBuffer : Nat
  maxWriteBuffer : Nat := maxWord64
  maxMessage : Nat
  /- No single frame may be larger, whatever the limit of a message. -/
  maxFrame : Nat := 16 * 1024 * 1024
  deriving DecidableEq, Repr

def HubConfig.transport (c : HubConfig) : Transport where
  readBuffer := c.readBufferSize
  writeBuffer := c.writeBufferSize
  maxMessage := c.maxMessageSize

def Transport.accepts (t : Transport) (frames : List Nat) : Bool :=
  frames.all (· ≤ t.maxFrame) && frames.foldl (· + ·) 0 ≤ t.maxMessage

inductive SetupFault where
  | queueCapacity
  | pingPeriod
  | clock
  | writeBuffer
  deriving DecidableEq, Repr

def maxQueue : Nat := maxWord64 / 8

/- The last instant that a clock of signed seconds can name. -/
def lastInstant : Nat := (maxSigned64 + 1) * 1000000000 - 1

def HubConfig.queueFault? (c : HubConfig) : Option SetupFault :=
  if c.sendBufferSize = 0 ∨ maxQueue < c.sendBufferSize then some .queueCapacity else none

def Transport.fault? (t : Transport) : Option SetupFault :=
  if t.maxWriteBuffer ≤ t.writeBuffer then some .writeBuffer else none

def HubConfig.tickerFault? (c : HubConfig) (now : Nat) : Option SetupFault :=
  if c.pingPeriod.isZero then some .pingPeriod
  else if lastInstant < now + c.pingPeriod.nanos then some .clock
  else none

def HubConfig.deadlineFault? (c : HubConfig) (now : Nat) : Option SetupFault :=
  if lastInstant < now + c.pongWait.nanos then some .clock else none

def HubConfig.startFault? (c : HubConfig) (now : Nat) : Option SetupFault :=
  c.transport.fault?.or ((c.tickerFault? now).or (c.deadlineFault? now))

def HubConfig.setupFault? (c : HubConfig) (now : Nat) : Option SetupFault :=
  c.queueFault?.or (c.startFault? now)

end RelayHub
