import RelayHub.Duration

/-! Tuning shared by a hub and every client it makes. -/
namespace RelayHub

structure HubConfig where
  writeWait : Duration := .ofSeconds 10
  pongWait : Duration := .ofSeconds 60
  pingPeriod : Duration := .ofSeconds 54
  maxMessageSize : Nat := 512 * 1024
  sendBufferSize : Nat := 256
  readBufferSize : Nat := 1024
  writeBufferSize : Nat := 1024
  deriving DecidableEq, Repr

inductive ConfigFault where
  | pingNotBelowPong (ping pong : Duration)
  | zeroPing
  | zeroWriteWait
  | zeroSendBuffer
  | zeroMessageSize
  deriving DecidableEq, Repr

def ConfigFault.message : ConfigFault → String
  | .pingNotBelowPong ping pong =>
    "ping_period (" ++ ping.text ++ ") must be less than pong_wait (" ++ pong.text ++ ")"
  | .zeroPing => "ping_period must be greater than zero"
  | .zeroWriteWait => "write_wait must be greater than zero"
  | .zeroSendBuffer => "send_buffer_size must be at least 1"
  | .zeroMessageSize => "max_message_size must be greater than zero"

def HubConfig.fault? (c : HubConfig) : Option ConfigFault :=
  if c.pongWait ≤ c.pingPeriod then some (.pingNotBelowPong c.pingPeriod c.pongWait)
  else if c.pingPeriod.isZero then some .zeroPing
  else if c.writeWait.isZero then some .zeroWriteWait
  else if c.sendBufferSize = 0 then some .zeroSendBuffer
  else if c.maxMessageSize = 0 then some .zeroMessageSize
  else none

theorem HubConfig.faultless {c : HubConfig} : c.fault? = none ↔
    c.pingPeriod.nanos < c.pongWait.nanos ∧ 0 < c.pingPeriod.nanos ∧ 0 < c.writeWait.nanos ∧
      0 < c.sendBufferSize ∧ 0 < c.maxMessageSize := by
  have below : c.pongWait ≤ c.pingPeriod ↔ c.pongWait.nanos ≤ c.pingPeriod.nanos := Iff.rfl
  simp only [fault?, Duration.isZero, below, decide_eq_true_eq]
  grind

end RelayHub
