import RelayHub.HubConfig

/-! Settings of the program: the listening server, the hub and the log. -/
namespace RelayHub

structure ServerSettings where
  host : String := "127.0.0.1"
  port : Nat := 8080
  allowedOrigins : List String := []
  deriving DecidableEq, Repr

structure HubSettings where
  writeWaitMs : Nat := 10000
  pongWaitMs : Nat := 60000
  pingPeriodMs : Nat := 54000
  maxMessageSize : Nat := 524288
  sendBufferSize : Nat := 256
  readBufferSize : Nat := 1024
  writeBufferSize : Nat := 1024
  deriving DecidableEq, Repr

structure LogSettings where
  level : String := "info"
  deriving DecidableEq, Repr

structure Settings where
  server : ServerSettings := {}
  hub : HubSettings := {}
  log : LogSettings := {}
  deriving DecidableEq, Repr

def HubSettings.config (s : HubSettings) : HubConfig where
  writeWait := .ofMillis s.writeWaitMs
  pongWait := .ofMillis s.pongWaitMs
  pingPeriod := .ofMillis s.pingPeriodMs
  maxMessageSize := s.maxMessageSize
  sendBufferSize := s.sendBufferSize
  readBufferSize := s.readBufferSize
  writeBufferSize := s.writeBufferSize

end RelayHub
