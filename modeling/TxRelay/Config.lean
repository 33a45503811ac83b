/-
  The settings of a relay.

  Each section and each field has a default, so a configuration file may leave out any of them.
-/

namespace TxRelay

/-- How log lines are written. -/
inductive LogFormat where
  | pretty
  | json
deriving DecidableEq, Repr

/-- The name of a format. -/
def LogFormat.name : LogFormat → String
  | pretty => "pretty"
  | json => "json"

/-- The format of a name. -/
def LogFormat.ofName? : String → Option LogFormat
  | "pretty" => some pretty
  | "json" => some json
  | _ => none

/-- Settings of the engine. -/
structure EngineConfig where
  /-- Threads that drive broadcasts. -/
  workerThreads : UInt64 := 2
  /-- The longest time that a blocking poll waits, in milliseconds. -/
  pollInterval : UInt64 := 1000
deriving DecidableEq, Repr

/-- Settings of the network; times are in seconds. -/
structure NetworkConfig where
  /-- Where to send transactions if the caller does not say. -/
  defaultEndpoint : String := "http://localhost:8545"
  chainId : UInt64 := 31337
  rpcTimeout : UInt64 := 10
  receiptTimeout : UInt64 := 60
deriving DecidableEq, Repr

/-- Settings of logs and metrics. -/
structure ObservabilityConfig where
  logLevel : String := "info"
  logFormat : LogFormat := .pretty
  metricsEnabled : Bool := false
  metricsAddress : String := "0.0.0.0:9090"
deriving DecidableEq, Repr

/-- All settings. -/
structure Config where
  engine : EngineConfig := {}
  network : NetworkConfig := {}
  observability : ObservabilityConfig := {}
deriving DecidableEq, Repr

end TxRelay
