/-
  Settings as a TOML text, every section and field in order.
-/
import TxRelay.Config
import TxRelay.Toml.Writer

namespace TxRelay.Config

/-- The sections with their fields. -/
def sections (c : Config) : List (String × List (String × Toml.Scalar)) :=
  [("engine",
      [("worker_threads", .integer c.engine.workerThreads.toNat),
        ("poll_interval_ms", .integer c.engine.pollInterval.toNat)]),
    ("network",
      [("default_endpoint", .string c.network.defaultEndpoint),
        ("chain_id", .integer c.network.chainId.toNat),
        ("rpc_timeout_secs", .integer c.network.rpcTimeout.toNat),
        ("receipt_timeout_secs", .integer c.network.receiptTimeout.toNat)]),
    ("observability",
      [("log_level", .string c.observability.logLevel),
        ("log_format", .string c.observability.logFormat.name),
        ("metrics_enabled", .boolean c.observability.metricsEnabled),
        ("metrics_address", .string c.observability.metricsAddress)])]

/-- The settings as TOML; there is none if a number does not fit 64 bits with a sign. -/
def toToml? (c : Config) : Option String := Toml.render? c.sections

end TxRelay.Config
