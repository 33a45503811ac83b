/-
  The rules that settings have to keep.

  `check` lists every rule that is broken, always in the same order, and each message depends on
  the field alone that breaks the rule.
-/
import TxRelay.Config
import TxRelay.Config.SocketAddress
import TxRelay.Endpoint

namespace TxRelay.Config

/-- A broken rule. -/
inductive Violation where
  | noWorkers
  | noPollInterval
  | badEndpoint (why : Endpoint.Refusal)
  | noRpcTimeout
  | noReceiptTimeout
  | badMetricsAddress (address : String)
deriving DecidableEq, Repr

namespace Violation

/-- The path of the field that breaks the rule. -/
def field : Violation → String
  | noWorkers => "engine.worker_threads"
  | noPollInterval => "engine.poll_interval_ms"
  | badEndpoint _ => "network.default_endpoint"
  | noRpcTimeout => "network.rpc_timeout_secs"
  | noReceiptTimeout => "network.receipt_timeout_secs"
  | badMetricsAddress _ => "observability.metrics_address"

/-- What is wrong with the field. -/
def message : Violation → String
  | noWorkers => "must be at least 1"
  | badEndpoint (.notAnAddress e) => "invalid URL: " ++ e.message
  | badEndpoint (.unsupportedScheme scheme) => "unsupported scheme '" ++ scheme ++ "'"
  | noPollInterval | noRpcTimeout | noReceiptTimeout => "must be greater than 0"
  | badMetricsAddress address => "'" ++ address ++ "' is not a socket address"

/-- Field and message on one line. -/
def text (v : Violation) : String := v.field ++ ": " ++ v.message

/-- The violation as developers see it. -/
def debugForm (v : Violation) : String :=
  "ValidationError \x7b field: " ++ Text.quoted v.field ++ ", message: " ++
    Text.quoted v.message ++ " \x7d"

end Violation

/-- All violations on one line. -/
def violationsMessage (vs : List Violation) : String :=
  "Validation failed: " ++ ", ".intercalate (vs.map Violation.text)

/-- A violation, if its rule is broken. -/
def require (kept : Bool) (v : Violation) : List Violation := if kept then [] else [v]

/-- The rule about the endpoint, which looks at the address itself. -/
def checkEndpoint (endpoint : String) : List Violation :=
  match Url.parse endpoint with
  | .ok address =>
    require (["http", "https"].contains address.scheme)
      (.badEndpoint (.unsupportedScheme address.scheme))
  | .error e => [.badEndpoint (.notAnAddress e)]

/-- Every broken rule. -/
def check (c : Config) : List Violation :=
  require (c.engine.workerThreads ≠ 0) .noWorkers ++
    require (c.engine.pollInterval ≠ 0) .noPollInterval ++
    checkEndpoint c.network.defaultEndpoint ++
    require (c.network.rpcTimeout ≠ 0) .noRpcTimeout ++
    require (c.network.receiptTimeout ≠ 0) .noReceiptTimeout ++
    -- the address only matters if metrics are on
    require (!c.observability.metricsEnabled ||
      SocketAddress.isValid c.observability.metricsAddress)
      (.badMetricsAddress c.observability.metricsAddress)

end TxRelay.Config
