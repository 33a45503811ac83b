/-
  Settings from a TOML document.

  What the document leaves out keeps its default, and keys that are not known do not count.  A
  section is a table, or an array of its fields in order.  Fields are read in the order in which
  the document has them, and the first that does not fit is the fault.
-/
import TxRelay.Config
import TxRelay.Text.Quoted
import TxRelay.Toml.Reader

namespace TxRelay.Config

open Toml (Value Entries)

/-- Why a value does not fit. -/
inductive Mismatch where
  /-- It has another type. -/
  | wrongType (found : Value) (wanted : String)
  /-- It is a number below 0. -/
  | negative (n : Int) (wanted : String)
  | unknownFormat (name : String)
  /-- A format is written as something that has no name. -/
  | unnamedFormat
  /-- A format is written as a table, which needs one entry. -/
  | noFormat
  | manyFormats
  /-- The entry for a format holds something. -/
  | formatWith (content : Value)

/-- A value as messages name it. -/
def found : Value → String
  | .string s => "string " ++ Text.quoted s
  | .integer n => "integer \x60" ++ toString n.toInt ++ "\x60"
  | .float x => "floating point \x60" ++ x.render ++ "\x60"
  | .boolean b => "boolean \x60" ++ (if b then "true" else "false") ++ "\x60"
  | .datetime | .table _ _ => "map"
  | .array _ | .tables _ => "sequence"

/-- What the content of an entry for a format should have been. -/
def emptyWanted : Value → String
  | .string _ => "expected table, found string"
  | .integer _ => "expected table, found integer"
  | .float _ => "expected table, found float"
  | .boolean _ => "expected table, found boolean"
  | .datetime => "expected table, found datetime"
  | .array _ | .table _ _ => "expected empty table"
  | .tables _ => "expected empty array"

/-- The wording of a mismatch. -/
def Mismatch.message : Mismatch → String
  | .wrongType v wanted => "invalid type: " ++ found v ++ ", expected " ++ wanted
  | .negative n wanted =>
    "invalid value: integer \x60" ++ toString n ++ "\x60, expected " ++ wanted
  | .unknownFormat name =>
    "unknown variant \x60" ++ name ++ "\x60, expected \x60pretty\x60 or \x60json\x60"
  | .unnamedFormat => "wanted string or table"
  | .noFormat => "wanted exactly 1 element, found 0 elements"
  | .manyFormats => "wanted exactly 1 element, more than 1 element"
  | .formatWith content => emptyWanted content

/-! ## Single values -/

/-- A number of 64 bits. -/
def readNumber (wanted : String) : Value → Except Mismatch UInt64
  | .integer n =>
    if n.toInt < 0 then .error (.negative n.toInt wanted) else .ok (UInt64.ofNat n.toInt.toNat)
  | v => .error (.wrongType v wanted)

/-- A text. -/
def readText : Value → Except Mismatch String
  | .string s => .ok s
  | v => .error (.wrongType v "a string")

/-- A truth value. -/
def readBool : Value → Except Mismatch Bool
  | .boolean b => .ok b
  | v => .error (.wrongType v "a boolean")

/-- The format of a name. -/
def namedFormat (name : String) : Except Mismatch LogFormat :=
  match LogFormat.ofName? name with
  | some f => .ok f
  | none => .error (.unknownFormat name)

/-- Does a value hold nothing? -/
def isHollow : Value → Bool
  | .array vs => vs.isEmpty
  | .table _ es => es.isEmpty
  | .tables ts => ts.isEmpty
  | _ => false

/-- A log format: its name, or a table with the name as its only key and nothing in it. -/
def readFormat : Value → Except Mismatch LogFormat
  | .string s => namedFormat s
  | .table _ [] => .error .noFormat
  -- the name is looked at first, so an unknown one is reported whatever it holds
  | .table _ [(name, content)] =>
    match namedFormat name with
    | .error e => .error e
    | .ok f => if isHollow content then .ok f else .error (.formatWith content)
  | .table _ _ => .error .manyFormats
  | _ => .error .unnamedFormat

/-! ## Sections -/

/-- Read the fields of a structure in the order in which the value has them. -/
def readFields {α : Type} (name : String) (fields : List String)
    (set : String → Value → α → Except Mismatch α) (start : α) : Value → Except Mismatch α
  | .table _ es =>
    -- the document's order decides which fault is reported
    es.foldlM (fun a p => if p.1 ∈ fields then set p.1 p.2 a else .ok a) start
  | .array vs => (fields.zip vs).foldlM (fun a p => set p.1 p.2 a) start
  | .tables ts => (fields.zip ts).foldlM (fun a p => set p.1 (.table .header p.2) a) start
  | .datetime => .ok start
  | v => .error (.wrongType v ("struct " ++ name))

/-- Set a field of the engine's section. -/
def setEngine (field : String) (v : Value) (c : EngineConfig) : Except Mismatch EngineConfig :=
  match field with
  | "worker_threads" => (readNumber "usize" v).map fun n => { c with workerThreads := n }
  | "poll_interval_ms" => (readNumber "u64" v).map fun n => { c with pollInterval := n }
  | _ => .ok c

/-- The engine's section. -/
def readEngine : Value → Except Mismatch EngineConfig :=
  readFields "EngineConfig" ["worker_threads", "poll_interval_ms"] setEngine {}

/-- Set a field of the network's section. -/
def setNetwork (field : String) (v : Value) (c : NetworkConfig) : Except Mismatch NetworkConfig :=
  match field with
  | "default_endpoint" => (readText v).map fun s => { c with defaultEndpoint := s }
  | "chain_id" => (readNumber "u64" v).map fun n => { c with chainId := n }
  | "rpc_timeout_secs" => (readNumber "u64" v).map fun n => { c with rpcTimeout := n }
  | "receipt_timeout_secs" => (readNumber "u64" v).map fun n => { c with receiptTimeout := n }
  | _ => .ok c

/-- The network's section. -/
def readNetwork : Value → Except Mismatch NetworkConfig :=
  readFields "NetworkConfig"
    ["default_endpoint", "chain_id", "rpc_timeout_secs", "receipt_timeout_secs"] setNetwork {}

/-- Set a field of the section on logs and metrics. -/
def setObservability (field : String) (v : Value) (c : ObservabilityConfig) :
    Except Mismatch ObservabilityConfig :=
  match field with
  | "log_level" => (readText v).map fun s => { c with logLevel := s }
  | "log_format" => (readFormat v).map fun f => { c with logFormat := f }
  | "metrics_enabled" => (readBool v).map fun b => { c with metricsEnabled := b }
  | "metrics_address" => (readText v).map fun s => { c with metricsAddress := s }
  | _ => .ok c

/-- The section on logs and metrics. -/
def readObservability : Value → Except Mismatch ObservabilityConfig :=
  readFields "ObservabilityConfig"
    ["log_level", "log_format", "metrics_enabled", "metrics_address"] setObservability {}

/-- Set a section. -/
def setSection (name : String) (v : Value) (c : Config) : Except Mismatch Config :=
  match name with
  | "engine" => (readEngine v).map fun e => { c with engine := e }
  | "network" => (readNetwork v).map fun n => { c with network := n }
  | "observability" => (readObservability v).map fun o => { c with observability := o }
  | _ => .ok c

/-- The settings of a document. -/
def ofToml (es : Entries) : Except Mismatch Config :=
  readFields "RelayConfig" ["engine", "network", "observability"] setSection {}
    (.table .header es)

end TxRelay.Config
