/-
  The command line's arguments.

  Options stand before the word that names the command, the command's own options behind it.  An
  option takes one value: the next argument, unless that starts with a hyphen and goes on, or
  what stands behind an equals sign.  An option that is not a list stands at most once.

      [-c FILE] broadcast --raw-tx HEX… [--endpoint URL] [--wait-secs N]
      [-c FILE] balance --address ADDRESS [--endpoint URL]
      [-c FILE] sign --message TEXT
      [-c FILE] check-config
-/
import TxRelay.Text.Symbol

namespace TxRelay

/-- A command and what it is given. -/
inductive Command where
  | broadcast (rawTxs : List String) (endpoint : Option String) (waitSecs : UInt64)
  | balance (address : String) (endpoint : Option String)
  | sign (message : String)
  | checkConfig
deriving DecidableEq, Repr

/-- A command with the configuration file it reads. -/
structure Invoked where
  config : Option String
  command : Command
deriving DecidableEq, Repr

namespace Command

/-! ## Options -/

/-- An option as it is written: its name, and its value if an equals sign follows. -/
structure Flag where
  name : String
  value : Option String
deriving DecidableEq, Repr

/-- The long option that an argument is. -/
def longFlag? (arg : String) : Option Flag :=
  match arg.toList with
  | '-' :: '-' :: c :: cs =>
    let name := String.ofList ((c :: cs).takeWhile (· ≠ '='))
    match (c :: cs).dropWhile (· ≠ '=') with
    | _ :: value => some ⟨name, some (String.ofList value)⟩
    | [] => some ⟨name, none⟩
  | _ => none

/-- The option of one letter that an argument is; its value may follow at once. -/
def shortFlag? (letter : Char) (arg : String) : Option (Option String) :=
  match arg.toList with
  | ['-', c] => if c = letter then some none else none
  | '-' :: c :: '=' :: cs => if c = letter then some (some (String.ofList cs)) else none
  | '-' :: c :: cs => if c = letter then some (some (String.ofList cs)) else none
  | _ => none

/-- Can an argument be the value of the option before it?  A lone hyphen can. -/
def isValue (arg : String) : Bool := !arg.startsWith "-" || arg = "-"

/-- The value of an option and the arguments after it. -/
def valueOf (attached : Option String) (rest : List String) : Option (String × List String) :=
  match attached, rest with
  | some v, rest => some (v, rest)
  | none, v :: rest => if isValue v then some (v, rest) else none
  | none, [] => none

/-- The options of a command with their values, in order.  A pair of hyphens may end them.  Every
    round takes an argument. -/
def options (known : List String) : (rounds : Nat) → List String → Option (List (String × String))
  | 0, _ => none
  | _ + 1, [] => some []
  | rounds + 1, arg :: rest =>
    if arg = "--" then if rest.isEmpty then some [] else none
    else do
      let flag ← longFlag? arg
      if !known.contains flag.name then none
      let (v, rest) ← valueOf flag.value rest
      let more ← options known rounds rest
      return (flag.name, v) :: more

/-- The values of an option. -/
def valuesOf (name : String) (os : List (String × String)) : List String :=
  (os.filter (·.1 = name)).map (·.2)

/-- The value of an option that stands at most once: `none` if it stands more often. -/
def atMostOne (name : String) (os : List (String × String)) : Option (Option String) :=
  match valuesOf name os with
  | [] => some none
  | [v] => some (some v)
  | _ => none

/-- The value of an option that stands exactly once. -/
def exactlyOne (name : String) (os : List (String × String)) : Option String :=
  (atMostOne name os).join

/-! ## Commands -/

/-- How the program is called. -/
def usage : List String :=
  ["Usage: tx-relay [-c FILE] broadcast --raw-tx HEX... [--endpoint URL] [--wait-secs N]",
    "       tx-relay [-c FILE] balance --address ADDRESS [--endpoint URL]",
    "       tx-relay [-c FILE] sign --message TEXT",
    "       tx-relay [-c FILE] check-config"]

/-- A number of 64 bits; a plus sign may stand in front. -/
def number? (s : String) : Option UInt64 := (Text.unsigned? s).map UInt64.ofNat

/-- How long `broadcast` waits if it is not told. -/
def defaultWait : UInt64 := 120

/-- The command of a name and its arguments. -/
def ofArgs? (name : String) (args : List String) : Option Command :=
  let opts (known : List String) := options known (args.length + 1) args
  match name with
  | "broadcast" => do
    let os ← opts ["raw-tx", "endpoint", "wait-secs"]
    let endpoint ← atMostOne "endpoint" os
    let wait ← match ← atMostOne "wait-secs" os with
      | none => some defaultWait
      | some s => number? s
    if (valuesOf "raw-tx" os).isEmpty then none
    return .broadcast (valuesOf "raw-tx" os) endpoint wait
  | "balance" => do
    let os ← opts ["address", "endpoint"]
    return .balance (← exactlyOne "address" os) (← atMostOne "endpoint" os)
  | "sign" => do
    let os ← opts ["message"]
    return .sign (← exactlyOne "message" os)
  | "check-config" => do
    let _ ← opts []
    return .checkConfig
  | _ => none

end Command

namespace Invoked

/-- The option for the configuration file that an argument is. -/
def configFlag? (arg : String) : Option (Option String) :=
  match Command.longFlag? arg with
  | some ⟨"config", value⟩ => some value
  | _ => Command.shortFlag? 'c' arg

/-- What the arguments ask for; every round takes an argument. -/
def ofArgsFor : (rounds : Nat) → (config : Option String) → List String → Option Invoked
  | 0, _, _ => none
  | _ + 1, _, [] => none
  | rounds + 1, config, arg :: rest =>
    match configFlag? arg with
    | some attached => do
      if config.isSome then none
      let (path, rest) ← Command.valueOf attached rest
      if path.isEmpty then none
      ofArgsFor rounds (some path) rest
    | none => (Command.ofArgs? arg rest).map fun c => ⟨config, c⟩

/-- What the arguments ask for, if they are in order. -/
def ofArgs? (args : List String) : Option Invoked := ofArgsFor (args.length + 1) none args

end Invoked

end TxRelay
