/-
  What the answers of nodes mean.

  A hash is 32 bytes in hexadecimal digits, a balance a number below 2²⁵⁶ in one of several
  notations, a receipt an object.  An answer of another shape is an error, whose text shows the
  shape and the answer.

  Of a receipt only what is used is read: the hash and the gas have to be there, the status and the
  block may be missing.  A receipt of the oldest kind has no status but the root of a tree, and
  counts as failed here.  A node that leaves out more than that, or sends what no node sends, may be
  understood here and refused by the program; nothing that is proved of receipts rests on it.
-/
import TxRelay.Network.Outcome
import TxRelay.Rpc.Node

namespace TxRelay.Rpc

open Json (Value)

/-- A value's kind and content, as error texts name it. -/
def shape : Value → String
  | .null => "null"
  | .bool b => "boolean \x60" ++ (if b then "true" else "false") ++ "\x60"
  | .number n =>
    (if n.isWhole then "integer" else "floating point") ++ " \x60" ++ String.ofList n.render ++
      "\x60"
  | .string s => "string " ++ Text.quoted s
  | .array _ => "sequence"
  | .object _ => "map"

/-- The error about an answer: what is wrong, where the answer ends, and the answer. -/
def badAnswer (v : Value) (why : String) : String :=
  let text := v.toText
  "deserialization error: " ++ why ++ " at line 1 column " ++ toString text.utf8ByteSize ++ "\n" ++
    text

/-- The error about an answer of another type than wanted. -/
def wrongType (v : Value) (wanted : String) : String :=
  badAnswer v ("invalid type: " ++ shape v ++ ", expected " ++ wanted)

/-! ## Numbers -/

/-- The number that digits of `base` spell, underscores left out. -/
def digits? (base : Nat) (cs : List Char) : Option Nat :=
  (cs.filter (· ≠ '_')).foldlM (fun n c => (Url.Ipv4.digit? base c).map (n * base + ·)) 0

/-- The number that a text spells: its first two characters may name the base. -/
def number? (s : String) : Option Nat :=
  match s.toList with
  | '0' :: 'x' :: cs | '0' :: 'X' :: cs => digits? 16 cs
  | '0' :: 'o' :: cs | '0' :: 'O' :: cs => digits? 8 cs
  | '0' :: 'b' :: cs | '0' :: 'B' :: cs => digits? 2 cs
  | cs => digits? 10 cs

/-- A balance. -/
def balanceOf (v : Value) : Except String Nat :=
  let wanted := "a 32 byte hex string"
  match v with
  | .string s =>
    match number? s with
    | some n =>
      if n < Nat.pow 2 256 then .ok n
      else .error (badAnswer v ("invalid value: " ++ shape v ++ ", expected " ++ wanted))
    | none => .error (badAnswer v ("invalid value: " ++ shape v ++ ", expected " ++ wanted))
  | .number n =>
    if n.isWhole ∧ !n.negative ∧ Text.decimal n.whole < UInt64.size then .ok (Text.decimal n.whole)
    else .error (wrongType v wanted)
  | _ => .error (wrongType v wanted)

/-! ## Hashes -/

/-- The bytes of an array of small numbers. -/
def byteValues? (vs : List Value) : Option Bytes :=
  vs.mapM fun
    | .number n =>
      if n.isWhole ∧ !n.negative ∧ Text.decimal n.whole < 256 then
        some (UInt8.ofNat (Text.decimal n.whole))
      else none
    | _ => none

/-- A transaction hash. -/
def hashOf (v : Value) : Except String Hash :=
  let wrong := wrongType v
    "32 bytes, represented as a hex string of length 64, an array of u8, or raw bytes"
  match v with
  | .string s =>
    match Hex.decodeChunk 32 s with
    | .ok h => .ok h
    | .error e => .error (badAnswer v e.message)
  | .array vs =>
    match byteValues? vs with
    | some bs => if h : bs.length = 32 then .ok ⟨bs, h⟩ else .error wrong
    | none => .error wrong
  | _ => .error wrong

/-! ## Receipts -/

/-- The number in a member of a receipt. -/
def quantity? (v : Value) (name : String) : Option Nat :=
  match v.member? name with
  | some (.string s) =>
    match s.toList with
    | '0' :: 'x' :: cs => if cs.isEmpty then none else digits? 16 cs
    | _ => none
  | _ => none

/-- The error about a member that is not there. -/
def missing {α : Type} (v : Value) (name : String) : Except String α :=
  .error (badAnswer v ("missing field \x60" ++ name ++ "\x60"))

/-- What became of a transaction: nothing yet, or its receipt. -/
def receiptOf (v : Value) : Except String (Option MinedTx) :=
  match v with
  | .null => .ok none
  | .object _ =>
    match v.member? "transactionHash" with
    | none => missing v "transactionHash"
    | some h =>
      match hashOf h with
      | .error e => .error e
      | .ok hash =>
        match quantity? v "gasUsed" with
        | none => missing v "gasUsed"
        | some gas =>
          .ok (some
            { hash := Hex.encode0x hash.val
              success := quantity? v "status" = some 1
              block := (quantity? v "blockNumber").map UInt64.ofNat
              gasUsed := UInt64.ofNat gas })
  | _ => .error (wrongType v "struct ReceiptDeserHelper")

end TxRelay.Rpc
