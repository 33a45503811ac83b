/-
  TOML values.

  A table keeps its entries in the order in which they were first written, and remembers how it
  came to be: what may be added to it later depends on that.
-/
import TxRelay.Decimal.Shortest

namespace TxRelay.Toml

/-- How a table was written. -/
inductive Origin where
  /-- Under a header of its own. -/
  | header
  /-- Only as a part of longer headers. -/
  | implied
  /-- Only as a part of dotted keys. -/
  | dotted
  /-- In braces. -/
  | inline
deriving DecidableEq, Repr

/-- A floating-point number as it is written, before rounding. -/
inductive FloatLiteral where
  | finite (negative : Bool) (mantissa : Nat) (exponent : Int)
  | infinite (negative : Bool)
  | nan
deriving DecidableEq, Repr

/-- A value. -/
inductive Value where
  | string (s : String)
  | integer (n : Int64)
  | float (x : FloatLiteral)
  | boolean (b : Bool)
  | datetime
  | array (items : List Value)
  | table (origin : Origin) (entries : List (String × Value))
  /-- Tables under repeated headers in double brackets. -/
  | tables (items : List (List (String × Value)))

/-- The entries of a table. -/
abbrev Entries := List (String × Value)

/-! ## Values that are the same -/

mutual

/-- The values are the same. -/
def Value.same : Value → Value → Bool
  | .string s, .string s' => s = s'
  | .integer n, .integer n' => n = n'
  | .float x, .float x' => x = x'
  | .boolean b, .boolean b' => b = b'
  | .datetime, .datetime => true
  | .array vs, .array vs' => sameItems vs vs'
  | .table o es, .table o' es' => o = o' && sameEntries es es'
  | .tables ts, .tables ts' => sameTables ts ts'
  | _, _ => false

/-- The items are the same, one by one. -/
def sameItems : List Value → List Value → Bool
  | [], [] => true
  | v :: vs, v' :: vs' => v.same v' && sameItems vs vs'
  | _, _ => false

/-- The entries are the same, in the same order. -/
def sameEntries : Entries → Entries → Bool
  | [], [] => true
  | (key, v) :: es, (key', v') :: es' => (key = key' && v.same v') && sameEntries es es'
  | _, _ => false

/-- The tables are the same, one by one. -/
def sameTables : List Entries → List Entries → Bool
  | [], [] => true
  | es :: ts, es' :: ts' => sameEntries es es' && sameTables ts ts'
  | _, _ => false

end

mutual

theorem Value.same_iff (v v' : Value) : v.same v' = true ↔ v = v' := by
  cases v with
  | string s => cases v' with
    | _ => simp [Value.same]
  | integer n => cases v' with
    | _ => simp [Value.same]
  | float x => cases v' with
    | _ => simp [Value.same]
  | boolean b => cases v' with
    | _ => simp [Value.same]
  | datetime => cases v' with
    | _ => simp [Value.same]
  | array vs => cases v' with
    | array vs' => simp [Value.same, sameItems_iff vs vs']
    | _ => simp [Value.same]
  | table o es => cases v' with
    | table o' es' => simp [Value.same, sameEntries_iff es es']
    | _ => simp [Value.same]
  | tables ts => cases v' with
    | tables ts' => simp [Value.same, sameTables_iff ts ts']
    | _ => simp [Value.same]

theorem sameItems_iff (vs vs' : List Value) : sameItems vs vs' = true ↔ vs = vs' := by
  cases vs with
  | nil => cases vs' with
    | _ => simp [sameItems]
  | cons v vs => cases vs' with
    | nil => simp [sameItems]
    | cons v' vs' => simp [sameItems, Value.same_iff v v', sameItems_iff vs vs']

theorem sameEntries_iff (es es' : Entries) :
    sameEntries es es' = true ↔ es = es' := by
  cases es with
  | nil => cases es' with
    | _ => simp [sameEntries]
  | cons e es => cases es' with
    | nil => simp [sameEntries]
    | cons e' es' =>
      obtain ⟨key, v⟩ := e
      obtain ⟨key', v'⟩ := e'
      simp [sameEntries, Value.same_iff v v', sameEntries_iff es es']

theorem sameTables_iff (ts ts' : List Entries) :
    sameTables ts ts' = true ↔ ts = ts' := by
  cases ts with
  | nil => cases ts' with
    | _ => simp [sameTables]
  | cons es ts => cases ts' with
    | nil => simp [sameTables]
    | cons es' ts' => simp [sameTables, sameEntries_iff es es', sameTables_iff ts ts']

end

instance : DecidableEq Value := fun v v' => decidable_of_iff _ (v.same_iff v')

namespace FloatLiteral

/-- A number that is too large for a double is infinite. -/
def render (x : FloatLiteral) : String :=
  let signed (negative : Bool) (s : String) : String := if negative then "-" ++ s else s
  match x with
  | finite negative m e => signed negative ((Decimal.render? m e).getD "inf")
  | infinite negative => signed negative "inf"
  | nan => "NaN"

end FloatLiteral

namespace Entries

/-- The value of a key. -/
def find? (es : Entries) (key : String) : Option Value := (List.find? (·.1 = key) es).map (·.2)

/-- Put a value where a key is, which is there already. -/
def replace (es : Entries) (key : String) (v : Value) : Entries :=
  es.map fun p => if p.1 = key then (key, v) else p

/-- Leave out a key. -/
def without (es : Entries) (key : String) : Entries := es.filter (·.1 ≠ key)

/-- Add an entry with a new key. -/
def add (es : Entries) (key : String) (v : Value) : Option Entries :=
  if (es.find? key).isSome then none else some (es ++ [(key, v)])

end Entries

end TxRelay.Toml
