/-
  Building a document from its lines.

  Every key is written once, and so is every table: a header may not repeat another, dotted keys
  may only extend tables that dotted keys began, and a table in braces is closed for good.

  The table under the last header is kept apart until the next header.  If it was implied by
  longer headers before, it moves behind the tables that were written since.
-/
import TxRelay.Toml.Value

namespace TxRelay.Toml

/-! ## Dotted keys -/

/-- Add a value under a dotted key.  All of its parts but the last name tables, and the last of
    these must have been begun by dotted keys. -/
def putDotted : (path : List String) → (key : String) → Value → Entries → Option Entries
  | [], key, v, es => es.add key v
  | p :: ps, key, v, es =>
    match es.find? p with
    | none => (putDotted ps key v []).map fun sub => es ++ [(p, .table .dotted sub)]
    | some (.table .dotted sub) =>
      (putDotted ps key v sub).map fun sub => es.replace p (.table .dotted sub)
    | some (.table .implied sub) =>
      if ps.isEmpty then none
      else (putDotted ps key v sub).map fun sub => es.replace p (.table .implied sub)
    | some (.tables ts) =>
      if ps.isEmpty then none
      else
        match ts.getLast? with
        | none => none
        | some last =>
          (putDotted ps key v last).map fun last => es.replace p (.tables (ts.dropLast ++ [last]))
    | some _ => none

/-! ## Headers -/

/-- Change the table at the end of a path of headers; tables that are not there are implied. -/
def atPath : (path : List String) → (Entries → Option Entries) → Entries → Option Entries
  | [], f, es => f es
  | p :: ps, f, es =>
    match es.find? p with
    | none => (atPath ps f []).map fun sub => es ++ [(p, .table .implied sub)]
    | some (.table .inline _) => none
    | some (.table origin sub) => (atPath ps f sub).map fun sub => es.replace p (.table origin sub)
    | some (.tables ts) =>
      match ts.getLast? with
      | none => none
      | some last =>
        (atPath ps f last).map fun last => es.replace p (.tables (ts.dropLast ++ [last]))
    | some _ => none

/-- The table at the end of a path of headers. -/
def lookup : (path : List String) → Entries → Option Value
  | [], es => some (.table .header es)
  | p :: ps, es =>
    match es.find? p with
    | some (.table _ sub) => if ps.isEmpty then es.find? p else lookup ps sub
    | some (.tables ts) => if ps.isEmpty then es.find? p else lookup ps (ts.getLast?.getD [])
    | v => if ps.isEmpty then v else none

/-- A document while it is read. -/
structure Draft where
  root : Entries := []
  /-- The path of the last header; empty before the first. -/
  path : List String := []
  /-- Does the last header stand in double brackets? -/
  isRepeated : Bool := false
  /-- The entries under the last header. -/
  current : Entries := []

namespace Draft

/-- Put the table under the last header in its place. -/
def close (d : Draft) : Option Entries :=
  match d.path.getLast? with
  | none => some d.current
  | some key =>
    atPath d.path.dropLast (fun es =>
      if d.isRepeated then
        match es.find? key with
        | some (.tables ts) => some (es.replace key (.tables (ts ++ [d.current])))
        | _ => none
      else es.add key (.table .header d.current)) d.root

/-- A line with a key and its value. -/
def put (d : Draft) (path : List String) (key : String) (v : Value) : Option Draft :=
  (putDotted path key v d.current).map fun current => { d with current := current }

/-- A header.  The table must be new, or implied by longer headers. -/
def openTable (d : Draft) (path : List String) : Option Draft := do
  let root ← d.close
  let key ← path.getLast?
  let begun ← match lookup path root with
    | none => some []
    | some (.table .implied sub) => some sub
    | some _ => none
  -- an implied table is taken out here, and comes back behind the others when it is closed
  let root ← atPath path.dropLast (fun es => some (es.without key)) root
  return { root := root, path := path, isRepeated := false, current := begun }

/-- A header in double brackets. -/
def openRepeated (d : Draft) (path : List String) : Option Draft := do
  let root ← d.close
  let key ← path.getLast?
  let root ← atPath path.dropLast (fun es =>
    match es.find? key with
    | none => some (es ++ [(key, .tables [])])
    | some (.tables _) => some es
    | some _ => none) root
  return { root := root, path := path, isRepeated := true, current := [] }

end Draft

end TxRelay.Toml
