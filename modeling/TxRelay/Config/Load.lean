/-
  Loading settings from a file.

  The file's bytes have to be UTF-8 and TOML, every known key in it has to fit, and the settings
  have to keep the rules.
-/
import TxRelay.Config.Check
import TxRelay.Config.Read

namespace TxRelay.Config

/-- Why settings cannot be loaded. -/
inductive LoadError where
  | noFile
  | notUtf8
  | notToml
  | mismatch (m : Mismatch)
  | invalid (vs : List Violation)

namespace LoadError

/-- The wording of an error, if it has one: about a text that is no TOML there is none. -/
def message? : LoadError → Option String
  | noFile => some "IO error: No such file or directory (os error 2)"
  | notUtf8 => some "IO error: stream did not contain valid UTF-8"
  | notToml => none
  | mismatch m => some m.message
  | invalid vs => some (violationsMessage vs)

/-- The error as developers see it; errors of the file's form are shown without their detail. -/
def debugForm : LoadError → String
  | noFile =>
    "Io(Os \x7b code: 2, kind: NotFound, message: " ++ Text.quoted "No such file or directory" ++
      " \x7d)"
  | notUtf8 =>
    "Io(Error \x7b kind: InvalidData, message: " ++
      Text.quoted "stream did not contain valid UTF-8" ++ " \x7d)"
  | notToml | mismatch _ => "Parse"
  | invalid vs => "Validation([" ++ ", ".intercalate (vs.map Violation.debugForm) ++ "])"

end LoadError

/-- Settings that keep the rules. -/
def checked (c : Config) : Except LoadError Config :=
  match c.check with
  | [] => .ok c
  | vs => .error (.invalid vs)

/-- The settings in a text. -/
def ofText (s : String) : Except LoadError Config :=
  match Toml.parse s with
  | none => .error .notToml
  | some es =>
    match ofToml es with
    | .error m => .error (.mismatch m)
    | .ok c => checked c

/-- The settings in a file, if it exists. -/
def load (file : Option Bytes) : Except LoadError Config :=
  match file with
  | none => .error .noFile
  | some bytes =>
    match String.fromUTF8? ⟨bytes.toArray⟩ with
    | none => .error .notUtf8
    | some s => ofText s

end TxRelay.Config
