/-
  The program.

  It looks around, runs the command and prints.  It brings no connection of its own: every node
  is out of its reach, and a transaction gets the receipt of one that no node took.
-/
import TxRelay.Command
import TxRelay.Text.Uuid

namespace TxRelay

/-- Sixteen random bytes. -/
def randomChunk : IO (Chunk 16) := do
  let n ← IO.rand 0 (Nat.pow 256 16 - 1)
  return Bytes.chunk 16 n

/-- The file that the arguments name as the configuration, if it can be read. -/
def configFile (args : List String) : IO (Option Bytes) := do
  match (Invoked.ofArgs? args).bind Invoked.config with
  | none => return none
  | some path =>
    try
      return some (← IO.FS.readBinFile path).toList
    catch _ => return none

/-- What the program finds around it. -/
def lookAround (args : List String) : IO Surroundings := do
  let file ← configFile args
  let key ← IO.getEnv "TX_RELAY_PRIVATE_KEY"
  let ids ← args.mapM fun _ => randomChunk
  let clock ← IO.monoMsNow
  let thread ← IO.getTID
  return {
    file := fun _ => file
    key
    node := Rpc.Node.unreachable
    freshId := fun i => ⟨((ids[i]?).map Text.Uuid.ofRandom).getD ""⟩
    clock := clock / 1000
    arrivals := fun wait => if wait = 0 then 0 else args.length
    mainThread := thread.toNat
    sourceFile := "src/main.rs" }

end TxRelay

/-- Run the command that the arguments give. -/
def main (args : List String) : IO UInt32 := do
  let effect := TxRelay.runCommandLine (← TxRelay.lookAround args) args
  for line in effect.stdout do IO.println line
  for line in effect.errorLines do IO.eprintln line
  return effect.exitCode.toUInt32
