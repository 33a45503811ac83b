/-
  Joining of letters, as in the Arabic script.

  The table speaks for the characters that a host may hold.
-/
import TxRelay.Unicode.Runs

namespace TxRelay.Unicode

/-- On which sides a character joins its neighbours. -/
inductive JoiningType where
  | none
  | left
  | right
  | dual
  /-- The character is passed over: its neighbours join as if it were not there. -/
  | transparent
deriving DecidableEq, Repr

namespace JoiningType

/-- The type that a letter stands for in the table. -/
def ofTag : List Char → JoiningType
  | ['L'] => .left
  | ['R'] => .right
  | ['D'] => .dual
  | ['T'] => .transparent
  | _ => .none

/-- The types of the code points. -/
def runs : Runs JoiningType := Runs.read ofTag
  "300U 71T 112U 8T 106U 2dT 1U 1T 1U 2T 1U 2T 1U 9T 40U bT 5U 1D 1U 4R 1D 1R 1D 1R 5D 4R dD 1U 7D
  1R 2D 15T eU 2D 1T 3R 5U fD 12R 26D 1R 2D 9R 1D 1R 1D 1R 2D 2R 1U 1R 8T 1U 6T 2U 2T 1U 4T 2R aU
  3D 2U 1D 10U 1R 1T 3D 5R 4D 1R 9D 1R 1D 1R 1D 1R 2D 1R 1dT 1R bD 3R fD 2R 4D 1R 1D 2R 3D 2R 6D
  26U bT 19U 21D 9T 9U 1T 18U 4T 1U 9T 1U 3T 1U 7T 10U 1R 5D 2R 1D 1R aD 1R 1D 3R 5T 2U 1D 1U 4D
  1U 1R 1D 1aR 3U 1D 2U 5D 1R 8D 9T aD 3R 1U 1R 2D 2R 6D 1R fD 1U 39T 37U 1T 1U 1T 4U 8T 4U 1T 3U
  fT 2U 2T 1dU 1T 3aU 1T 4U 6T 6U 1T 14U 4T 18U 5T 39U 2T 3U 1bT 14U 2T 3U 1T bU 2T 39U 1T 4U 8T
  4U 3T 12U 4T 14U 8T 3aU 1T 2U 1T 1U 6T 6U aT bU 4T 1cU 1T 3dU 1T cU 3T 30U 1T 3U 1T 37U 1T 1U 3T
  5U 12T aU 4T 1bU 1T 3aU 1T 2U 1T 6U 1T 5U 9T dU 4T 1aU 2T 39U 2T 4U 5T 7U 1T 14U 4T 1bU 1T 48U
  5T 3U 6T 59U 1T 2U bT 8U 8T 62U 1T 2U 9T bU 8T 48U 2T 1bU 1T 1U 1T 1U 1T 37U eT 1U 5T 1U 2T 5U
  31T 8U 1T 66U 4T 1U 6T 1U 2T 2U 2T 19U 2T 4U 3T 10U 4T dU 1T 2U 2T 6U 1T fU 1T 2bfU 3T 3b2U 3T
  1dU 2T 1eU eT 12U eT 37U 7T 8U 1T 2U bT 9U 3T 27U 1D 18U 60D 5U 2T 22D 1T 6D 70U 3T 4U 2T 9U 1T
  6U 7T d7U 2T 2U 3T 38U 1T 1U 9T 1U 1T 2U 8T 6U dT 30U 54T 30U 1T 1U 5T 1U 1T 5U 1T 28U 9T cU 2T
  20U 4T 2U 2T 1U 3T 38U 1T 1U 2T 3U 1T 1U 3T 3aU 8T 2U 5T 95U 3T 1U dT 1U 7T 4U 1T 6U 1T 3U 2T
  c6U 41T 2cfU 34T bebU 4T 8cU 1T 60U 20T 22aU 4T 6bU 4T 75d2U 4T 1U aT 20U 2T 50U 2T 110U 1T 3U
  1T 4U 1T 19U 2T 5U 4T 10U 32D 1L 51U aT 12U 12T dU 1T 26U 8T 19U bT 2eU 3T 30U 1T 2U 4T 2U 2T
  27U 1T 43U 6T 2U 2T 2U bT 3U 1T 8U 1T 2fU 1T 33U 1T 1U 3T 2U 2T 5U 2T 1U 1T 2aU 2T 8U bT e4U 1T
  2U 1T 4U 3T 4f2eU 94T 26eU 25T 3b8U 83T 60U 1T 95U aT 681U fT 28U 8T 80U 5D 1R 1U 1R 1U 2R 2U 1L
  5R 4D 1L 5D 1R 3D 1R 2U 1R 6T 4D 1R 90U 1D 1R 1D 3R 3D 1R 2D 1R 1D 2R 1D 8R 10U 4R 2D 151U 1L
  21D 1R 1D cT 39U 5T 13dU 2T 15U 1R 2D 1U aD 2aU 6T 30U 3D 1R 11D 1U bT 3D 1R 1bU 4D 2R cD 4T 2aU
  1D 1U 2D 3R 1U 1D 2R 2D 1R 2D 1U 1D 2R 1D 4U 1R 1D 15L 21U 1T 36U fT 29U 1T 2U 2T aU 3T 31U 4T
  2U 2T 7U eT 30U 3T 24U 5T 1U 9T 3dU 1T cU 2T 34U 9T aU 4T 2U 1T 5fU 3T 2U 1T 1U 2T 6U 1T 2U 3fT
  5fU 1T 3U dT 10U 2T 39U 2T 3U 1T 25U 1aT 3bU 7T cU 1T 1U 1T 1U 1T eU 1fT 38U 8T 2U 3T 1U 1T 17U
  1T 54U 6T 1U 1T 4U 2T 1U 2T eeU 6T 4U 2T 1U 2T 1bU 24T 33U 8T 2U 1T 1U 2T 6aU 1T 1U 1T 2U 6T 1U
  1T 65U 1T 1U 1T 2U 4T 1U 9T ffU 9T 1U 2T 100U 2T 1U 1T 4U 1T 90U 8T 4U 1T 20U aT 28U 6T 2U 4T 8U
  9T 1U 6T 2U 3T 2eU dT 1U 2T c6U 1T 1U 3T 1U 1T c9U eT 1U 1T 52U 17T 1U 7T 1U 2T 1U 4bT 31U 15T
  1U 9T 40U 3T 2U 1T 1U 1T 15bU 2T bU 2T 34U 8T 2U 1T 1U 1T 17U 56T 1490U 1T 6U 19T 2cbeU cT 3U 3T
  9c0U 5T 3bU 7T 418U 1T 3fU 4T 51U cT 4cadU 2T 1261U 50T 217U 3T 11U 8T 2U 7T 1eU 4T 94U 3T 7bbU
  37T 4U 32T 8U 1T eU 1T 16U 465T 100U 100T 30U 7T 177U 12T 2cU 4T 1fcU 4T feU 2T f3U 1T 2U 1T 7U
  2T 5U 9T 1d2U 52T 22D cT f16b0U"

/-- The type of a character. -/
def ofChar (c : Char) : JoiningType := runs.get .none c

end JoiningType

end TxRelay.Unicode
