/-
  Marks: the characters that join the one before them.

  The table speaks for the characters that a host may hold.
-/
import TxRelay.Unicode.Runs

namespace TxRelay.Unicode

/-- The runs outside and inside the marks. -/
def markRuns : Runs Bool := Runs.alternating
  "300 71 112 8 106 2d 1 1 1 2 1 2 1 9 40 b 30 15 10 1 65 8 1 6 2 2 1 4 23 1 1e 1d 59 b 3a 9 9 1 18
  4 1 9 1 3 1 7 29 5 39 9 2a 3a 36 3 1 12 1 f 2 2 1d 4 37 1 1 10 9 9 2 4 18 7 37 20 14 2 3 1 b 4
  37 1 1 12 12 4 14 b 37 1 1 21 3 4 1c 1 3b 12 7 f 1a 5 37 1 1 1a a 4 1b 3 38 1 1 1e 6 4 d 11 37 2
  1 10 9 1 a 4 1b 4 45 1c c 2 3d 1 2 b 8 8 62 1 2 9 b 8 48 2 1b 1 1 1 1 1 4 2 31 14 1 2 5 31 8 1
  64 14 17 4 4 3 1 3 2 7 3 4 d c 1 1 a 4 2bf 3 3b2 d 13 3 1d e 12 e 36 1e 9 3 a5 2 22 1 76 20 d7 7
  37 2b 30 55 2f 11 26 9 c 3 1e d 38 16 28 17 95 3 1 15 4 1 6 1 2 3 c6 41 2cf 34 beb 4 8c 1 60 20
  22a 6 69 4 75d2 4 1 a 20 2 50 2 110 1 3 1 4 1 17 5 4 4 50 2 32 1a 12 12 d 1 26 8 19 18 21 4 2f e
  24 1 43 17 3 1 8 4 2b 3 32 1 1 3 2 2 5 2 1 1 29 5 5 c e2 8 1 4 4f2e 94 26e 25 3b8 83 60 1 95 a
  681 f 28 8 a5 6 239 c 39 5 13d 2 4d 6 46 b 31 4 7a 3 35 f 29 1 2 2 a 4 2d b 7 e 30 3 24 f f 2 2c
  1 c 3 30 e 8 4 1 2 5c c 6 1 2 3f 5f 11 10 5 36 2 1 12 7 6 5 1e 3b 7 c 1 1 1 1 1 e 1f 35 12 17 1
  51 14 eb 12 1b 24 30 11 6a d 65 13 fc f f5 f 1 1 1 2 8d 10 3 1c 1 a 28 7 1 4 8 9 1 b 2e 10 c6 1
  1 3 1 1 c8 11 52 6e 31 15 1 9 3a e 15b 4 9 2 1 1 30 f 17 56 1490 1 6 19 2cbe c 3 3 9c0 5 3b 7
  418 1 1 42 51 e 4cab 2 1261 50 215 5 3 16 2 7 1e 4 94 3 7bb 37 4 32 8 1 e 1 16 465 100 100 30 7
  177 12 2c 4 1fc 4 fe 2 f3 1 2 1 7 2 5 9 1d2 52 22 7"

/-- Is `c` a mark?  None stands below U+0300. -/
def isMark (c : Char) : Bool := 0x300 ≤ c.toNat && markRuns.get false c

example : isMark 'a' = false := by decide

end TxRelay.Unicode
