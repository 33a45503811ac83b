/-
  Combining classes.

  Marks of different classes stand at different places of the character they join, so their order
  means nothing.  The class 0 belongs to all that is no such mark.  The table speaks for the
  characters that a host may hold.
-/
import TxRelay.Unicode.Runs

namespace TxRelay.Unicode.CombiningClass

/-- The class that a tag stands for in the table: digits after a point, and nothing for 0. -/
def ofTag (tag : List Char) : Nat := Runs.hex (tag.drop 1)

/-- The classes of the code points. -/
def runs : Runs Nat := Runs.read ofTag
  "300 15.e6 1.e8 4.dc 1.e8 1.d8 5.dc 2.ca 4.dc 2.ca b.dc 5.1 4.dc a.e6 3.dc 3.e6 3.dc 3.e6 4.dc
  1.e6 1.e8 2.dc 1.e6 1.e9 2.ea 1.e9 2.ea 1.e9 e.e6 112 5.e6 109 1.dc 4.e6 1.dc 3.e6 1.de 1.dc
  6.e6 6.dc 2.e6 1.dc 2.e6 1.de 1.e4 1.e6 1.a 1.b 1.c 1.d 1.e 1.f 1.10 1.11 1.12 2.13 1.14 1.15
  1.16 1 1.17 1 1.18 1.19 1 1.e6 1.dc 1 9.12 40 8.e6 1.1e 1.1f 1.20 30 1.1b 1.1c 1.1d 1.1e 1.1f
  1.20 1.21 1.22 2.e6 2.dc 5.e6 1.dc 2.e6 1.dc 10 1.23 65 8.e6 1 4.e6 1.dc 1.e6 2 2.e6 1 1.dc 2.e6
  1.dc 23 1.24 1e 1.e6 1.dc 2.e6 1.dc 2.e6 3.dc 1.e6 2.dc 1.e6 1.dc 3.e6 1.dc 1.e6 1.dc 1.e6 1.dc
  1.e6 1.dc 4.e6 9e 7.e6 1.dc 1.e6 9 1.dc 18 4.e6 1 9.e6 1 3.e6 1 7.e6 29 5.dc 3a 1.e6 3.dc 4.e6
  2a 5.e6 5.dc f.e6 1.dc 2.e6 1.dc 2.e6 1.dc 3.e6 3.dc 1.1b 1.1c 1.1d 3.e6 1.dc 2.e6 2.dc 5.e6 3c
  1.7 10 1.9 3 1.e6 1.dc 2.e6 67 1.7 10 1.9 30 3.e6 3b 2.7 f 4.9 6b 1.7 10 3.9 6c 1.7 10 8.9 78
  3.9 6c 1.7 10 8.9 1.54 2.5b 64 1.7 10 8.9 66 2.9 10 1.9 7c 5.9 69 2.67 5.9 9 4.6b 6c 2.76 1.9 d
  4.7a 4c 2.dc 1b 1.dc 1 1.dc 1 1.d8 37 1.81 2.82 6.84 4.82 2 2.82 2.e6 1.9 1 2.e6 3e 1.dc 70 1.7
  1 2.9 52 1.dc 2cf 3.e6 3b4 b.9 15 1.9 9d 1.9 a 3.e6 c9 1.e4 8f 1.de 1.e6 5.dc d7 1.e6 1.dc 47
  1.9 14 a.e6 1.dc 30 5.e6 6.dc 2.e6 1.dc 1 2.dc 2.e6 2.dc 5.e6 1.dc 4.e6 65 1.7 f 1.9 26 1.e6
  1.dc 7.e6 36 2.9 3a 1.7 b a.9 3b 4.7 95 3.e6 1 1.1 5.dc 2.e6 4.dc 1.e6 1 7.1 4 1.dc 6 1.e6 3
  2.e6 c6 2.e6 1.dc 7.e6 1.dc 2.e6 1.ea 1.d6 1.dc 1.ca 25.e6 1.e8 2.e4 1.dc 1.da 1.e6 1.e9 1.dc
  1.e6 2.dc 2cf 2.e6 2.1 4.e6 3.1 2.e6 4 1.e6 3 2.1 1.e6 1.dc 1.e6 2.1 4.dc 14.e6 beb 4.e6 8c 1.9
  60 20.e6 22a 1.da 1.e4 1.e8 1.de 2.e0 69 4.8 75d2 1.e6 4 a.e6 20 2.e6 50 2.e6 114 1.9 25 4.9 94
  1.9 1b 12.e6 39 3.dc 25 c.9 54 1.7 c 1.9 ef 1.e6 1 2.e6 1.dc 2 2.e6 5 2.e6 1 1.e6 34 b.9 ec 3.9
  4f2e 94.1a 26e 7.e6 7.dc 17.e6 3b8 83.dc 60 1.dc 95 a.e6 68d 1.dc 1 1.e6 28 1.e6 1.1 5.dc 1.9 a5
  1.e6 5.dc 239 c.e6 17b 2.e6 50 3.dc 46 2.dc 3.e6 1.dc 1.e6 4.dc 31 1.e6 1.dc 1.e6 1.dc c0 1.9 29
  1.9 e 1.9 39 1.9 1.7 45 3.e6 30 3.9 3d 1.7 4c 1.9 9 1.7 6a 1.9 1.7 b2 1.7 6.9 4b 2.7 10 3.9 16
  1a.e6 c2 1.9 3 1.7 17 1.e6 63 1.9 1.7 fb 1.9 1.7 7e 1.9 76 1.9 1.7 73 5.9 109 1.9 1.7 102 2.9 4
  1.7 9c 1.9 53 1.9 12 9.9 49 1.9 1a5 1.9 102 1.7 1 2.9 51 1.9 1a9 2.9 4bad 5.1 3b 7.e6 4b9 2.6
  4cac 1.1 14c6 2.d8 3.1 3 1.e2 d.d8 8.dc 2 5.e6 2.dc 1e 4.e6 94 3.e6 dbb 100.e6 30 7.e6 177 12.e6
  2c 4.e6 1fc 2.e8 1.dc 1.e6 3e0 52.dc 22 6.e6 1.7 f16b5"

/-- The class of a character; no mark stands below U+0300. -/
def ofChar (c : Char) : Nat := if c.toNat < 0x300 then 0 else runs.get 0 c

/-- The class of the sign that silences the vowel of a letter. -/
def virama : Nat := 9

example : ofChar 'a' = 0 := by decide

end TxRelay.Unicode.CombiningClass
