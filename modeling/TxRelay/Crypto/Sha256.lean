/-
  The hash SHA-256 and the message code HMAC built on it.

  The state is eight 32-bit words.  A block of 64 bytes gives sixteen words, which a recurrence
  extends to sixty-four; each of them drives one round over the state, and the result is added to
  the state before the block.
-/
import TxRelay.Bytes

namespace TxRelay.Sha256

/-- The state. -/
structure State where
  a : UInt32
  b : UInt32
  c : UInt32
  d : UInt32
  e : UInt32
  f : UInt32
  g : UInt32
  h : UInt32
deriving DecidableEq, Repr

/-- The state before the first block. -/
def initial : State :=
  ⟨0x6a09e667, 0xbb67ae85, 0x3c6ef372, 0xa54ff53a, 0x510e527f, 0x9b05688c, 0x1f83d9ab, 0x5be0cd19⟩

/-- The constants of the rounds. -/
def constants : List UInt32 :=
  [0x428a2f98, 0x71374491, 0xb5c0fbcf, 0xe9b5dba5, 0x3956c25b, 0x59f111f1, 0x923f82a4, 0xab1c5ed5,
    0xd807aa98, 0x12835b01, 0x243185be, 0x550c7dc3, 0x72be5d74, 0x80deb1fe, 0x9bdc06a7, 0xc19bf174,
    0xe49b69c1, 0xefbe4786, 0x0fc19dc6, 0x240ca1cc, 0x2de92c6f, 0x4a7484aa, 0x5cb0a9dc, 0x76f988da,
    0x983e5152, 0xa831c66d, 0xb00327c8, 0xbf597fc7, 0xc6e00bf3, 0xd5a79147, 0x06ca6351, 0x14292967,
    0x27b70a85, 0x2e1b2138, 0x4d2c6dfc, 0x53380d13, 0x650a7354, 0x766a0abb, 0x81c2c92e, 0x92722c85,
    0xa2bfe8a1, 0xa81a664b, 0xc24b8b70, 0xc76c51a3, 0xd192e819, 0xd6990624, 0xf40e3585, 0x106aa070,
    0x19a4c116, 0x1e376c08, 0x2748774c, 0x34b0bcb5, 0x391c0cb3, 0x4ed8aa4a, 0x5b9cca4f, 0x682e6ff3,
    0x748f82ee, 0x78a5636f, 0x84c87814, 0x8cc70208, 0x90befffa, 0xa4506ceb, 0xbef9a3f7, 0xc67178f2]

/-- Turn a word to the right. -/
def rotate (w : UInt32) (n : UInt32) : UInt32 := w >>> n ||| w <<< (32 - n)

/-- One round with the sum of a constant and a word of the schedule. -/
def round (s : State) (kw : UInt32) : State :=
  let big1 := rotate s.e 6 ^^^ rotate s.e 11 ^^^ rotate s.e 25
  let choice := (s.e &&& s.f) ^^^ (~~~ s.e &&& s.g)
  let t1 := s.h + big1 + choice + kw
  let big0 := rotate s.a 2 ^^^ rotate s.a 13 ^^^ rotate s.a 22
  let majority := (s.a &&& s.b) ^^^ (s.a &&& s.c) ^^^ (s.b &&& s.c)
  ⟨t1 + (big0 + majority), s.a, s.b, s.c, s.d + t1, s.e, s.f, s.g⟩

/-- The word that follows sixteen words of the schedule. -/
def nextWord (ws : List UInt32) : UInt32 :=
  let w (i : Nat) : UInt32 := ws.getD i 0
  let small1 := rotate (w 14) 17 ^^^ rotate (w 14) 19 ^^^ w 14 >>> 10
  let small0 := rotate (w 1) 7 ^^^ rotate (w 1) 18 ^^^ w 1 >>> 3
  small1 + w 9 + small0 + w 0

/-- Rounds with a window of the sixteen words that come next. -/
def rounds : (constants : List UInt32) → (window : List UInt32) → State → State
  | [], _, s => s
  | k :: ks, ws, s => rounds ks (ws.drop 1 ++ [nextWord ws]) (round s (k + ws.headD 0))

/-- The word of four bytes. -/
def wordOfBytes (bs : Bytes) : UInt32 := bs.foldl (fun w b => w <<< 8 ||| b.toUInt32) 0

/-- The four bytes of a word. -/
def bytesOfWord (w : UInt32) : Bytes :=
  [(w >>> 24).toUInt8, (w >>> 16).toUInt8, (w >>> 8).toUInt8, w.toUInt8]

/-- So many words from the front. -/
def words : (count : Nat) → Bytes → List UInt32
  | 0, _ => []
  | k + 1, bs => wordOfBytes (bs.take 4) :: words k (bs.drop 4)

/-- The state after a block. -/
def compress (s : State) (block : Bytes) : State :=
  let t := rounds constants (words 16 block) s
  ⟨s.a + t.a, s.b + t.b, s.c + t.c, s.d + t.d, s.e + t.e, s.f + t.f, s.g + t.g, s.h + t.h⟩

/-- The state after so many blocks. -/
def compressAll : (blocks : Nat) → State → Bytes → State
  | 0, s, _ => s
  | k + 1, s, bs => compressAll k (compress s (bs.take 64)) (bs.drop 64)

/-- What is put behind a message of `n` bytes: a one, zeros, and the length in bits. -/
def padding (n : Nat) : Bytes :=
  0x80 :: List.replicate ((119 - n % 64) % 64) 0 ++ Bytes.ofNatWidth 8 (8 * n)

/-- The hash of a message. -/
def hash (message : Bytes) : Bytes :=
  let s := compressAll ((message.length + 9 + 63) / 64) initial (message ++ padding message.length)
  [s.a, s.b, s.c, s.d, s.e, s.f, s.g, s.h].flatMap bytesOfWord

/-- The message code under a key. -/
def hmac (key message : Bytes) : Bytes :=
  let key := if 64 < key.length then hash key else key
  let key := key ++ List.replicate (64 - key.length) 0
  hash (key.map (· ^^^ 0x5c) ++ hash (key.map (· ^^^ 0x36) ++ message))

end TxRelay.Sha256
