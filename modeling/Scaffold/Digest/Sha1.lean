/-
# SHA-1

The secure hash of FIPS 180-4 with twenty bytes of output.  A message is padded
to blocks of sixteen words of 32 bits, and the blocks are folded into a state
of five words.
-/
namespace Scaffold.Digest

/-- The five words of a state. -/
structure Sha1State where
  a : UInt32
  b : UInt32
  c : UInt32
  d : UInt32
  e : UInt32

namespace Sha1

def initial : Sha1State :=
  ⟨0x67452301, 0xEFCDAB89, 0x98BADCFE, 0x10325476, 0xC3D2E1F0⟩

def rotateLeft (w : UInt32) (n : UInt32) : UInt32 :=
  (w <<< n) ||| (w >>> (32 - n))

/-- The word of four bytes, the first one highest. -/
def word (a b c d : UInt8) : UInt32 :=
  (a.toUInt32 <<< 24) ||| (b.toUInt32 <<< 16) ||| (c.toUInt32 <<< 8) ||| d.toUInt32

def bytesOfWord (w : UInt32) : List UInt8 :=
  [(w >>> 24).toUInt8, (w >>> 16).toUInt8, (w >>> 8).toUInt8, w.toUInt8]

def wordsOfBytes : List UInt8 → List UInt32
  | a :: b :: c :: d :: r => word a b c d :: wordsOfBytes r
  | _ => []

/-- The lowest `count` bytes of a number, the highest first. -/
def bigEndian (count n : Nat) : List UInt8 :=
  (List.range count).map fun i => UInt8.ofNat (n >>> (8 * (count - 1 - i)))

/-- The message with the byte 0x80, zeros, and its length in bits, which is a
multiple of 64 bytes. -/
def pad (message : List UInt8) : List UInt8 :=
  let zeros := (119 - message.length % 64) % 64
  message ++ 0x80 :: List.replicate zeros 0 ++ bigEndian 8 (8 * message.length)

/-- The eighty words of a block: each new one mixes four earlier ones. -/
def schedule (block : Array UInt32) : Array UInt32 :=
  (List.range 64).foldl (fun w i =>
    let mixed := w.getD (i + 13) 0 ^^^ w.getD (i + 8) 0 ^^^ w.getD (i + 2) 0 ^^^ w.getD i 0
    w.push (rotateLeft mixed 1)) block

/-- The mixing function and the constant of a round. -/
def roundPart (s : Sha1State) (round : Nat) : UInt32 × UInt32 :=
  if round < 20 then ((s.b &&& s.c) ||| ((~~~s.b) &&& s.d), 0x5A827999)
  else if round < 40 then (s.b ^^^ s.c ^^^ s.d, 0x6ED9EBA1)
  else if round < 60 then
    ((s.b &&& s.c) ||| (s.b &&& s.d) ||| (s.c &&& s.d), 0x8F1BBCDC)
  else (s.b ^^^ s.c ^^^ s.d, 0xCA62C1D6)

def step (w : Array UInt32) (s : Sha1State) (round : Nat) : Sha1State :=
  let (f, k) := roundPart s round
  let next := rotateLeft s.a 5 + f + s.e + k + w.getD round 0
  ⟨next, s.a, rotateLeft s.b 30, s.c, s.d⟩

/-- Folds one block into the state. -/
def absorb (s : Sha1State) (block : Array UInt32) : Sha1State :=
  let t := (List.range 80).foldl (step (schedule block)) s
  ⟨s.a + t.a, s.b + t.b, s.c + t.c, s.d + t.d, s.e + t.e⟩

/-- Folds the next `count` blocks of sixteen words. -/
def absorbAll : Nat → Sha1State → List UInt32 → Sha1State
  | 0, s, _ => s
  | count + 1, s, ws => absorbAll count (absorb s (ws.take 16).toArray) (ws.drop 16)

end Sha1

/-- The SHA-1 hash of a message: twenty bytes. -/
def sha1 (message : List UInt8) : List UInt8 :=
  let padded := Sha1.pad message
  let s := Sha1.absorbAll (padded.length / 64) Sha1.initial (Sha1.wordsOfBytes padded)
  [s.a, s.b, s.c, s.d, s.e].flatMap Sha1.bytesOfWord

theorem length_sha1 (message : List UInt8) : (sha1 message).length = 20 := by
  simp [sha1, Sha1.bytesOfWord]

end Scaffold.Digest
