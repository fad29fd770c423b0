/-
The SHA-256 digest of a text.

A message is padded to whole blocks of 64 bytes; each block is spread into 64 words, and the chaining state of eight
words goes through one round a word.
-/
namespace DocumentModels.Digest

/-- the eight words that are carried from block to block -/
structure Chain where
  a : UInt32
  b : UInt32
  c : UInt32
  d : UInt32
  e : UInt32
  f : UInt32
  g : UInt32
  h : UInt32

namespace Chain

def words (s : Chain) : List UInt32 := [s.a, s.b, s.c, s.d, s.e, s.f, s.g, s.h]

def add (s t : Chain) : Chain :=
  ⟨s.a + t.a, s.b + t.b, s.c + t.c, s.d + t.d, s.e + t.e, s.f + t.f, s.g + t.g, s.h + t.h⟩

/-- the words before the first block -/
def initial : Chain :=
  ⟨0x6a09e667, 0xbb67ae85, 0x3c6ef372, 0xa54ff53a, 0x510e527f, 0x9b05688c, 0x1f83d9ab, 0x5be0cd19⟩

end Chain

def roundConstants : List UInt32 :=
  [0x428a2f98, 0x71374491, 0xb5c0fbcf, 0xe9b5dba5, 0x3956c25b, 0x59f111f1, 0x923f82a4, 0xab1c5ed5,
   0xd807aa98, 0x12835b01, 0x243185be, 0x550c7dc3, 0x72be5d74, 0x80deb1fe, 0x9bdc06a7, 0xc19bf174,
   0xe49b69c1, 0xefbe4786, 0x0fc19dc6, 0x240ca1cc, 0x2de92c6f, 0x4a7484aa, 0x5cb0a9dc, 0x76f988da,
   0x983e5152, 0xa831c66d, 0xb00327c8, 0xbf597fc7, 0xc6e00bf3, 0xd5a79147, 0x06ca6351, 0x14292967,
   0x27b70a85, 0x2e1b2138, 0x4d2c6dfc, 0x53380d13, 0x650a7354, 0x766a0abb, 0x81c2c92e, 0x92722c85,
   0xa2bfe8a1, 0xa81a664b, 0xc24b8b70, 0xc76c51a3, 0xd192e819, 0xd6990624, 0xf40e3585, 0x106aa070,
   0x19a4c116, 0x1e376c08, 0x2748774c, 0x34b0bcb5, 0x391c0cb3, 0x4ed8aa4a, 0x5b9cca4f, 0x682e6ff3,
   0x748f82ee, 0x78a5636f, 0x84c87814, 0x8cc70208, 0x90befffa, 0xa4506ceb, 0xbef9a3f7, 0xc67178f2]

/-- rotate a word to the right, by 1 to 31 places -/
def rotate (x : UInt32) (places : UInt32) : UInt32 := (x >>> places) ||| (x <<< (32 - places))

/-- the next word of a schedule whose last sixteen words are given, latest first -/
def nextWord (recent : List UInt32) : UInt32 :=
  let near := recent.getD 1 0
  let far := recent.getD 14 0
  let small0 := rotate far 7 ^^^ rotate far 18 ^^^ (far >>> 3)
  let small1 := rotate near 17 ^^^ rotate near 19 ^^^ (near >>> 10)
  recent.getD 15 0 + small0 + recent.getD 6 0 + small1

/-- extend a schedule, latest word first, by a number of words -/
def extend : Nat → List UInt32 → List UInt32
  | 0, words => words
  | count + 1, words => extend count (nextWord words :: words)

/-- one round: its constant and its word -/
def round (s : Chain) (input : UInt32 × UInt32) : Chain :=
  let big1 := rotate s.e 6 ^^^ rotate s.e 11 ^^^ rotate s.e 25
  let choice := (s.e &&& s.f) ^^^ ((s.e ^^^ 0xffffffff) &&& s.g)
  let t1 := s.h + big1 + choice + input.1 + input.2
  let big0 := rotate s.a 2 ^^^ rotate s.a 13 ^^^ rotate s.a 22
  let majority := (s.a &&& s.b) ^^^ (s.a &&& s.c) ^^^ (s.b &&& s.c)
  ⟨t1 + (big0 + majority), s.a, s.b, s.c, s.d + t1, s.e, s.f, s.g⟩

/-- take in a block of sixteen words -/
def compress (s : Chain) (block : List UInt32) : Chain :=
  let schedule := (extend 48 block.reverse).reverse
  s.add ((roundConstants.zip schedule).foldl round s)

/-- a word of four bytes, the highest first -/
def word (bytes : List UInt8) : UInt32 := bytes.foldl (fun w byte => w <<< 8 ||| byte.toUInt32) 0

/-- cut a list into pieces of a positive length; the last one may be shorter -/
def pieces (length : Nat) : List α → List (List α)
  | [] => []
  | x :: rest => (x :: rest.take (length - 1)) :: pieces length (rest.drop (length - 1))
termination_by list => list.length
decreasing_by
  simp only [List.length_drop, List.length_cons]
  omega

/-- a number as bytes, the highest first -/
def bigEndian : Nat → Nat → List UInt8
  | 0, _ => []
  | count + 1, n => bigEndian count (n / 256) ++ [UInt8.ofNat n]

/-- a message with its end mark and length, filled up to whole blocks -/
def padded (message : List UInt8) : List UInt8 :=
  let fill := (119 - message.length % 64) % 64
  message ++ 0x80 :: List.replicate fill 0 ++ bigEndian 8 (8 * message.length)

def byteHex (byte : UInt8) : List Char :=
  [(Nat.toDigits 16 (byte.toNat / 16)).headD '0', (Nat.toDigits 16 (byte.toNat % 16)).headD '0']

def sha256 (message : List UInt8) : String :=
  let blocks := pieces 16 ((pieces 4 (padded message)).map word)
  let chain := blocks.foldl compress .initial
  String.ofList (chain.words.flatMap fun w => (bigEndian 4 w.toNat).flatMap byteHex)

/-- checksum of a text: the digest of its UTF-8 bytes -/
def checksum (text : String) : String := sha256 text.toUTF8.toList

/-- the first twelve digits, for report lines -/
def short (checksum : String) : String := String.ofList (checksum.toList.take 12)

def verify (sum text : String) : Bool := sum == checksum text

end DocumentModels.Digest
