/-
Module: Lectern.Digest.Sha256
Purpose: The SHA-256 digest of a byte string.
Main exports: Sha256.digest
-/
import Lectern.Text.Utf8

namespace Lectern.Digest.Sha256

/-- A word of the digest's arithmetic. -/
abbrev Word := UInt32

/-- Rotate a word to the right. -/
@[inline] def rotate (word : Word) (count : Word) : Word :=
  (word >>> count) ||| (word <<< (32 - count))

/-- The constant of each round. -/
def roundConstants : List Word :=
  [0x428A2F98, 0x71374491, 0xB5C0FBCF, 0xE9B5DBA5, 0x3956C25B, 0x59F111F1, 0x923F82A4,
   0xAB1C5ED5, 0xD807AA98, 0x12835B01, 0x243185BE, 0x550C7DC3, 0x72BE5D74, 0x80DEB1FE,
   0x9BDC06A7, 0xC19BF174, 0xE49B69C1, 0xEFBE4786, 0x0FC19DC6, 0x240CA1CC, 0x2DE92C6F,
   0x4A7484AA, 0x5CB0A9DC, 0x76F988DA, 0x983E5152, 0xA831C66D, 0xB00327C8, 0xBF597FC7,
   0xC6E00BF3, 0xD5A79147, 0x06CA6351, 0x14292967, 0x27B70A85, 0x2E1B2138, 0x4D2C6DFC,
   0x53380D13, 0x650A7354, 0x766A0ABB, 0x81C2C92E, 0x92722C85, 0xA2BFE8A1, 0xA81A664B,
   0xC24B8B70, 0xC76C51A3, 0xD192E819, 0xD6990624, 0xF40E3585, 0x106AA070, 0x19A4C116,
   0x1E376C08, 0x2748774C, 0x34B0BCB5, 0x391C0CB3, 0x4ED8AA4A, 0x5B9CCA4F, 0x682E6FF3,
   0x748F82EE, 0x78A5636F, 0x84C87814, 0x8CC70208, 0x90BEFFFA, 0xA4506CEB, 0xBEF9A3F7,
   0xC67178F2]

/-- The working state of eight words. -/
structure State where
  a : Word
  b : Word
  c : Word
  d : Word
  e : Word
  f : Word
  g : Word
  h : Word
  deriving DecidableEq, Repr, Inhabited

/-- The state before the first block. -/
def State.start : State :=
  ⟨0x6A09E667, 0xBB67AE85, 0x3C6EF372, 0xA54FF53A,
    0x510E527F, 0x9B05688C, 0x1F83D9AB, 0x5BE0CD19⟩

/-- One round with its constant and its word of the schedule. -/
def round (s : State) (input : Word) : State :=
  let mixed := rotate s.e 6 ^^^ rotate s.e 11 ^^^ rotate s.e 25
  let choice := (s.e &&& s.f) ^^^ ((~~~ s.e) &&& s.g)
  let first := s.h + mixed + choice + input
  let spread := rotate s.a 2 ^^^ rotate s.a 13 ^^^ rotate s.a 22
  let majority := (s.a &&& s.b) ^^^ (s.a &&& s.c) ^^^ (s.b &&& s.c)
  ⟨first + (spread + majority), s.a, s.b, s.c, s.d + first, s.e, s.f, s.g⟩

/-- Extend the words of a block by `count` further ones. -/
def extend : Nat → Array Word → Array Word
  | 0, words => words
  | count + 1, words =>
    let back := fun distance => words.getD (words.size - distance) 0
    let low := rotate (back 15) 7 ^^^ rotate (back 15) 18 ^^^ (back 15 >>> 3)
    let high := rotate (back 2) 17 ^^^ rotate (back 2) 19 ^^^ (back 2 >>> 10)
    extend count (words.push (back 16 + low + back 7 + high))

/-- The word at a byte offset, most significant byte first. -/
def wordAt (bytes : ByteArray) (offset : Nat) : Word :=
  (List.range 4).foldl (fun word k =>
    (word <<< 8) ||| ((Text.Utf8.byteAt bytes (offset + k)).toUInt32)) 0

/-- Absorb the block at a byte offset. -/
def absorb (bytes : ByteArray) (offset : Nat) (s : State) : State :=
  let block := ((List.range 16).map fun k => wordAt bytes (offset + 4 * k)).toArray
  let inputs := (roundConstants.zip (extend 48 block).toList).map fun (k, w) => k + w
  let t := inputs.foldl round s
  ⟨s.a + t.a, s.b + t.b, s.c + t.c, s.d + t.d, s.e + t.e, s.f + t.f, s.g + t.g, s.h + t.h⟩

/-- Absorb some blocks in order. -/
def absorbAll (bytes : ByteArray) : Nat → Nat → State → State
  | 0, _, s => s
  | count + 1, offset, s => absorbAll bytes count (offset + 64) (absorb bytes offset s)

/-- The `count` least significant bytes of a number, most significant first. -/
def bigEndian (count value : Nat) : List UInt8 :=
  (List.range count).reverse.map fun k => UInt8.ofNat (value / Nat.pow 256 k)

/-- A message padded to whole blocks: a marker bit, zeros and the length in bits. -/
def pad (message : ByteArray) : ByteArray :=
  let zeros := (55 + 64 - message.size % 64) % 64
  message ++ ⟨((0x80 :: List.replicate zeros 0) ++ bigEndian 8 (8 * message.size)).toArray⟩

/-- The digest of a message, as bytes. -/
def digest (message : ByteArray) : List UInt8 :=
  let padded := pad message
  let s := absorbAll padded (padded.size / 64) 0 State.start
  [s.a, s.b, s.c, s.d, s.e, s.f, s.g, s.h].flatMap fun word => bigEndian 4 word.toNat

end Lectern.Digest.Sha256
