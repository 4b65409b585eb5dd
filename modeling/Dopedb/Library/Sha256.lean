import Mathlib.Data.Nat.Notation

/-!
# SHA-256

The hash function on lists of bytes, with words as natural numbers below `2 ^ 32`. The rounds
force each word before they go on, so that the kernel can evaluate a digest.
-/

namespace Dopedb.Library.Sha256

universe u

/-- Continue with an evaluated number. -/
def force {α : Type u} (n : Nat) (k : Nat → α) : α :=
  match n with
  | 0 => k 0
  | m + 1 => k (m + 1)

/-- The round constants. -/
def roundConstants : List Nat :=
  [0x428a2f98, 0x71374491, 0xb5c0fbcf, 0xe9b5dba5, 0x3956c25b, 0x59f111f1, 0x923f82a4, 0xab1c5ed5,
    0xd807aa98, 0x12835b01, 0x243185be, 0x550c7dc3, 0x72be5d74, 0x80deb1fe, 0x9bdc06a7, 0xc19bf174,
    0xe49b69c1, 0xefbe4786, 0x0fc19dc6, 0x240ca1cc, 0x2de92c6f, 0x4a7484aa, 0x5cb0a9dc, 0x76f988da,
    0x983e5152, 0xa831c66d, 0xb00327c8, 0xbf597fc7, 0xc6e00bf3, 0xd5a79147, 0x06ca6351, 0x14292967,
    0x27b70a85, 0x2e1b2138, 0x4d2c6dfc, 0x53380d13, 0x650a7354, 0x766a0abb, 0x81c2c92e, 0x92722c85,
    0xa2bfe8a1, 0xa81a664b, 0xc24b8b70, 0xc76c51a3, 0xd192e819, 0xd6990624, 0xf40e3585, 0x106aa070,
    0x19a4c116, 0x1e376c08, 0x2748774c, 0x34b0bcb5, 0x391c0cb3, 0x4ed8aa4a, 0x5b9cca4f, 0x682e6ff3,
    0x748f82ee, 0x78a5636f, 0x84c87814, 0x8cc70208, 0x90befffa, 0xa4506ceb, 0xbef9a3f7, 0xc67178f2]

/-- The greatest word. -/
def wordMask : Nat := 0xffffffff

/-- Rotate a word to the right. -/
def rotateRight (x n : Nat) : Nat := ((x >>> n) ||| (x <<< (32 - n))) &&& wordMask

/-- The eight working words. -/
structure State where
  a : Nat
  b : Nat
  c : Nat
  d : Nat
  e : Nat
  f : Nat
  g : Nat
  h : Nat

/-- The initial working words. -/
def initial : State :=
  ⟨0x6a09e667, 0xbb67ae85, 0x3c6ef372, 0xa54ff53a, 0x510e527f, 0x9b05688c, 0x1f83d9ab, 0x5be0cd19⟩

/-- One round with the sum of its constant and its schedule word. -/
def round (s : State) (input : Nat) : State :=
  let sum1 := rotateRight s.e 6 ^^^ rotateRight s.e 11 ^^^ rotateRight s.e 25
  let choice := (s.e &&& s.f) ^^^ ((s.e ^^^ wordMask) &&& s.g)
  let sum0 := rotateRight s.a 2 ^^^ rotateRight s.a 13 ^^^ rotateRight s.a 22
  let majority := (s.a &&& s.b) ^^^ (s.a &&& s.c) ^^^ (s.b &&& s.c)
  force (s.h + sum1 + choice + input) fun t =>
    force ((t + sum0 + majority) &&& wordMask) fun a =>
      force ((s.d + t) &&& wordMask) fun e => ⟨a, s.a, s.b, s.c, e, s.e, s.f, s.g⟩

/-- The schedule word that follows a window of sixteen. -/
def nextWord (window : List Nat) : Nat :=
  let w1 := window.getD 1 0
  let w14 := window.getD 14 0
  let small0 := rotateRight w1 7 ^^^ rotateRight w1 18 ^^^ (w1 >>> 3)
  let small1 := rotateRight w14 17 ^^^ rotateRight w14 19 ^^^ (w14 >>> 10)
  (window.getD 0 0 + small0 + window.getD 9 0 + small1) &&& wordMask

/-- The rounds of one block, sliding the window of schedule words. -/
def rounds : List Nat → List Nat → State → State
  | [], _, s => s
  | constant :: constants, window, s =>
    force (nextWord window) fun next =>
      match round s (constant + window.getD 0 0) with
      | ⟨a, b, c, d, e, f, g, h⟩ => rounds constants (window.tail ++ [next]) ⟨a, b, c, d, e, f, g, h⟩

/-- Add the words of a block's result to the words before it. -/
def addWords (s t : State) : State :=
  force ((s.a + t.a) &&& wordMask) fun a => force ((s.b + t.b) &&& wordMask) fun b =>
  force ((s.c + t.c) &&& wordMask) fun c => force ((s.d + t.d) &&& wordMask) fun d =>
  force ((s.e + t.e) &&& wordMask) fun e => force ((s.f + t.f) &&& wordMask) fun f =>
  force ((s.g + t.g) &&& wordMask) fun g => force ((s.h + t.h) &&& wordMask) fun h =>
    ⟨a, b, c, d, e, f, g, h⟩

/-- Big-endian words of a list of bytes. -/
def words : List Nat → List Nat
  | a :: b :: c :: d :: rest =>
    force (a * 2 ^ 24 + b * 2 ^ 16 + c * 2 ^ 8 + d) fun word => word :: words rest
  | _ => []

/-- The first blocks of sixteen words. -/
def blocks : Nat → List Nat → List (List Nat)
  | 0, _ => []
  | n + 1, ws => ws.take 16 :: blocks n (ws.drop 16)

/-- A message with its padding and its length in bits. -/
def pad (bytes : List Nat) : List Nat :=
  let bits := 8 * bytes.length
  bytes ++ [128] ++ List.replicate ((119 - bytes.length % 64) % 64) 0 ++
    (List.range 8).map fun i => (bits >>> (8 * (7 - i))) % 256

/-- The digest's words. -/
def digestWords (bytes : List Nat) : State :=
  let padded := pad bytes
  (blocks (padded.length / 64) (words padded)).foldl
    (fun s window => addWords s (rounds roundConstants window s)) initial

/-- The four bytes of a word. -/
def wordBytes (word : Nat) : List UInt8 :=
  [UInt8.ofNat (word >>> 24), UInt8.ofNat (word >>> 16), UInt8.ofNat (word >>> 8),
    UInt8.ofNat word]

/-- The 32 bytes of the digest. -/
def digest (bytes : List Nat) : Vector UInt8 32 :=
  let s := digestWords bytes
  ⟨(wordBytes s.a ++ wordBytes s.b ++ wordBytes s.c ++ wordBytes s.d ++ wordBytes s.e ++
    wordBytes s.f ++ wordBytes s.g ++ wordBytes s.h).toArray, rfl⟩

end Dopedb.Library.Sha256
