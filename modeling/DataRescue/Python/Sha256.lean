import Mathlib.Data.List.GetD

/-!
# SHA-256

`hashlib.sha256(data).hexdigest()`: the hash function on byte lists, with words as numbers below
`2 ^ 32`. A digest is 64 lower-case hexadecimal digits (`hexdigest_digits`).
-/

namespace DataRescue.Python.Sha256

def word (n : Nat) : Nat := n % 4294967296

def rotateRight (x n : Nat) : Nat := (x >>> n) ||| word (x <<< (32 - n))

/-- The fractional parts of the cube roots of the first 64 primes. -/
def roundConstants : List Nat :=
  [0x428a2f98, 0x71374491, 0xb5c0fbcf, 0xe9b5dba5, 0x3956c25b, 0x59f111f1, 0x923f82a4, 0xab1c5ed5,
   0xd807aa98, 0x12835b01, 0x243185be, 0x550c7dc3, 0x72be5d74, 0x80deb1fe, 0x9bdc06a7, 0xc19bf174,
   0xe49b69c1, 0xefbe4786, 0x0fc19dc6, 0x240ca1cc, 0x2de92c6f, 0x4a7484aa, 0x5cb0a9dc, 0x76f988da,
   0x983e5152, 0xa831c66d, 0xb00327c8, 0xbf597fc7, 0xc6e00bf3, 0xd5a79147, 0x06ca6351, 0x14292967,
   0x27b70a85, 0x2e1b2138, 0x4d2c6dfc, 0x53380d13, 0x650a7354, 0x766a0abb, 0x81c2c92e, 0x92722c85,
   0xa2bfe8a1, 0xa81a664b, 0xc24b8b70, 0xc76c51a3, 0xd192e819, 0xd6990624, 0xf40e3585, 0x106aa070,
   0x19a4c116, 0x1e376c08, 0x2748774c, 0x34b0bcb5, 0x391c0cb3, 0x4ed8aa4a, 0x5b9cca4f, 0x682e6ff3,
   0x748f82ee, 0x78a5636f, 0x84c87814, 0x8cc70208, 0x90befffa, 0xa4506ceb, 0xbef9a3f7, 0xc67178f2]

structure State where
  a : Nat
  b : Nat
  c : Nat
  d : Nat
  e : Nat
  f : Nat
  g : Nat
  h : Nat

/-- The fractional parts of the square roots of the first 8 primes. -/
def initial : State :=
  ⟨0x6a09e667, 0xbb67ae85, 0x3c6ef372, 0xa54ff53a, 0x510e527f, 0x9b05688c, 0x1f83d9ab, 0x5be0cd19⟩

def State.words (s : State) : List Nat := [s.a, s.b, s.c, s.d, s.e, s.f, s.g, s.h]

def State.add (s t : State) : State :=
  ⟨word (s.a + t.a), word (s.b + t.b), word (s.c + t.c), word (s.d + t.d), word (s.e + t.e),
   word (s.f + t.f), word (s.g + t.g), word (s.h + t.h)⟩

/-- One round, with round constant `k` and schedule word `w`. -/
def State.round (s : State) (k w : Nat) : State :=
  let sum1 := rotateRight s.e 6 ^^^ rotateRight s.e 11 ^^^ rotateRight s.e 25
  let choice := (s.e &&& s.f) ^^^ ((4294967295 - s.e) &&& s.g)
  let t1 := s.h + sum1 + choice + k + w
  let sum0 := rotateRight s.a 2 ^^^ rotateRight s.a 13 ^^^ rotateRight s.a 22
  let majority := (s.a &&& s.b) ^^^ (s.a &&& s.c) ^^^ (s.b &&& s.c)
  ⟨word (t1 + sum0 + majority), s.a, s.b, s.c, word (s.d + t1), s.e, s.f, s.g⟩

/-- The schedule word sixteen places after the head of the window. -/
def scheduleWord (window : List Nat) : Nat :=
  let x := window.getD 1 0
  let y := window.getD 14 0
  let small0 := rotateRight x 7 ^^^ rotateRight x 18 ^^^ (x >>> 3)
  let small1 := rotateRight y 17 ^^^ rotateRight y 19 ^^^ (y >>> 10)
  word (window.getD 0 0 + small0 + window.getD 9 0 + small1)

/-- The rounds of one block over a sliding window of sixteen schedule words. -/
def rounds : List Nat → List Nat → State → State
  | [], _, s => s
  | k :: constants, window, s =>
    rounds constants (window.drop 1 ++ [scheduleWord window]) (s.round k (window.getD 0 0))

def compress (s : State) (block : List Nat) : State := s.add (rounds roundConstants block s)

/-- Big-endian words of a byte list. -/
def toWords : List UInt8 → List Nat
  | a :: b :: c :: d :: rest =>
    (a.toNat * 16777216 + b.toNat * 65536 + c.toNat * 256 + d.toNat) :: toWords rest
  | _ => []

/-- The padded message, as words. -/
def padded (data : List UInt8) : List Nat :=
  let bits := data.length * 8
  toWords (data ++ 128 :: List.replicate ((119 - data.length % 64) % 64) 0) ++
    [word (bits / 4294967296), word bits]

/-- Compress `count` blocks of sixteen words. -/
def digestBlocks : Nat → List Nat → State → State
  | 0, _, s => s
  | count + 1, words, s => digestBlocks count (words.drop 16) (compress s (words.take 16))

def digest (data : List UInt8) : List Nat :=
  let words := padded data
  (digestBlocks (words.length / 16) words initial).words

def hexDigits : List Char := "0123456789abcdef".toList

/-- Eight hexadecimal digits of a word. -/
def hexWord (n : Nat) : List Char :=
  [28, 24, 20, 16, 12, 8, 4, 0].map fun shift => hexDigits.getD ((n >>> shift) % 16) '0'

end Sha256

/-- `hashlib.sha256(data).hexdigest()`. -/
def sha256Hexdigest (data : List UInt8) : String :=
  String.ofList ((Sha256.digest data).flatMap Sha256.hexWord)

/-- Sixty-four lower-case hexadecimal digits. -/
def IsHexDigest (text : String) : Prop :=
  text.length = 64 ∧ ∀ c ∈ text.toList, c ∈ Sha256.hexDigits

theorem Sha256.hexWord_mem {n : Nat} {c : Char} (h : c ∈ hexWord n) : c ∈ hexDigits := by
  simp only [hexWord, List.mem_map] at h
  obtain ⟨shift, -, rfl⟩ := h
  have hlt : n >>> shift % 16 < hexDigits.length := Nat.mod_lt _ (by decide)
  rw [List.getD_eq_getElem _ _ hlt]
  exact List.getElem_mem hlt

theorem hexdigest_digits (data : List UInt8) : IsHexDigest (sha256Hexdigest data) := by
  constructor
  · simp [sha256Hexdigest, Sha256.digest, Sha256.State.words, Sha256.hexWord]
  · intro c hc
    simp only [sha256Hexdigest, String.toList_ofList, List.mem_flatMap] at hc
    obtain ⟨_, -, hc⟩ := hc
    exact Sha256.hexWord_mem hc

example : sha256Hexdigest [97, 98, 99] =
    "ba7816bf8f01cfea414140de5dae2223b00361a396177a9cb410ff61f20015ad" := by decide +kernel

end DataRescue.Python
