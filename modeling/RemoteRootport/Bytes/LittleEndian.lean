import Mathlib.Data.Nat.Basic
import Mathlib.Tactic.Ring

/-!
# Little-endian words

Object representations on a little-endian host.  A natural number is written as
a fixed count of bytes, least significant first, and a fixed-width word is read
back from any byte list.  Everything above this module (records on a wire,
byte-addressed buffers) moves bytes only through these two directions.
-/

namespace RemoteRootport.Bytes

/-- One octet. -/
abbrev Byte := BitVec 8

/-- The `count` low bytes of a natural number, least significant first. -/
def leBytes : (count : Nat) → Nat → List Byte
  | 0, _ => []
  | count + 1, value => BitVec.ofNat 8 value :: leBytes count (value / 256)

/-- The natural number a byte list spells, least significant byte first. -/
def leNat : List Byte → Nat
  | [] => 0
  | byte :: rest => byte.toNat + 256 * leNat rest

@[simp] theorem length_leBytes (count value : Nat) :
    (leBytes count value).length = count := by
  induction count generalizing value with
  | zero => rfl
  | succ count ih => simp only [leBytes, List.length_cons, ih]

theorem leNat_leBytes (count value : Nat) :
    leNat (leBytes count value) = value % 256 ^ count := by
  induction count generalizing value with
  | zero => simp [leBytes, leNat, Nat.mod_one]
  | succ count ih =>
      have split : value % 256 ^ (count + 1) =
          value % 256 + 256 * (value / 256 % 256 ^ count) := by
        rw [Nat.pow_succ', Nat.mod_mul]
      simp only [leBytes, leNat, BitVec.toNat_ofNat, ih, split, Nat.reducePow]

theorem leBytes_leNat (bytes : List Byte) :
    leBytes bytes.length (leNat bytes) = bytes := by
  induction bytes with
  | nil => rfl
  | cons byte rest ih =>
      have byteBound : byte.toNat < 256 := byte.isLt
      have quotient : (byte.toNat + 256 * leNat rest) / 256 = leNat rest := by omega
      simp only [List.length_cons, leBytes, leNat, quotient, ih, List.cons.injEq, and_true]
      apply BitVec.eq_of_toNat_eq
      rw [BitVec.toNat_ofNat]
      omega

theorem leNat_lt (bytes : List Byte) : leNat bytes < 256 ^ bytes.length := by
  induction bytes with
  | nil => simp [leNat]
  | cons byte rest ih =>
      have byteBound : byte.toNat < 256 := byte.isLt
      simp only [leNat, List.length_cons, Nat.pow_succ]
      omega

/-- Object representation of a word in `count` bytes. -/
def wordBytes {width : Nat} (count : Nat) (word : BitVec width) : List Byte :=
  leBytes count word.toNat

/-- The word read from a byte list. -/
def wordOf (width : Nat) (bytes : List Byte) : BitVec width :=
  BitVec.ofNat width (leNat bytes)

@[simp] theorem length_wordBytes {width : Nat} (count : Nat) (word : BitVec width) :
    (wordBytes count word).length = count :=
  length_leBytes count word.toNat

/-- A word survives the trip through its object representation as soon as the
byte count covers its width. -/
theorem wordOf_wordBytes {width : Nat} (count : Nat) (covers : width ≤ 8 * count)
    (word : BitVec width) : wordOf width (wordBytes count word) = word := by
  apply BitVec.eq_of_toNat_eq
  have powers : 256 ^ count = 2 ^ (8 * count) := by
    rw [Nat.pow_mul]
  have wordBound : word.toNat < 256 ^ count := by
    rw [powers]
    exact Nat.lt_of_lt_of_le word.isLt (Nat.pow_le_pow_right (by decide) covers)
  rw [wordOf, wordBytes, leNat_leBytes, BitVec.toNat_ofNat,
    Nat.mod_eq_of_lt wordBound, Nat.mod_eq_of_lt word.isLt]

/-- Bytes survive the trip through a word that is exactly as wide as they are. -/
theorem wordBytes_wordOf (width : Nat) (bytes : List Byte)
    (exactly : width = 8 * bytes.length) :
    wordBytes bytes.length (wordOf width bytes) = bytes := by
  have powers : 256 ^ bytes.length = 2 ^ width := by
    rw [exactly, Nat.pow_mul]
  have bound : leNat bytes < 2 ^ width := powers ▸ leNat_lt bytes
  rw [wordBytes, wordOf, BitVec.toNat_ofNat, Nat.mod_eq_of_lt bound]
  exact leBytes_leNat bytes

/-- Pack a byte list into 32-bit words; a trailing partial word is dropped. -/
def packWords : List Byte → List (BitVec 32)
  | b₀ :: b₁ :: b₂ :: b₃ :: rest => wordOf 32 [b₀, b₁, b₂, b₃] :: packWords rest
  | _ => []

theorem exists_word {bytes : List Byte} {count : Nat} (length : bytes.length = 4 * (count + 1)) :
    ∃ b₀ b₁ b₂ b₃ rest, bytes = b₀ :: b₁ :: b₂ :: b₃ :: rest := by
  match bytes, length with
  | b₀ :: b₁ :: b₂ :: b₃ :: rest, _ => exact ⟨b₀, b₁, b₂, b₃, rest, rfl⟩

theorem length_packWords {bytes : List Byte} {count : Nat}
    (length : bytes.length = 4 * count) : (packWords bytes).length = count := by
  induction bytes using packWords.induct generalizing count with
  | case1 b₀ b₁ b₂ b₃ rest ih =>
      simp only [List.length_cons] at length
      rw [packWords, List.length_cons, ih (show rest.length = 4 * (count - 1) by omega)]
      omega
  | case2 bytes short =>
      cases count with
      | zero =>
          rw [packWords, List.length_nil]
          exact short
      | succ count =>
          rcases exists_word length with ⟨b₀, b₁, b₂, b₃, rest, rfl⟩
          exact absurd rfl (short b₀ b₁ b₂ b₃ rest)

end RemoteRootport.Bytes
