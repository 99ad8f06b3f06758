import Mathlib.Data.Nat.Basic
import Mathlib.Tactic.IntervalCases
import RemoteRootport.Bytes.LittleEndian

/-!
# Dword buffers with byte access

A fixed array of 32-bit words that is also written through byte pointers.  Every
access is checked: an index outside the array is a `Fault`, as is a signed
counter that would leave the range of `int`.  The unchecked `putBytes` is the
effect of a store that passed its check; its laws (consecutive stores merge, a
store inside an earlier one overlays it) reduce a sequence of byte stores to a
single one whose contents no longer mention the old buffer.
-/

namespace RemoteRootport.Bytes

/-- Undefined behaviour of the modelled C fragment. -/
inductive Fault where
  | outOfBounds
  | overflow
  deriving DecidableEq, Repr

/-- One 32-bit word. -/
abbrev Dword := BitVec 32

/-- Increment of an `int`, undefined on overflow. -/
def intSucc (value : Int) : Except Fault Int :=
  if value < 2147483647 then .ok (value + 1) else .error .overflow

theorem intSucc_of_lt {value : Int} (bound : value < 2147483647) :
    intSucc value = .ok (value + 1) := by
  rw [intSucc, if_pos bound]

/-! ## Bytes of one dword -/

/-- The byte of a dword at a little-endian lane. -/
def laneOf (word : Dword) (lane : Nat) : Byte :=
  (wordBytes 4 word).getD lane 0

/-- Replace the byte of a dword at a little-endian lane. -/
def setLane (word : Dword) (lane : Nat) (byte : Byte) : Dword :=
  wordOf 32 ((wordBytes 4 word).set lane byte)

theorem wordBytes_setLane (word : Dword) (lane : Nat) (byte : Byte) :
    wordBytes 4 (setLane word lane byte) = (wordBytes 4 word).set lane byte := by
  have length : ((wordBytes 4 word).set lane byte).length = 4 := by simp
  have exactly := wordBytes_wordOf 32 ((wordBytes 4 word).set lane byte)
    (by rw [length])
  rwa [length] at exactly

theorem laneOf_setLane (word : Dword) {lane : Nat} (bound : lane < 4) (byte : Byte)
    (other : Nat) :
    laneOf (setLane word lane byte) other = if other = lane then byte else laneOf word other := by
  simp only [laneOf, wordBytes_setLane, List.getD_eq_getElem?_getD, List.getElem?_set,
    length_wordBytes, bound, if_true]
  by_cases equal : lane = other
  · simp [equal]
  · simp [equal, Ne.symm equal]

/-- A dword is determined by its four bytes. -/
theorem dword_ext {left right : Dword}
    (lanes : ∀ lane < 4, laneOf left lane = laneOf right lane) : left = right := by
  have bytes : wordBytes 4 left = wordBytes 4 right := by
    apply List.ext_getElem
    · simp
    · intro lane leftBound rightBound
      have agree := lanes lane (by simpa using leftBound)
      simpa only [laneOf, List.getD_eq_getElem?_getD, List.getElem?_eq_getElem leftBound,
        List.getElem?_eq_getElem rightBound, Option.getD_some] using agree
  rw [← wordOf_wordBytes 4 (by decide) left, bytes,
    wordOf_wordBytes 4 (by decide) right]

/-- Four byte stores determine a dword, whatever it held before. -/
theorem setLane_all (word : Dword) (b₀ b₁ b₂ b₃ : Byte) :
    setLane (setLane (setLane (setLane word 0 b₀) 1 b₁) 2 b₂) 3 b₃ =
      wordOf 32 [b₀, b₁, b₂, b₃] := by
  apply dword_ext
  intro lane bound
  have whole : wordBytes 4 (wordOf 32 [b₀, b₁, b₂, b₃]) = [b₀, b₁, b₂, b₃] :=
    wordBytes_wordOf 32 [b₀, b₁, b₂, b₃] rfl
  have right : laneOf (wordOf 32 [b₀, b₁, b₂, b₃]) lane =
      [b₀, b₁, b₂, b₃].getD lane 0 := by
    rw [laneOf, whole]
  rw [right]
  interval_cases lane <;> simp [laneOf_setLane]

/-! ## Buffers -/

/-- An array of `size` dwords. -/
abbrev Buffer (size : Nat) := Vector Dword size

namespace Buffer

variable {size : Nat}

/-- Checked dword read. -/
def load (buffer : Buffer size) (index : Int) : Except Fault Dword :=
  if inBounds : 0 ≤ index ∧ index < size then
    .ok (buffer.get ⟨index.toNat, by omega⟩)
  else
    .error .outOfBounds

/-- Checked dword write. -/
def store (buffer : Buffer size) (index : Int) (word : Dword) :
    Except Fault (Buffer size) :=
  if inBounds : 0 ≤ index ∧ index < size then
    .ok (buffer.set index.toNat word (by omega))
  else
    .error .outOfBounds

/-- Effect of one byte store at a byte offset. -/
def putByte (buffer : Buffer size) (offset : Nat) (byte : Byte) : Buffer size :=
  buffer.setIfInBounds (offset / 4)
    (setLane (buffer[offset / 4]?.getD 0) (offset % 4) byte)

/-- Effect of storing consecutive bytes from a byte offset on. -/
def putBytes (buffer : Buffer size) (offset : Nat) : List Byte → Buffer size
  | [] => buffer
  | byte :: rest => putBytes (buffer.putByte offset byte) (offset + 1) rest

/-- Checked store of consecutive bytes: one `memcpy`, `memset` or byte
assignment through a byte pointer into the array. -/
def storeBytes (buffer : Buffer size) (offset : Nat) (bytes : List Byte) :
    Except Fault (Buffer size) :=
  if offset + bytes.length ≤ 4 * size then
    .ok (buffer.putBytes offset bytes)
  else
    .error .outOfBounds

/-- Checked read of one byte through a byte pointer into the array. -/
def loadByte (buffer : Buffer size) (offset : Nat) : Except Fault Byte :=
  if inBounds : offset < 4 * size then
    .ok (laneOf (buffer.get ⟨offset / 4, by omega⟩) (offset % 4))
  else
    .error .outOfBounds

theorem load_natCast (buffer : Buffer size) {index : Nat} (bound : index < size) :
    buffer.load index = .ok buffer[index] := by
  rw [load, dif_pos (by omega)]
  rfl

theorem store_natCast (buffer : Buffer size) {index : Nat} (bound : index < size)
    (word : Dword) : buffer.store index word = .ok (buffer.set index word) := by
  rw [store, dif_pos (by omega)]
  rfl

theorem storeBytes_of_le (buffer : Buffer size) {offset : Nat} {bytes : List Byte}
    (fits : offset + bytes.length ≤ 4 * size) :
    buffer.storeBytes offset bytes = .ok (buffer.putBytes offset bytes) := by
  rw [storeBytes, if_pos fits]

theorem loadByte_of_lt (buffer : Buffer size) {offset : Nat} (bound : offset < 4 * size) :
    buffer.loadByte offset =
      .ok (laneOf (buffer.get ⟨offset / 4, by omega⟩) (offset % 4)) := by
  rw [loadByte, dif_pos bound]

/-! ## Laws of byte stores -/

/-- The byte at an offset of the array's object representation. -/
def byteAt (buffer : Buffer size) (offset : Nat) : Byte :=
  laneOf (buffer[offset / 4]?.getD 0) (offset % 4)

theorem byteAt_putByte (buffer : Buffer size) {offset : Nat} (bound : offset < 4 * size)
    (byte : Byte) (other : Nat) :
    (buffer.putByte offset byte).byteAt other =
      if other = offset then byte else buffer.byteAt other := by
  have wordBound : offset / 4 < size := by omega
  simp only [byteAt, putByte, Vector.getElem?_setIfInBounds]
  by_cases sameWord : offset / 4 = other / 4
  · rw [if_pos sameWord, if_pos wordBound, Option.getD_some,
      laneOf_setLane _ (Nat.mod_lt _ (by decide)), ← sameWord]
    congr 1
    apply propext
    omega
  · rw [if_neg sameWord, if_neg (by omega)]

theorem byteAt_putBytes (buffer : Buffer size) {offset : Nat} {bytes : List Byte}
    (fits : offset + bytes.length ≤ 4 * size) (other : Nat) :
    (buffer.putBytes offset bytes).byteAt other =
      if offset ≤ other then (bytes[other - offset]?).getD (buffer.byteAt other)
      else buffer.byteAt other := by
  induction bytes generalizing buffer offset with
  | nil => simp [putBytes]
  | cons byte rest ih =>
      simp only [List.length_cons] at fits
      rw [putBytes, ih _ (by omega), byteAt_putByte _ (by omega)]
      rcases Nat.lt_trichotomy other offset with below | equal | above
      · rw [if_neg (by omega), if_neg (by omega), if_neg (by omega)]
      · subst equal
        simp
      · have shifted : other - offset = (other - (offset + 1)) + 1 := by omega
        rw [if_pos (by omega), if_neg (by omega), if_pos (by omega), shifted,
          List.getElem?_cons_succ]

/-- A buffer is determined by its object representation. -/
theorem ext_byteAt {left right : Buffer size}
    (bytes : ∀ offset, left.byteAt offset = right.byteAt offset) : left = right := by
  apply Vector.ext
  intro index bound
  apply dword_ext
  intro lane laneBound
  have agree := bytes (4 * index + lane)
  have word : (4 * index + lane) / 4 = index := by omega
  have remainder : (4 * index + lane) % 4 = lane := by omega
  simpa only [byteAt, word, remainder, Vector.getElem?_eq_getElem bound,
    Option.getD_some] using agree

/-- Consecutive stores merge. -/
theorem putBytes_append (buffer : Buffer size) (offset : Nat) (first second : List Byte) :
    (buffer.putBytes offset first).putBytes (offset + first.length) second =
      buffer.putBytes offset (first ++ second) := by
  induction first generalizing buffer offset with
  | nil => simp [putBytes]
  | cons byte rest ih =>
      simp only [List.cons_append, putBytes, List.length_cons]
      rw [← ih, Nat.add_assoc, Nat.add_comm 1]

/-- The bytes of `base` with `patch` laid over them at a position. -/
def overlay (base : List Byte) (position : Nat) (patch : List Byte) : List Byte :=
  base.take position ++ patch ++ base.drop (position + patch.length)

theorem length_overlay (base patch : List Byte) {position : Nat}
    (fits : position + patch.length ≤ base.length) :
    (overlay base position patch).length = base.length := by
  simp only [overlay, List.length_append, List.length_take, List.length_drop]
  omega

theorem getElem?_overlay (base patch : List Byte) {position : Nat}
    (fits : position + patch.length ≤ base.length) (index : Nat) :
    (overlay base position patch)[index]? =
      if position ≤ index ∧ index < position + patch.length then patch[index - position]?
      else base[index]? := by
  have takeLength : (base.take position).length = position := by
    rw [List.length_take]
    omega
  simp only [overlay, List.append_assoc]
  by_cases before : index < position
  · rw [List.getElem?_append_left (by omega), List.getElem?_take_of_lt before,
      if_neg (by omega)]
  · rw [List.getElem?_append_right (by omega), takeLength]
    by_cases inside : index < position + patch.length
    · rw [List.getElem?_append_left (by omega), if_pos (by omega)]
    · rw [List.getElem?_append_right (by omega), List.getElem?_drop, if_neg (by omega)]
      congr 1
      omega

/-- A store that lies inside an earlier one overlays it. -/
theorem putBytes_within (buffer : Buffer size) {offset position : Nat}
    {base patch : List Byte} (inside : position + patch.length ≤ base.length)
    (fits : offset + base.length ≤ 4 * size) :
    (buffer.putBytes offset base).putBytes (offset + position) patch =
      buffer.putBytes offset (overlay base position patch) := by
  have overlayLength := length_overlay base patch inside
  apply ext_byteAt
  intro other
  rw [byteAt_putBytes _ (by omega), byteAt_putBytes _ fits,
    byteAt_putBytes _ (by omega), getElem?_overlay _ _ inside]
  by_cases before : other < offset
  · rw [if_neg (by omega), if_neg (by omega), if_neg (by omega)]
  · have after : offset ≤ other := by omega
    have difference : other - (offset + position) = other - offset - position := by omega
    simp only [if_pos after, difference]
    by_cases patched : position ≤ other - offset ∧ other - offset < position + patch.length
    · rw [if_pos (by omega), if_pos patched, List.getElem?_eq_getElem (by omega)]
      rfl
    · rw [if_neg patched]
      by_cases reached : offset + position ≤ other
      · rw [if_pos reached, List.getElem?_eq_none (by omega)]
        rfl
      · rw [if_neg reached]

/-- A batch of stores that all lie inside an earlier one. -/
theorem putBytes_patches (buffer : Buffer size) {offset : Nat} {base : List Byte}
    (patches : List (Nat × List Byte))
    (inside : ∀ patch ∈ patches, patch.1 + patch.2.length ≤ base.length)
    (fits : offset + base.length ≤ 4 * size) :
    patches.foldl (fun stored patch => stored.putBytes (offset + patch.1) patch.2)
        (buffer.putBytes offset base) =
      buffer.putBytes offset
        (patches.foldl (fun bytes patch => overlay bytes patch.1 patch.2) base) := by
  induction patches generalizing base with
  | nil => rfl
  | cons patch rest ih =>
      have headInside := inside patch List.mem_cons_self
      have length := length_overlay base patch.2 headInside
      rw [List.foldl_cons, List.foldl_cons, putBytes_within buffer headInside fits]
      apply ih
      · intro other membership
        rw [length]
        exact inside other (List.mem_cons_of_mem _ membership)
      · rw [length]
        exact fits

theorem putBytes_word (buffer : Buffer size) {index : Nat} (bound : index < size)
    (b₀ b₁ b₂ b₃ : Byte) (rest : List Byte) :
    buffer.putBytes (4 * index) (b₀ :: b₁ :: b₂ :: b₃ :: rest) =
      putBytes (buffer.set index (wordOf 32 [b₀, b₁, b₂, b₃])) (4 * (index + 1)) rest := by
  have word (lane : Nat) (laneBound : lane < 4) : (4 * index + lane) / 4 = index := by omega
  have remainder (lane : Nat) (laneBound : lane < 4) : (4 * index + lane) % 4 = lane := by
    omega
  have whole : (((buffer.putByte (4 * index) b₀).putByte (4 * index + 1) b₁).putByte
      (4 * index + 1 + 1) b₂).putByte (4 * index + 1 + 1 + 1) b₃ =
        buffer.set index (wordOf 32 [b₀, b₁, b₂, b₃]) := by
    rw [← setLane_all buffer[index]]
    apply Vector.ext
    intro other otherBound
    simp only [putByte, Nat.add_assoc, Nat.reduceAdd, word 1, word 2, word 3, remainder 1,
      remainder 2, remainder 3, Nat.one_lt_ofNat, Nat.reduceLT, Nat.mul_div_cancel_left,
      Nat.mul_mod_right, Nat.zero_lt_succ]
    by_cases equal : index = other
    · subst equal
      simp [bound]
    · simp [equal]
  simp only [putBytes, whole]
  rfl

theorem getElem?_putBytes_below (buffer : Buffer size) {offset index : Nat}
    (below : 4 * (index + 1) ≤ offset) (bytes : List Byte) :
    (buffer.putBytes offset bytes)[index]? = buffer[index]? := by
  induction bytes generalizing buffer offset with
  | nil => rfl
  | cons byte rest ih =>
      rw [putBytes, ih _ (by omega), putByte, Vector.getElem?_setIfInBounds,
        if_neg (by omega)]

/-- Whole dwords stored bytewise read back as the packed bytes. -/
theorem drop_take_putBytes (buffer : Buffer size) (index count : Nat) (bytes : List Byte)
    (length : bytes.length = 4 * count) (fits : index + count ≤ size) :
    ((buffer.putBytes (4 * index) bytes).toList.drop index).take count = packWords bytes := by
  induction bytes using packWords.induct generalizing buffer index count with
  | case1 b₀ b₁ b₂ b₃ rest ih =>
      cases count with
      | zero => cases length
      | succ count =>
          simp only [List.length_cons] at length
          rw [putBytes_word buffer (by omega), packWords]
          have tail := ih (buffer.set index (wordOf 32 [b₀, b₁, b₂, b₃]) (by omega))
            (index + 1) count (by omega) (by omega)
          rw [← tail, List.drop_eq_getElem_cons (by simp; omega), List.take_succ_cons]
          congr 1
          have kept := getElem?_putBytes_below
            (buffer.set index (wordOf 32 [b₀, b₁, b₂, b₃]) (by omega))
            (Nat.le_refl (4 * (index + 1))) rest
          rw [Vector.getElem?_eq_getElem (by omega), Vector.getElem?_eq_getElem (by omega),
            Vector.getElem_set_self] at kept
          simpa using kept
  | case2 bytes short =>
      cases count with
      | zero =>
          rw [packWords]
          · simp
          · exact short
      | succ count =>
          rcases exists_word length with ⟨b₀, b₁, b₂, b₃, rest, rfl⟩
          exact absurd rfl (short b₀ b₁ b₂ b₃ rest)

end Buffer

end RemoteRootport.Bytes
