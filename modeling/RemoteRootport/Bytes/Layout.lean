import Mathlib.Data.List.GetD
import RemoteRootport.Bytes.LittleEndian

/-!
# Record layouts

A layout says how many bytes a value occupies, how it is written out and how it
is read back.  Layouts of records are assembled from those of their members in
declaration order, so that both facts every transfer rests on, the fixed size and
the round trip, hold by construction.
-/

namespace RemoteRootport.Bytes

/-- A fixed-size object representation together with its two laws. -/
structure Layout (α : Type) where
  size : Nat
  encode : α → List Byte
  decode : List Byte → α
  length_encode : ∀ value, (encode value).length = size
  decode_encode : ∀ value, decode (encode value) = value

attribute [simp] Layout.length_encode Layout.decode_encode

namespace Layout

variable {α β : Type}

/-- A little-endian word. -/
def word (width count : Nat) (covers : width ≤ 8 * count) : Layout (BitVec width) where
  size := count
  encode := wordBytes count
  decode := wordOf width
  length_encode := length_wordBytes count
  decode_encode := wordOf_wordBytes count covers

/-- Two members, one behind the other. -/
def pair (first : Layout α) (second : Layout β) : Layout (α × β) where
  size := first.size + second.size
  encode value := first.encode value.1 ++ second.encode value.2
  decode bytes := (first.decode (bytes.take first.size), second.decode (bytes.drop first.size))
  length_encode value := by
    rw [List.length_append, first.length_encode, second.length_encode]
  decode_encode value := by
    rw [List.take_left' (first.length_encode value.1),
      List.drop_left' (first.length_encode value.1), first.decode_encode, second.decode_encode]

/-- A member followed by zero bytes that nobody reads. -/
def padded (layout : Layout α) (count : Nat) : Layout α where
  size := layout.size + count
  encode value := layout.encode value ++ List.replicate count 0
  decode bytes := layout.decode (bytes.take layout.size)
  length_encode value := by
    rw [List.length_append, layout.length_encode, List.length_replicate]
  decode_encode value := by
    rw [List.take_left' (layout.length_encode value), layout.decode_encode]

/-- The layout of a record, given by the layout of the tuple of its members. -/
def via (members : Layout β) (split : α → β) (join : β → α)
    (join_split : ∀ value, join (split value) = value) : Layout α where
  size := members.size
  encode value := members.encode (split value)
  decode bytes := join (members.decode bytes)
  length_encode value := members.length_encode (split value)
  decode_encode value := by rw [members.decode_encode, join_split]

/-- The representation of a value is not empty. -/
theorem encode_ne_nil (layout : Layout α) (positive : 0 < layout.size) (value : α) :
    layout.encode value ≠ [] := by
  apply List.length_pos_iff.mp
  rw [layout.length_encode]
  exact positive

/-- Every byte of the representation belongs to the value. -/
def Exact (layout : Layout α) : Prop :=
  ∀ bytes, bytes.length = layout.size → layout.encode (layout.decode bytes) = bytes

theorem exact_word {width count : Nat} (exactly : width = 8 * count) :
    (word width count (Nat.le_of_eq exactly)).Exact := by
  intro bytes length
  change bytes.length = count at length
  subst length
  exact wordBytes_wordOf width bytes exactly

theorem Exact.pair {first : Layout α} {second : Layout β} (firstExact : first.Exact)
    (secondExact : second.Exact) : (first.pair second).Exact := by
  intro bytes length
  change bytes.length = first.size + second.size at length
  change first.encode (first.decode (bytes.take first.size)) ++
    second.encode (second.decode (bytes.drop first.size)) = bytes
  rw [firstExact _ (List.length_take_of_le (by omega)),
    secondExact _ (by rw [List.length_drop]; omega), List.take_append_drop]

theorem Exact.via {members : Layout β} {split : α → β} {join : β → α}
    {join_split : ∀ value, join (split value) = value} (exact : members.Exact)
    (split_join : ∀ parts, split (join parts) = parts) :
    (members.via split join join_split).Exact := by
  intro bytes length
  change members.encode (split (join (members.decode bytes))) = bytes
  rw [split_join]
  exact exact bytes length

end Layout

/-! ## Byte arrays -/

/-- A `uint8_t` array. -/
abbrev Block (size : Nat) := Vector Byte size

namespace Block

variable {size : Nat}

/-- Copy bytes over the start of the array; what does not fit is dropped. -/
def store (block : Block size) (bytes : List Byte) : Block size :=
  Vector.ofFn fun index => bytes.getD index.val block[index]

/-- The first bytes of the array. -/
def load (block : Block size) (count : Nat) : List Byte :=
  block.toList.take count

theorem getElem_store (block : Block size) (bytes : List Byte) {index : Nat}
    (bound : index < size) : (block.store bytes)[index] = bytes.getD index block[index] :=
  Vector.getElem_ofFn bound

theorem toList_store (block : Block size) (bytes : List Byte) (fits : bytes.length ≤ size) :
    (block.store bytes).toList = bytes ++ block.toList.drop bytes.length := by
  apply List.ext_getElem
  · rw [List.length_append, List.length_drop, Vector.length_toList, Vector.length_toList]
    omega
  · intro index left right
    rw [Vector.getElem_toList, getElem_store, List.getElem_append]
    by_cases inside : index < bytes.length
    · rw [dif_pos inside, List.getD_eq_getElem _ _ inside]
    · rw [dif_neg inside, List.getD_eq_default _ _ (by omega), List.getElem_drop,
        Vector.getElem_toList]
      simp only [Nat.add_sub_cancel' (Nat.le_of_not_lt inside)]

theorem load_store (block : Block size) (bytes : List Byte) (fits : bytes.length ≤ size) :
    (block.store bytes).load bytes.length = bytes := by
  rw [load, toList_store block bytes fits, List.take_left]

/-- A block is its own object representation. -/
def layout (size : Nat) : Layout (Block size) where
  size := size
  encode block := block.toList
  decode bytes := Vector.ofFn fun index => bytes.getD index.val 0
  length_encode block := block.length_toList
  decode_encode block := by
    apply Vector.ext
    intro index bound
    rw [Vector.getElem_ofFn, List.getD_eq_getElem _ _ (by rwa [Vector.length_toList]),
      Vector.getElem_toList]

theorem toList_decode {bytes : List Byte} (whole : bytes.length = size) :
    ((layout size).decode bytes).toList = bytes := by
  apply List.ext_getElem
  · rw [Vector.length_toList, whole]
  · intro index left right
    rw [Vector.getElem_toList]
    exact (Vector.getElem_ofFn _).trans (List.getD_eq_getElem _ _ right)

/-! ## Blocks back to back -/

def concat (blocks : List (Block size)) : List Byte :=
  blocks.flatMap Vector.toList

@[simp] theorem concat_nil : concat ([] : List (Block size)) = [] := rfl

@[simp] theorem concat_cons (block : Block size) (blocks : List (Block size)) :
    concat (block :: blocks) = block.toList ++ concat blocks := rfl

@[simp] theorem concat_append (first second : List (Block size)) :
    concat (first ++ second) = concat first ++ concat second :=
  List.flatMap_append

theorem length_concat (blocks : List (Block size)) :
    (concat blocks).length = blocks.length * size := by
  induction blocks with
  | nil => exact (Nat.zero_mul size).symm
  | cons block blocks ih =>
      rw [concat_cons, List.length_append, block.length_toList, ih, List.length_cons,
        Nat.succ_mul, Nat.add_comm]

/-- Since all blocks have one size, the bytes determine them. -/
theorem eq_take_of_concat {first second : List (Block size)}
    (fewer : first.length ≤ second.length) (start : concat first <+: concat second) :
    first = second.take first.length := by
  induction first generalizing second with
  | nil => rfl
  | cons block first ih =>
      cases second with
      | nil => cases fewer
      | cons other second =>
          rcases start with ⟨rest, bytes⟩
          rw [concat_cons, concat_cons, List.append_assoc] at bytes
          rcases List.append_inj bytes (block.length_toList.trans other.length_toList.symm) with
            ⟨same, later⟩
          rw [List.length_cons, List.take_succ_cons, Vector.toList_inj.mp same,
            ← ih (Nat.le_of_succ_le_succ fewer) ⟨rest, later⟩]

end Block

end RemoteRootport.Bytes
