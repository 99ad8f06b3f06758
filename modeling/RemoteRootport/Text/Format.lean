import Mathlib.Data.List.Infix
import Mathlib.Data.List.Pairwise
import Mathlib.Tactic.IntervalCases

/-!
# Formatted text

Formats in the manner of `printf`, with the arguments each of them takes.  A text
determines the arguments it was formatted from as long as every conversion is
followed by a character that is not a digit, and it determines the format too if no
format begins like another.
-/

namespace RemoteRootport.Text

/-! ## Numerals -/

/-- The value of a digit in a base up to sixteen. -/
def digitValue (char : Char) : Option Nat :=
  if '0' ≤ char ∧ char ≤ '9' then some (char.toNat - '0'.toNat)
  else if 'a' ≤ char ∧ char ≤ 'f' then some (char.toNat - 'a'.toNat + 10)
  else none

theorem digitValue_digitChar {digit : Nat} (bound : digit < 16) :
    digitValue digit.digitChar = some digit := by
  interval_cases digit <;> rfl

/-- Read digits as far as there are any. -/
def scanDigits (base value : Nat) : List Char → Nat × List Char
  | [] => (value, [])
  | char :: rest =>
      match digitValue char with
      | some digit => scanDigits base (value * base + digit) rest
      | none => (value, char :: rest)

/-- There is a next character and it is not a digit. -/
def Stops (text : List Char) : Prop :=
  ∃ char rest, text = char :: rest ∧ digitValue char = none

theorem scanDigits_stops {text : List Char} (stops : Stops text) (base value : Nat) :
    scanDigits base value text = (value, text) := by
  rcases stops with ⟨char, rest, rfl, none⟩
  rw [scanDigits, none]

theorem scanDigits_digitChar (base value : Nat) {digit : Nat} (bound : digit < 16)
    (rest : List Char) :
    scanDigits base value (digit.digitChar :: rest) =
      scanDigits base (value * base + digit) rest := by
  rw [scanDigits, digitValue_digitChar bound]

section Numerals

variable {base : Nat}

/-- Reading a numeral gives the number. -/
theorem scanDigits_toDigits (proper : 1 < base) (hex : base ≤ 16) (number : Nat)
    (rest : List Char) :
    scanDigits base 0 (base.toDigits number ++ rest) = scanDigits base number rest := by
  induction number using Nat.strong_induction_on generalizing rest with
  | h number ih =>
      rw [Nat.toDigits_eq_if proper]
      split
      case isTrue small =>
          rw [List.singleton_append, scanDigits_digitChar base 0 (by omega), Nat.zero_mul,
            Nat.zero_add]
      case isFalse large =>
          have smaller : number / base < number := Nat.div_lt_self (by omega) proper
          have last : number % base < 16 := (Nat.mod_lt _ (by omega)).trans_le hex
          rw [List.append_assoc, ih _ smaller, List.singleton_append,
            scanDigits_digitChar base _ last, Nat.div_add_mod']

/-- A numeral filled up with zeros on the left. -/
def padded (base width number : Nat) : List Char :=
  List.leftpad width '0' (base.toDigits number)

theorem scanDigits_zeros (count : Nat) (rest : List Char) :
    scanDigits base 0 (List.replicate count '0' ++ rest) = scanDigits base 0 rest := by
  induction count with
  | zero => rfl
  | succ count ih =>
      have zero := scanDigits_digitChar base 0 (by decide : 0 < 16)
        (List.replicate count '0' ++ rest)
      rw [Nat.zero_mul] at zero
      exact zero.trans ih

theorem scanDigits_padded (proper : 1 < base) (hex : base ≤ 16) (width number : Nat)
    {rest : List Char} (stops : Stops rest) :
    scanDigits base 0 (padded base width number ++ rest) = (number, rest) := by
  rw [padded, List.leftpad, List.append_assoc, scanDigits_zeros,
    scanDigits_toDigits proper hex, scanDigits_stops stops]

/-- The number can be told from the text. -/
theorem padded_inj (proper : 1 < base) (hex : base ≤ 16) {width number other : Nat}
    {rest otherRest : List Char} (stops : Stops rest) (otherStops : Stops otherRest)
    (same : padded base width number ++ rest = padded base width other ++ otherRest) :
    number = other ∧ rest = otherRest := by
  have scanned := congrArg (scanDigits base 0) same
  rw [scanDigits_padded proper hex width number stops,
    scanDigits_padded proper hex width other otherStops] at scanned
  cases scanned
  exact ⟨rfl, rfl⟩

end Numerals

/-- A decimal numeral with a sign if there has to be one. -/
def signed : Int → List Char
  | .ofNat number => padded 10 0 number
  | .negSucc number => '-' :: padded 10 0 (number + 1)

/-- A numeral does not begin with a sign. -/
theorem padded_ne_minus (number : Nat) (rest text : List Char) :
    padded 10 0 number ++ rest ≠ '-' :: text := by
  intro same
  have member : ∀ char ∈ Nat.toDigits 10 number, char.isDigit = true :=
    fun char => Nat.isDigit_of_mem_toDigits (by decide) (by decide)
  rw [padded, List.leftpad, Nat.zero_sub, List.replicate_zero, List.nil_append] at same
  cases digits : Nat.toDigits 10 number with
  | nil => exact absurd digits Nat.toDigits_ne_nil
  | cons first others =>
      rw [digits, List.cons_append] at same
      rw [digits, (List.cons.inj same).1] at member
      exact absurd (member '-' List.mem_cons_self) (by decide)

theorem signed_inj {number other : Int} {rest otherRest : List Char} (stops : Stops rest)
    (otherStops : Stops otherRest) (same : signed number ++ rest = signed other ++ otherRest) :
    number = other ∧ rest = otherRest := by
  cases number with
  | ofNat number =>
      cases other with
      | ofNat other =>
          rcases padded_inj (by decide) (by decide) stops otherStops same with ⟨rfl, later⟩
          exact ⟨rfl, later⟩
      | negSucc other => exact absurd same (padded_ne_minus number rest _)
  | negSucc number =>
      cases other with
      | ofNat other => exact absurd same.symm (padded_ne_minus other otherRest _)
      | negSucc other =>
          rcases padded_inj (by decide) (by decide) stops otherStops (List.cons.inj same).2 with
            ⟨equal, later⟩
          cases equal
          exact ⟨rfl, later⟩

/-! ## Formats -/

/-- Text that stands for itself, or a conversion: `%d`, `%u` or `%x`, the latter two
with a width to fill up to. -/
inductive Piece where
  | text (chars : String)
  | signed
  | unsigned (width : Nat)
  | hex (width : Nat)
  deriving DecidableEq, Repr

abbrev Format := List Piece

/-- The arguments of a format. -/
def Args : Format → Type
  | [] => Unit
  | .text _ :: rest => Args rest
  | .signed :: rest => Int × Args rest
  | .unsigned _ :: rest => Nat × Args rest
  | .hex _ :: rest => Nat × Args rest

def render : (format : Format) → Args format → List Char
  | [], _ => []
  | .text chars :: rest, args => chars.toList ++ render rest args
  | .signed :: rest, (number, args) => signed number ++ render rest args
  | .unsigned width :: rest, (number, args) => padded 10 width number ++ render rest args
  | .hex width :: rest, (number, args) => padded 16 width number ++ render rest args

/-- A format begins with a character that is not a digit. -/
def Breaks : Format → Bool
  | .text chars :: _ =>
      match chars.toList with
      | [] => false
      | char :: _ => (digitValue char).isNone
  | _ => false

/-- Behind every conversion there is a character that is not a digit. -/
def Delimited : Format → Bool
  | [] => true
  | .text _ :: rest => Delimited rest
  | _ :: rest => Breaks rest && Delimited rest

theorem stops_of_breaks {format : Format} (breaks : Breaks format = true) (args : Args format)
    (rest : List Char) : Stops (render format args ++ rest) := by
  cases format with
  | nil => cases breaks
  | cons piece pieces =>
      cases piece with
      | signed => cases breaks
      | unsigned => cases breaks
      | hex => cases breaks
      | text chars =>
          rw [Breaks] at breaks
          rw [render, List.append_assoc]
          cases characters : chars.toList with
          | nil =>
              rw [characters] at breaks
              cases breaks
          | cons char others =>
              rw [characters] at breaks
              exact ⟨char, _, List.cons_append, Option.isNone_iff_eq_none.mp breaks⟩

section Conversions

variable {Number : Type} {numeral : Number → List Char}

/-- A conversion whose numerals determine the number in front of a delimited format. -/
theorem conversion_inj {pieces : Format}
    (numeral_inj : ∀ {number other : Number} {rest otherRest : List Char}, Stops rest →
      Stops otherRest → numeral number ++ rest = numeral other ++ otherRest →
      number = other ∧ rest = otherRest)
    (delimited : (Breaks pieces && Delimited pieces) = true)
    {rest otherRest : List Char}
    (render_inj : Delimited pieces = true → ∀ {args otherArgs : Args pieces},
      render pieces args ++ rest = render pieces otherArgs ++ otherRest →
      args = otherArgs ∧ rest = otherRest)
    {args otherArgs : Number × Args pieces}
    (same : numeral args.1 ++ render pieces args.2 ++ rest =
      numeral otherArgs.1 ++ render pieces otherArgs.2 ++ otherRest) :
    args = otherArgs ∧ rest = otherRest := by
  rcases Bool.and_eq_true_iff.mp delimited with ⟨breaks, later⟩
  rw [List.append_assoc, List.append_assoc] at same
  rcases numeral_inj (stops_of_breaks breaks args.2 rest)
    (stops_of_breaks breaks otherArgs.2 otherRest) same with ⟨number, behind⟩
  rcases render_inj later behind with ⟨others, remaining⟩
  exact ⟨Prod.ext number others, remaining⟩

end Conversions

/-- The text of a delimited format determines its arguments, whatever comes behind. -/
theorem render_inj {format : Format} (delimited : Delimited format = true)
    {args otherArgs : Args format} {rest otherRest : List Char}
    (same : render format args ++ rest = render format otherArgs ++ otherRest) :
    args = otherArgs ∧ rest = otherRest := by
  induction format with
  | nil => exact ⟨rfl, same⟩
  | cons piece pieces ih =>
      cases piece with
      | text chars =>
          rw [render, render, List.append_assoc, List.append_assoc] at same
          exact ih delimited (List.append_cancel_left same)
      | signed => exact conversion_inj signed_inj delimited ih same
      | unsigned width =>
          exact conversion_inj (padded_inj (by decide) (by decide)) delimited ih same
      | hex width =>
          exact conversion_inj (padded_inj (by decide) (by decide)) delimited ih same

/-! ## Messages -/

/-- The text a format begins with. -/
def lead : Format → List Char
  | .text chars :: _ => chars.toList
  | _ => []

theorem lead_begins (format : Format) (args : Args format) :
    lead format <+: render format args := by
  cases format with
  | nil => exact List.prefix_rfl
  | cons piece pieces =>
      cases piece with
      | text chars => exact List.prefix_append _ _
      | signed => exact List.nil_prefix
      | unsigned => exact List.nil_prefix
      | hex => exact List.nil_prefix

/-- Neither text begins with the other. -/
def Apart (text other : List Char) : Prop :=
  ¬text <+: other ∧ ¬other <+: text

instance (text other : List Char) : Decidable (Apart text other) :=
  inferInstanceAs (Decidable (_ ∧ _))

/-- Finitely many formats, each delimited and no two with the same beginning. -/
structure Catalogue (Kind : Type) where
  format : Kind → Format
  kinds : List Kind
  complete : ∀ kind, kind ∈ kinds
  delimited : ∀ kind, Delimited (format kind) = true
  apart : kinds.Pairwise fun kind other => Apart (lead (format kind)) (lead (format other))

namespace Catalogue

variable {Kind : Type} (catalogue : Catalogue Kind)

/-- A format of the catalogue with its arguments. -/
abbrev Message := Σ kind, Args (catalogue.format kind)

def text (message : catalogue.Message) : List Char :=
  render (catalogue.format message.1) message.2

/-- A text begins with one message of a catalogue at most. -/
theorem text_inj {message other : catalogue.Message} {rest otherRest : List Char}
    (same : catalogue.text message ++ rest = catalogue.text other ++ otherRest) :
    message = other ∧ rest = otherRest := by
  rcases message with ⟨kind, args⟩
  rcases other with ⟨otherKind, otherArgs⟩
  have begins : lead (catalogue.format kind) <+: render (catalogue.format kind) args ++ rest :=
    (lead_begins _ args).trans (List.prefix_append _ _)
  have otherBegins : lead (catalogue.format otherKind) <+:
      render (catalogue.format kind) args ++ rest := by
    rw [show render (catalogue.format kind) args ++ rest = _ from same]
    exact (lead_begins _ otherArgs).trans (List.prefix_append _ _)
  by_cases equal : kind = otherKind
  · subst equal
    rcases render_inj (catalogue.delimited kind) same with ⟨rfl, later⟩
    exact ⟨rfl, later⟩
  · have symmetric : Std.Symm fun kind other =>
        Apart (lead (catalogue.format kind)) (lead (catalogue.format other)) :=
      ⟨fun _ _ apart => ⟨apart.2, apart.1⟩⟩
    have apart := catalogue.apart.forall (catalogue.complete kind)
      (catalogue.complete otherKind) equal
    rcases List.prefix_or_prefix_of_prefix begins otherBegins with before | behind
    · exact absurd before apart.1
    · exact absurd behind apart.2

end Catalogue

end RemoteRootport.Text
