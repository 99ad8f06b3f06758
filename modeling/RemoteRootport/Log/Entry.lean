import RemoteRootport.Text.Format

/-!
# The log

`log_msg` writes a time, a place in the source and a formatted message.  The time and
the place are formatted into a buffer of 64 bytes of their own; as long as they fit,
the text of a log determines the messages in it, whenever they were written.
-/

namespace RemoteRootport.Log

open RemoteRootport.Text

/-- What a call of `log_msg` finds in `ts`, and the line it stands in. -/
structure Stamp where
  seconds : Nat
  nanoseconds : Nat
  line : Nat
  nanoseconds_lt : nanoseconds < 1000000000
  line_lt : line < 1000

/-- `"[%02ld:%02ld:%02ld.%03ld %s:%d] "` for a source file. -/
def stampFormat (file : String) : Format :=
  [.text "[", .unsigned 2, .text ":", .unsigned 2, .text ":", .unsigned 2, .text ".",
    .unsigned 3, .text " ", .text file, .text ":", .signed, .text "] "]

def Stamp.args (stamp : Stamp) (file : String) : Args (stampFormat file) :=
  (stamp.seconds % 86400 / 3600, stamp.seconds % 3600 / 60, stamp.seconds % 60,
    stamp.nanoseconds / 1000000, (stamp.line : Int), ())

/-- The bytes `snprintf` leaves in `prefix[64]`. -/
def Stamp.text (stamp : Stamp) (file : String) : List Char :=
  (render (stampFormat file) (stamp.args file)).take 63

theorem length_padded {width number : Nat} (positive : 0 < width) (bound : number < 10 ^ width) :
    (padded 10 width number).length = width := by
  rw [padded, List.length_leftpad]
  exact Nat.max_eq_left ((Nat.length_toDigits_le_iff (by decide) positive).mpr bound)

/-- The time and the place fit if the name of the source file is not too long. -/
theorem stamp_fits (stamp : Stamp) {file : String} (short : file.toList.length ≤ 43) :
    stamp.text file = render (stampFormat file) (stamp.args file) := by
  have hours : (padded 10 2 (stamp.seconds % 86400 / 3600)).length = 2 :=
    length_padded (by decide) (by omega)
  have minutes : (padded 10 2 (stamp.seconds % 3600 / 60)).length = 2 :=
    length_padded (by decide) (by omega)
  have seconds : (padded 10 2 (stamp.seconds % 60)).length = 2 :=
    length_padded (by decide) (by omega)
  have milliseconds : (padded 10 3 (stamp.nanoseconds / 1000000)).length = 3 :=
    length_padded (by decide) (by have := stamp.nanoseconds_lt; omega)
  have line : (signed (stamp.line : Int)).length ≤ 3 := by
    change (padded 10 0 stamp.line).length ≤ 3
    rw [padded, List.length_leftpad, Nat.zero_max]
    exact (Nat.length_toDigits_le_iff (by decide) (by decide)).mpr stamp.line_lt
  apply List.take_of_length_le
  change (render (stampFormat file) (stamp.seconds % 86400 / 3600, stamp.seconds % 3600 / 60,
    stamp.seconds % 60, stamp.nanoseconds / 1000000, (stamp.line : Int), ())).length ≤ 63
  simp only [stampFormat, render, List.length_append, String.reduceToList, List.length_cons,
    List.length_nil, hours, minutes, seconds, milliseconds]
  omega

variable {Kind : Type} (catalogue : Catalogue Kind) (file : String)

/-- The text of a log with the messages of a catalogue. -/
def logText (entries : List (Stamp × catalogue.Message)) : List Char :=
  entries.flatMap fun entry => entry.1.text file ++ catalogue.text entry.2

theorem delimited_stampFormat : Delimited (stampFormat file) = true := by
  simp only [stampFormat, Delimited, Breaks, String.reduceToList]
  decide

variable {file} in
/-- The text of a log determines the messages in it. -/
theorem logText_inj (short : file.toList.length ≤ 43)
    {entries others : List (Stamp × catalogue.Message)}
    (same : logText catalogue file entries = logText catalogue file others) :
    entries.map Prod.snd = others.map Prod.snd := by
  have unfolded (entry : Stamp × catalogue.Message) (rest : List (Stamp × catalogue.Message)) :
      logText catalogue file (entry :: rest) =
        render (stampFormat file) (entry.1.args file) ++
          (catalogue.text entry.2 ++ logText catalogue file rest) := by
    rw [← stamp_fits entry.1 short, ← List.append_assoc]
    rfl
  induction entries generalizing others with
  | nil =>
      cases others with
      | nil => rfl
      | cons other others =>
          rw [unfolded] at same
          cases same
  | cons entry entries ih =>
      cases others with
      | nil =>
          rw [unfolded] at same
          cases same
      | cons other others =>
          rw [unfolded, unfolded] at same
          rcases render_inj (delimited_stampFormat file) same with ⟨-, behind⟩
          rcases catalogue.text_inj behind with ⟨message, later⟩
          rw [List.map_cons, List.map_cons, message, ih later]

end RemoteRootport.Log
