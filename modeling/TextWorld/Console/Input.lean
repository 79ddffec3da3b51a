import TextWorld.Text.Bytes
import TextWorld.Text.Grapheme

/-!
# Lines of input that is not typed

Input from a file or another program is divided into lines.  Backspaces in a
line take back what stands before them, as they would on a terminal: one
grapheme each.  The size of a grapheme is remembered in a byte, so of one that
is longer than 255 bytes only the remainder is taken back.  The main statements
are `erase_add`, that a backspace undoes a grapheme of at most 255 bytes, and
`corrected_of_no_backspace`, that a line without backspaces is taken as it is.
-/

namespace TextWorld.Console

open TextWorld.Text

/-- A line that is being read. -/
structure Draft where
  /-- The characters, the last one first. -/
  characters : List Char := []
  /-- The sizes in bytes of the graphemes, the last one first. -/
  sizes : List UInt8 := []

namespace Draft

/-- The draft with one more grapheme. -/
def add (draft : Draft) (grapheme : List Char) : Draft where
  characters := grapheme.reverse ++ draft.characters
  sizes := UInt8.ofNat (byteLength grapheme) :: draft.sizes

/-- The draft without its last grapheme, if it has one. -/
def erase (draft : Draft) : Draft :=
  match draft.sizes with
  | [] => draft
  | size :: rest => ⟨dropBytes size.toNat draft.characters, rest⟩

/-- The draft after a grapheme of the input. -/
def take (draft : Draft) (grapheme : List Char) : Draft :=
  if grapheme = ['\x08'] then draft.erase else draft.add grapheme

/-- Erasing undoes a grapheme of at most 255 bytes. -/
theorem erase_add
    (draft : Draft)
    {grapheme : List Char}
    (short : byteLength grapheme < 256) :
    (draft.add grapheme).erase = draft := by
  have size : (UInt8.ofNat (byteLength grapheme)).toNat =
      byteLength grapheme.reverse := by
    rw [byteLength_reverse, UInt8.toNat_ofNat']
    exact Nat.mod_eq_of_lt short
  simp [add, erase, size]

end Draft

/-- The line after its backspaces. -/
def corrected (line : List Char) : List Char :=
  ((graphemes line).foldl Draft.take {}).characters.reverse

/-- Graphemes that are no backspaces are kept in order. -/
theorem characters_foldl_take
    {pieces : List (List Char)}
    (noBackspace : ['\x08'] ∉ pieces)
    (draft : Draft) :
    (pieces.foldl Draft.take draft).characters =
      pieces.flatten.reverse ++ draft.characters := by
  induction pieces generalizing draft with
  | nil => rfl
  | cons piece rest inductive_step =>
      obtain ⟨first, later⟩ : piece ≠ ['\x08'] ∧ ['\x08'] ∉ rest := by
        simpa [eq_comm] using noBackspace
      simp [Draft.take, first, inductive_step later, Draft.add]

/-- A line without backspaces is taken as it is. -/
theorem corrected_of_no_backspace
    {line : List Char}
    (noBackspace : '\x08' ∉ line) :
    corrected line = line := by
  have apart : ['\x08'] ∉ graphemes line := by
    intro member
    apply noBackspace
    rw [← flatten_graphemes line]
    exact List.mem_flatten.2 ⟨_, member, by simp⟩
  simp [corrected, characters_foldl_take apart]

/-- The line without a carriage return at its end. -/
def withoutReturn (line : List Char) : List Char :=
  match line.reverse with
  | '\r' :: rest => rest.reverse
  | _ => line

/-- The lines of an input whose current line so far is `current`; a last
line needs no end. -/
def linesAfter (current : List Char) : List Char → List (List Char)
  | [] => if current.isEmpty then [] else [current]
  | character :: rest =>
      if character = '\n' then
        withoutReturn current :: linesAfter [] rest
      else
        linesAfter (current ++ [character]) rest

/-- The lines of an input, which end in a line feed or in a carriage return and
a line feed, after their backspaces. -/
def inputLines (input : String) : List String :=
  (linesAfter [] input.toList).map fun line => String.ofList (corrected line)

end TextWorld.Console
