import TextWorld.Text.GraphemeClass

/-!
# Graphemes

A text is divided into graphemes, the pieces that a reader takes for one
character, as the Unicode standard divides it into extended grapheme clusters
(UAX #29).  Whether a character belongs to the grapheme before it is decided
from that grapheme alone.  The main statements say that dividing loses nothing
(`flatten_graphemes`), that no grapheme is empty (`ne_nil_of_mem_graphemes`) and
that within a line of ASCII every character is a grapheme
(`graphemes_of_ascii`).
-/

namespace TextWorld.Text

/-- Whether two classes stand beside each other within one Hangul syllable. -/
def joinsInSyllable : GraphemeClass → GraphemeClass → Bool
  | .leading, .leading | .leading, .vowel | .leading, .openSyllable
  | .leading, .closedSyllable
  | .vowel, .vowel | .vowel, .trailing | .openSyllable, .vowel
  | .openSyllable, .trailing
  | .trailing, .trailing | .closedSyllable, .trailing => true
  | _, _ => false

/-- Whether a grapheme, read from its end, is a pictograph with
marks and a joiner. -/
def awaitsPictograph : List Char → Bool
  | [] => false
  | last :: before =>
      graphemeClass last == .joiner &&
        (before.dropWhile (graphemeClass · == .extending)).head?.any
          (graphemeClass · == .pictograph)

/-- Whether a grapheme, read from its end, has one letter of a flag
and not yet both. -/
def awaitsRegional (grapheme : List Char) : Bool :=
  (grapheme.takeWhile (graphemeClass · == .regional)).length % 2 == 1

/-- Whether a character can stand between the consonants of a conjunct; the zero
width non-joiner cannot. -/
def isInConjunct (character : Char) : Bool :=
  graphemeClass character == .joiner ||
    (graphemeClass character == .extending && character.toNat != 0x200C)

/-- Whether a grapheme, read from its end, is a consonant with marks that link
it to the next. -/
def awaitsConsonant (grapheme : List Char) : Bool :=
  (grapheme.takeWhile isInConjunct).any isConjunctLinker &&
    (grapheme.dropWhile isInConjunct).head?.any (graphemeClass · == .consonant)

/-- Whether the next character belongs to the grapheme before it, whose
characters are given with the last one first. -/
def continues (grapheme : List Char) (next : Char) : Bool :=
  match grapheme with
  | [] => false
  | last :: _ =>
      let lastClass := graphemeClass last
      let nextClass := graphemeClass next
      if lastClass = .control ∨ nextClass = .control then
        last == '\r' && next == '\n'
      else if
          nextClass = .extending ∨ nextClass = .joiner ∨ nextClass = .spacing ∨
            lastClass = .prepended then
        true
      else
        match nextClass with
        | .pictograph => awaitsPictograph grapheme
        | .regional => awaitsRegional grapheme
        | .consonant => awaitsConsonant grapheme
        | _ => joinsInSyllable lastClass nextClass

/-- The graphemes of a text whose first grapheme begins with the characters of
`pending`, which are given with the last one first. -/
def graphemesAfter (pending : List Char) : List Char → List (List Char)
  | [] => if pending.isEmpty then [] else [pending.reverse]
  | character :: rest =>
      if pending.isEmpty || continues pending character then
        graphemesAfter (character :: pending) rest
      else
        pending.reverse :: graphemesAfter [character] rest

/-- The graphemes of a text, in order. -/
def graphemes (text : List Char) : List (List Char) :=
  graphemesAfter [] text

@[simp]
theorem graphemes_nil : graphemes [] = [] := rfl

/-- The graphemes hold what is pending and then the text. -/
theorem flatten_graphemesAfter (pending text : List Char) :
    (graphemesAfter pending text).flatten = pending.reverse ++ text := by
  fun_induction graphemesAfter pending text with
  | case1 pending empty => simp_all
  | case2 pending filled => simp
  | case3 pending character rest joined inductive_step => simp [inductive_step]
  | case4 pending character rest apart inductive_step => simp [inductive_step]

/-- The graphemes of a text are the text, divided. -/
@[simp]
theorem flatten_graphemes (text : List Char) :
    (graphemes text).flatten = text := by
  simp [graphemes, flatten_graphemesAfter]

/-- No grapheme is empty. -/
theorem ne_nil_of_mem_graphemesAfter
    {pending text grapheme : List Char}
    (member : grapheme ∈ graphemesAfter pending text) :
    grapheme ≠ [] := by
  fun_induction graphemesAfter pending text with
  | case1 pending empty => simp at member
  | case2 pending filled => simp_all
  | case3 pending character rest joined inductive_step =>
      exact inductive_step member
  | case4 pending character rest apart inductive_step =>
      rcases List.mem_cons.1 member with rfl | later
      · simp_all
      · exact inductive_step later

/-- No grapheme of a text is empty. -/
theorem ne_nil_of_mem_graphemes
    {text grapheme : List Char}
    (member : grapheme ∈ graphemes text) :
    grapheme ≠ [] :=
  ne_nil_of_mem_graphemesAfter member

/-- A character of ASCII is a control or has no class of its own. -/
theorem graphemeClass_of_ascii
    {character : Char}
    (ascii : character.toNat < 0x80) :
    graphemeClass character = .control ∨ graphemeClass character = .other := by
  simp only [graphemeClass, ascii, if_true]
  split <;> simp

/-- A character of ASCII that is no line feed begins a grapheme, whichever
character of ASCII stands before it. -/
theorem continues_of_ascii
    {last next : Char}
    (lastAscii : last.toNat < 0x80)
    (nextAscii : next.toNat < 0x80)
    (inLine : next ≠ '\n') :
    continues [last] next = false := by
  rcases graphemeClass_of_ascii lastAscii with lastClass | lastClass <;>
    rcases graphemeClass_of_ascii nextAscii with nextClass | nextClass <;>
      simp [continues, lastClass, nextClass, inLine, joinsInSyllable]

/-- Within a line of ASCII every character is a grapheme. -/
theorem graphemes_of_ascii
    {text : List Char}
    (ascii : ∀ character ∈ text, character.toNat < 0x80 ∧ character ≠ '\n') :
    graphemes text = text.map ([·]) := by
  have after (last : Char) (rest : List Char) (lastAscii : last.toNat < 0x80)
      (restAscii : ∀ character ∈ rest,
        character.toNat < 0x80 ∧ character ≠ '\n') :
      graphemesAfter [last] rest = [last] :: rest.map ([·]) := by
    induction rest generalizing last with
    | nil => rfl
    | cons next later inductive_step =>
        obtain ⟨nextAscii, inLine⟩ := restAscii next (by simp)
        have apart := continues_of_ascii lastAscii nextAscii inLine
        simp [graphemesAfter, apart,
          inductive_step next nextAscii fun character member =>
            restAscii character (by simp [member])]
  cases text with
  | nil => rfl
  | cons first rest =>
      simpa [graphemes, graphemesAfter] using
        after first rest (ascii first (by simp)).1 fun character member =>
          ascii character (by simp [member])

end TextWorld.Text
