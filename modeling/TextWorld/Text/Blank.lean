/-!
# Blank and control characters

Words are separated by blank characters: the ones with the property White_Space.
The trimming functions remove runs of them from the ends of a text, and
`blankSeparated` lists the maximal runs of other characters.
-/

namespace TextWorld.Text

/-- Whether the character has the property White_Space. -/
def isBlank (character : Char) : Bool :=
  let codePoint := character.toNat
  (0x09 ≤ codePoint && codePoint ≤ 0x0D) || codePoint ==
    0x20 || codePoint == 0x85 ||
    codePoint == 0xA0 || codePoint ==
      0x1680 || (0x2000 ≤ codePoint && codePoint ≤ 0x200A) ||
    codePoint == 0x2028 || codePoint == 0x2029 || codePoint ==
      0x202F || codePoint == 0x205F ||
    codePoint == 0x3000

/-- Whether the character is a control: C0, DEL or C1. -/
def isControl (character : Char) : Bool :=
  character.toNat < 0x20 || (0x7F ≤ character.toNat && character.toNat < 0xA0)

/-- The characters without the blank ones at the start. -/
def trimStart (characters : List Char) : List Char :=
  characters.dropWhile isBlank

/-- The characters without the blank ones at the end. -/
def trimEnd (characters : List Char) : List Char :=
  (trimStart characters.reverse).reverse

/-- The characters without the blank ones at either end. -/
def trim (characters : List Char) : List Char :=
  trimEnd (trimStart characters)

@[simp]
theorem trimStart_nil : trimStart [] = [] := rfl

/-- A blank at the start is removed. -/
theorem trimStart_cons_of_isBlank
    {character : Char}
    (blank : isBlank character = true)
    (rest : List Char) :
    trimStart (character :: rest) = trimStart rest := by
  simp [trimStart, blank]

/-- A text that starts with no blank stays as it is. -/
theorem trimStart_cons_of_not_isBlank
    {character : Char}
    (notBlank : isBlank character = false)
    (rest : List Char) :
    trimStart (character :: rest) = character :: rest := by
  simp [trimStart, notBlank]

/-- A text with no blank at either end stays as it is. -/
theorem trim_eq_self
    {characters : List Char}
    {first last : Char}
    (start : characters.head? = some first)
    (stop : characters.getLast? = some last)
    (startNotBlank : isBlank first = false)
    (stopNotBlank : isBlank last = false) :
    trim characters = characters := by
  have untouched {text : List Char} {head : Char}
      (starts : text.head? = some head)
      (notBlank : isBlank head = false) : trimStart text = text := by
    obtain ⟨rest, rfl⟩ := List.head?_eq_some_iff.mp starts
    exact trimStart_cons_of_not_isBlank notBlank rest
  have reversed : trimStart characters.reverse = characters.reverse :=
    untouched (by rw [List.head?_reverse, stop]) stopNotBlank
  rw [trim, untouched start startNotBlank, trimEnd, reversed,
    List.reverse_reverse]

/-- What is left after trimming does not start with a blank. -/
theorem isBlank_head_trimStart
    {characters rest : List Char}
    {first : Char}
    (trimmed : trimStart characters = first :: rest) :
    isBlank first = false := by
  have head := List.head?_dropWhile_not isBlank characters
  rw [trimStart] at trimmed
  simpa [trimmed] using head

/-- The text between blanks at both ends, as a string. -/
def trimmed (text : String) : String :=
  String.ofList (trim text.toList)

/-- Whether nothing but blank characters occurs. -/
def isBlankText (text : String) : Bool :=
  text.toList.all isBlank

/-- The words of a text whose unfinished word so far is `pending`. -/
def blankSeparatedAfter (pending : List Char) : List Char → List (List Char)
  | [] => if pending.isEmpty then [] else [pending]
  | character :: rest =>
      if isBlank character then
        if pending.isEmpty then
          blankSeparatedAfter [] rest
        else
          pending :: blankSeparatedAfter [] rest
      else
        blankSeparatedAfter (pending ++ [character]) rest

/-- The maximal runs of characters that are not blank, in order. -/
def blankSeparated (text : String) : List String :=
  (blankSeparatedAfter [] text.toList).map String.ofList

end TextWorld.Text
