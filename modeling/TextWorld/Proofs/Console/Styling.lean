import Mathlib.Data.List.TakeWhile
import TextWorld.Console.Highlight

/-!
# Highlighting adds nothing but styles

A highlighted line is read here as a terminal reads it: an escape character
starts a sequence that ends with the letter `m`, and what is in no sequence is
shown.  The main result is that a terminal shows a highlighted line as it was
typed, and that every style which is switched on is switched off before the next
one and before the end.
-/

namespace TextWorld.Highlight

open TextWorld.Text

/-! ## What a terminal receives -/

/-- What a terminal finds in a text. -/
inductive Received where
  | shown (character : Char)
  /-- A sequence, without the escape character and the letter at its end. -/
  | sequence (content : List Char)
deriving DecidableEq

/-- What a terminal finds in a text, `begun` being the sequence that it is
reading.  A sequence that does not end is shown. -/
def received (begun : Option (List Char)) : List Char → List Received
  | [] =>
      match begun with
      | none => []
      | some content => ('\x1b' :: content).map .shown
  | character :: rest =>
      match begun with
      | none =>
          if character = '\x1b' then
            received (some []) rest
          else
            .shown character :: received none rest
      | some content =>
          if character = 'm' then
            .sequence content :: received none rest
          else
            received (some (content ++ [character])) rest

/-- The character, if it is shown. -/
def Received.character? : Received → Option Char
  | .shown character => some character
  | .sequence _ => none

/-- The content of the sequence, if it is one. -/
def Received.content? : Received → Option (List Char)
  | .shown _ => none
  | .sequence content => some content

/-- What a terminal shows of a text. -/
def shown (text : String) : List Char :=
  (received none text.toList).filterMap Received.character?

/-- The sequences in a text, in order. -/
def sequences (text : String) : List (List Char) :=
  (received none text.toList).filterMap Received.content?

/-- The content of the sequence that switches a style on. -/
def Ink.switchOn (ink : Ink) : List Char :=
  '[' :: ink.code.toList

/-- The content of the sequence that switches every style off. -/
def switchOff : List Char :=
  ['[', '0']

/-- A mark as a terminal finds it. -/
def Mark.received : Mark → Received
  | .character typed => .shown typed
  | .on ink => .sequence ink.switchOn
  | .off => .sequence switchOff

theorem received_cons_of_ne
    {character : Char}
    (plain : character ≠ '\x1b')
    (rest : List Char) :
    received none (character :: rest) =
      .shown character :: received none rest := by
  simp only [received, if_neg plain]

/-- A terminal finds a written mark as it was meant. -/
theorem received_characters_append
    {mark : Mark}
    (plain : mark ≠ .character '\x1b')
    (rest : List Char) :
    received none (mark.characters ++ rest) =
      mark.received :: received none rest := by
  cases mark with
  | character shown =>
      apply received_cons_of_ne
      rintro rfl
      exact plain rfl
  | on ink => cases ink <;> rfl
  | off => rfl

theorem received_flatMap_characters
    {marking : List Mark}
    (plain : .character '\x1b' ∉ marking) :
    received none (marking.flatMap Mark.characters) =
      marking.map Mark.received := by
  induction marking with
  | nil => rfl
  | cons mark rest inductive_step =>
      rw [List.mem_cons, not_or] at plain
      rw [List.flatMap_cons, received_characters_append (Ne.symm plain.1),
        List.map_cons, inductive_step plain.2]

/-! ## Marks -/

/-- The character, if the mark is one of the line. -/
def Mark.character? : Mark → Option Char
  | .character typed => some typed
  | _ => none

/-- The characters of a marked line. -/
def typed (marking : List Mark) : List Char :=
  marking.filterMap Mark.character?

/-- Styles are switched on and off in turn, and none is on in the end; `styled`
tells whether one is on at the start. -/
inductive Alternating : (styled : Bool) → List Mark → Prop where
  | nil : Alternating false []
  | character {styled : Bool} {character : Char} {rest : List Mark}
      (later : Alternating styled rest) :
      Alternating styled (.character character :: rest)
  | on {ink : Ink} {rest : List Mark}
      (later : Alternating true rest) :
      Alternating false (.on ink :: rest)
  | off {rest : List Mark}
      (later : Alternating false rest) :
      Alternating true (.off :: rest)

variable {marking : List Mark}

@[simp]
theorem typed_nil : typed [] = [] := rfl

@[simp]
theorem typed_character_cons (character : Char) (marking : List Mark) :
    typed (.character character :: marking) = character :: typed marking := rfl

@[simp]
theorem typed_on_cons (ink : Ink) (marking : List Mark) :
    typed (.on ink :: marking) = typed marking := rfl

@[simp]
theorem typed_off_cons (marking : List Mark) :
    typed (.off :: marking) = typed marking := rfl

@[simp]
theorem typed_plain_append (characters : List Char) (marking : List Mark) :
    typed (plain characters ++ marking) = characters ++ typed marking := by
  induction characters with
  | nil => rfl
  | cons character rest inductive_step =>
      exact congrArg (character :: ·) inductive_step

theorem mem_typed_of_mem {character : Char}
    (member : .character character ∈ marking) :
    character ∈ typed marking :=
  List.mem_filterMap.mpr ⟨_, member, rfl⟩

theorem Alternating.plain_append
    {styled : Bool}
    (later : Alternating styled marking)
    (characters : List Char) :
    Alternating styled (plain characters ++ marking) := by
  induction characters with
  | nil => exact later
  | cons character rest inductive_step => exact .character inductive_step

/-- The sequences of alternating styles come in pairs. -/
theorem Alternating.contents
    {styled : Bool}
    (alternating : Alternating styled marking) :
    ∃ inks : List Ink,
      (marking.map Mark.received).filterMap Received.content? =
        (if styled then [switchOff] else []) ++
          inks.flatMap fun ink => [ink.switchOn, switchOff] := by
  induction alternating with
  | nil => exact ⟨[], rfl⟩
  | character _ inductive_step => exact inductive_step
  | @on ink _ _ inductive_step =>
      rcases inductive_step with ⟨inks, contents⟩
      exact ⟨ink :: inks, congrArg (ink.switchOn :: ·) contents⟩
  | off _ inductive_step =>
      rcases inductive_step with ⟨inks, contents⟩
      exact ⟨inks, congrArg (switchOff :: ·) contents⟩

theorem character?_received (mark : Mark) :
    mark.received.character? = mark.character? := by
  cases mark <;> rfl

/-! ## The marks of a line -/

/-- A style is on in every region but that of plain text. -/
def Region.styled : Region → Bool
  | .plain => false
  | .quoted => true
  | .entity => true

/-- The part of a line after its verb is marked without losing or
adding a character. -/
theorem typed_markRest (region : Region) (characters : List Char) :
    typed (markRest region characters) = characters := by
  fun_induction markRest region characters with
  | case1 => rfl
  | case2 => rfl
  | _ => simp_all

/-- A style that is on is switched off at the end of its region. -/
theorem alternating_markRest (region : Region) (characters : List Char) :
    Alternating region.styled (markRest region characters) := by
  fun_induction markRest region characters with
  | case1 => exact .nil
  | case2 region notPlain =>
      have styled : region.styled = true := by
        cases region with
        | plain => exact absurd rfl notPlain
        | quoted | entity => rfl
      rw [styled]
      exact .off .nil
  | case3 rest inductive_step => exact .on (.character inductive_step)
  | case4 character rest _ _ inductive_step =>
      exact .on (.character inductive_step)
  | case5 character rest _ _ inductive_step => exact .character inductive_step
  | case6 next rest inductive_step =>
      exact .character (.character inductive_step)
  | case7 rest _ inductive_step => exact .character (.off inductive_step)
  | case8 character rest _ _ inductive_step => exact .character inductive_step
  | case9 character rest _ inductive_step => exact .character inductive_step
  | case10 character rest _ inductive_step =>
      exact .character (.off inductive_step)

/-- The verb is bold, and the rest of the line is marked after it. -/
theorem marked_verb (line : List Char) :
    let verb := line.takeWhile (!isBlank ·)
    let marking :=
      .on .bold :: plain verb ++ .off :: markRest .plain (line.drop verb.length)
    typed marking = line ∧ Alternating false marking := by
  intro verb marking
  have parted : verb ++ line.drop verb.length = line :=
    List.prefix_iff_eq_append.mp (List.takeWhile_prefix _)
  constructor
  · simp [marking, typed_markRest, parted]
  · exact .on
      ((Alternating.off (alternating_markRest .plain _)).plain_append verb)

theorem marked_trimmed (vocabulary : Vocabulary) (line : List Char) :
    typed (markTrimmed vocabulary line) = line ∧
      Alternating false (markTrimmed vocabulary line) := by
  cases line with
  | nil => exact marked_verb []
  | cons leader rest =>
      by_cases shortcut : (vocabulary.shortcut? leader).isSome = true
      · rw [markTrimmed]
        simp only [if_pos shortcut]
        have styled : Alternating false (plain rest) := by
          simpa using Alternating.nil.plain_append rest
        refine ⟨?_, .on (.character (.off styled))⟩
        simpa using typed_plain_append rest []
      · rw [markTrimmed]
        simp only [if_neg shortcut]
        exact marked_verb (leader :: rest)

/-- The marks of a line are those of styles that alternate, put between the
characters of the line. -/
theorem marked (vocabulary : Vocabulary) (line : List Char) :
    typed (marks vocabulary line) = line ∧
      Alternating false (marks vocabulary line) := by
  rw [marks]
  split
  · next empty =>
      rw [List.isEmpty_iff.mp empty]
      exact ⟨rfl, .nil⟩
  · rcases marked_trimmed vocabulary (trimStart line) with
      ⟨characters, alternating⟩
    refine ⟨?_, alternating.plain_append _⟩
    rw [typed_plain_append, characters]
    exact List.takeWhile_append_dropWhile

/-! ## The main result -/

/--
A terminal shows a highlighted line as it was typed, whatever the
vocabulary.  The sequences in it are one that switches a style on and one
that switches styles off, in turn: no style is switched on while another is,
and none is on in the end.
-/
theorem highlighting_only_adds_styles
    (vocabulary : Vocabulary)
    {line : String}
    (noEscape : '\x1b' ∉ line.toList) :
    shown (highlight vocabulary line) = line.toList ∧
      ∃ inks : List Ink,
        sequences (highlight vocabulary line) =
          inks.flatMap fun ink => [ink.switchOn, switchOff] := by
  rcases marked vocabulary line.toList with ⟨characters, alternating⟩
  have plain : .character '\x1b' ∉ marks vocabulary line.toList := by
    intro member
    apply noEscape
    rw [← characters]
    exact mem_typed_of_mem member
  have found :
      received none (highlight vocabulary line).toList =
        (marks vocabulary line.toList).map Mark.received := by
    rw [highlight, String.toList_ofList, received_flatMap_characters plain]
  constructor
  · rw [shown, found, List.filterMap_map]
    simpa [typed, Function.comp_def, character?_received] using characters
  · rcases alternating.contents with ⟨inks, contents⟩
    rw [sequences, found]
    exact ⟨inks, contents⟩

/-- A gift whose inscription has a quote in it and is not closed. -/
theorem gift_is_shown_as_typed :
    '\x1b' ∉ "  give #12 \"to \\\" #3".toList ∧
      shown (highlight .customary "  give #12 \"to \\\" #3") =
        "  give #12 \"to \\\" #3".toList ∧
      ∃ inks : List Ink,
        sequences (highlight .customary "  give #12 \"to \\\" #3") =
          inks.flatMap fun ink => [ink.switchOn, switchOff] := by
  have noEscape : '\x1b' ∉ "  give #12 \"to \\\" #3".toList := by decide
  exact ⟨noEscape, highlighting_only_adds_styles .customary noEscape⟩

end TextWorld.Highlight
