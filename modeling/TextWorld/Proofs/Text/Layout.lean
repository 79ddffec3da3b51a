import Mathlib.Data.List.TakeWhile
import TextWorld.Text.Blank

/-!
# Tokens and the blanks around them

A language in which blanks may stand before, between and after tokens is
described by the kinds of its tokens, one after the other.  Tokens have no
blanks at their ends, so that it does not matter whether a text is trimmed
before its tokens are looked for.
-/

namespace TextWorld.Text

/-- Nothing but blanks. -/
def AllBlank (characters : List Char) : Prop :=
  ∀ character ∈ characters, isBlank character = true

/-- The text is one token of each kind in turn, with blanks before, between
and after them. -/
inductive LaidOut : List (List Char → Prop) → List Char → Prop where
  | nil {blanks : List Char} (blank : AllBlank blanks) : LaidOut [] blanks
  | cons {kind : List Char → Prop} {kinds : List (List Char → Prop)}
      {blanks token rest : List Char}
      (blank : AllBlank blanks)
      (isToken : kind token)
      (remaining : LaidOut kinds rest) :
      LaidOut (kind :: kinds) (blanks ++ (token ++ rest))

/-- A text with no blank at either end, and not empty. -/
structure Tight (token : List Char) : Prop where
  start : ∃ first ∈ token.head?, isBlank first = false
  stop : ∃ last ∈ token.getLast?, isBlank last = false

/-- No token of the kind has a blank at its ends. -/
def TightKind (kind : List Char → Prop) : Prop :=
  ∀ token, kind token → Tight token

variable {kind : List Char → Prop} {kinds : List (List Char → Prop)}
  {blanks text token rest : List Char}

/-! ## Trimming -/

theorem AllBlank.trimStart_append
    (blank : AllBlank blanks)
    (rest : List Char) :
    trimStart (blanks ++ rest) = trimStart rest :=
  List.dropWhile_append_of_pos blank

theorem AllBlank.trimStart_eq_nil (blank : AllBlank blanks) :
    trimStart blanks = [] := by
  simpa using blank.trimStart_append []

theorem AllBlank.reverse (blank : AllBlank blanks) :
    AllBlank blanks.reverse := by
  intro character member
  exact blank character (List.mem_reverse.mp member)

theorem AllBlank.append
    {others : List Char}
    (blank : AllBlank blanks)
    (blankToo : AllBlank others) :
    AllBlank (blanks ++ others) := by
  intro character member
  rcases List.mem_append.mp member with first | second
  · exact blank character first
  · exact blankToo character second

theorem exists_trimStart (text : List Char) :
    ∃ blanks, AllBlank blanks ∧ text = blanks ++ trimStart text :=
  ⟨text.takeWhile isBlank, fun _ member => List.mem_takeWhile_imp member,
    List.takeWhile_append_dropWhile.symm⟩

theorem trimStart_trimStart (text : List Char) :
    trimStart (trimStart text) = trimStart text := by
  cases trimmed : trimStart text with
  | nil => rfl
  | cons first rest =>
      exact trimStart_cons_of_not_isBlank (isBlank_head_trimStart trimmed) rest

theorem exists_trimEnd (text : List Char) :
    ∃ blanks, AllBlank blanks ∧ text = trimEnd text ++ blanks := by
  rcases exists_trimStart text.reverse with ⟨blanks, blank, parted⟩
  refine ⟨blanks.reverse, blank.reverse, ?_⟩
  rw [trimEnd, ← List.reverse_append, ← parted, List.reverse_reverse]

/-- Trimming takes away blanks at the ends and nothing else. -/
theorem exists_trim (text : List Char) :
    ∃ leading trailing, AllBlank leading ∧ AllBlank trailing ∧
      text = leading ++ (trim text ++ trailing) := by
  rcases exists_trimStart text with ⟨leading, leadingBlank, started⟩
  rcases exists_trimEnd (trimStart text) with ⟨trailing, trailingBlank, stopped⟩
  rw [stopped] at started
  exact ⟨leading, trailing, leadingBlank, trailingBlank, started⟩

theorem Tight.trimStart_append
    (tight : Tight token)
    (rest : List Char) :
    trimStart (token ++ rest) = token ++ rest := by
  rcases tight.start with ⟨first, starts, notBlank⟩
  rcases List.head?_eq_some_iff.mp starts with ⟨others, rfl⟩
  exact trimStart_cons_of_not_isBlank notBlank (others ++ rest)

theorem Tight.trimEnd_append
    (tight : Tight token)
    (before rest : List Char) :
    trimEnd (before ++ (token ++ rest)) =
      before ++ (token ++ trimEnd rest) := by
  rcases tight.stop with ⟨last, stops, notBlank⟩
  rcases List.getLast?_eq_some_iff.mp stops with ⟨others, rfl⟩
  have reversed :
      (before ++ (others ++ [last] ++ rest)).reverse =
        rest.reverse ++ last :: (before ++ others).reverse := by
    simp
  rw [trimEnd, reversed]
  rcases exists_trimStart rest.reverse with ⟨blanks, blank, parted⟩
  cases left : trimStart rest.reverse with
  | nil =>
      rw [left, List.append_nil] at parted
      rw [parted, blank.trimStart_append,
        trimStart_cons_of_not_isBlank notBlank, trimEnd, left]
      simp
  | cons first others =>
      have notBlankToo := isBlank_head_trimStart left
      rw [parted, left,
        List.append_assoc, blank.trimStart_append, List.cons_append,
        trimStart_cons_of_not_isBlank notBlankToo, trimEnd, left]
      simp

theorem Tight.trim_eq (tight : Tight token) : trim token = token := by
  rcases tight.start with ⟨first, starts, startNotBlank⟩
  rcases tight.stop with ⟨last, stops, stopNotBlank⟩
  exact trim_eq_self starts stops startNotBlank stopNotBlank

/-- What is left of a text after trimming has no blank at its ends. -/
theorem tight_trim (nonempty : trim text ≠ []) : Tight (trim text) := by
  rw [trim] at nonempty ⊢
  cases started : trimStart text with
  | nil =>
      rw [started] at nonempty
      exact absurd rfl nonempty
  | cons first rest =>
      have notBlank := isBlank_head_trimStart started
      have alone : Tight [first] :=
        ⟨⟨first, rfl, notBlank⟩, ⟨first, rfl, notBlank⟩⟩
      constructor
      · have kept : trimEnd (first :: rest) = first :: trimEnd rest :=
          alone.trimEnd_append [] rest
        rw [kept]
        exact ⟨first, rfl, notBlank⟩
      · rw [started, trimEnd] at nonempty
        rw [trimEnd, List.getLast?_reverse]
        cases stopped : trimStart (first :: rest).reverse with
        | nil =>
            rw [stopped] at nonempty
            exact absurd rfl nonempty
        | cons last others => exact ⟨last, rfl, isBlank_head_trimStart stopped⟩

/-! ## Layout -/

theorem LaidOut.prepend
    (laid : LaidOut kinds text)
    (blank : AllBlank blanks) :
    LaidOut kinds (blanks ++ text) := by
  cases laid with
  | nil blankToo => exact .nil (blank.append blankToo)
  | cons blankToo isToken remaining =>
      rw [← List.append_assoc]
      exact .cons (blank.append blankToo) isToken remaining

theorem LaidOut.append
    (laid : LaidOut kinds text)
    (blank : AllBlank blanks) :
    LaidOut kinds (text ++ blanks) := by
  induction laid with
  | nil blankToo => exact .nil (blankToo.append blank)
  | cons blankToo isToken _ inductive_step =>
      rw [List.append_assoc, List.append_assoc]
      exact .cons blankToo isToken inductive_step

theorem laidOut_nil_iff : LaidOut [] text ↔ trimStart text = [] := by
  constructor
  · rintro ⟨blank⟩
    exact blank.trimStart_eq_nil
  · intro trimmed
    rcases exists_trimStart text with ⟨blanks, blank, parted⟩
    rw [parted, trimmed, List.append_nil]
    exact .nil blank

/-- The first token is found where the blanks at the start end. -/
theorem laidOut_cons_iff (tight : TightKind kind) :
    LaidOut (kind :: kinds) text ↔
      ∃ token rest, kind token ∧ trimStart text = token ++ rest ∧
        LaidOut kinds rest := by
  constructor
  · intro laid
    cases laid with
    | cons blank isToken remaining =>
        refine ⟨_, _, isToken, ?_, remaining⟩
        rw [blank.trimStart_append, (tight _ isToken).trimStart_append]
  · rintro ⟨token, rest, isToken, starts, remaining⟩
    rcases exists_trimStart text with ⟨blanks, blank, parted⟩
    rw [parted, starts]
    exact .cons blank isToken remaining

theorem LaidOut.trimStart
    (tight : ∀ kind ∈ kinds, TightKind kind)
    (laid : LaidOut kinds text) :
    LaidOut kinds (trimStart text) := by
  have nothing : AllBlank [] := by simp [AllBlank]
  cases laid with
  | nil blank =>
      rw [blank.trimStart_eq_nil]
      exact .nil nothing
  | cons blank isToken remaining =>
      rw [blank.trimStart_append,
        (tight _ List.mem_cons_self _ isToken).trimStart_append]
      exact .cons nothing isToken remaining

theorem LaidOut.trimEnd
    (tight : ∀ kind ∈ kinds, TightKind kind)
    (laid : LaidOut kinds text) :
    LaidOut kinds (trimEnd text) := by
  induction laid with
  | nil blank =>
      rw [Text.trimEnd, blank.reverse.trimStart_eq_nil]
      exact .nil (by simp [AllBlank])
  | cons blank isToken _ inductive_step =>
      rw [(tight _ List.mem_cons_self _ isToken).trimEnd_append]
      apply LaidOut.cons blank isToken
      apply inductive_step
      intro kind member
      exact tight kind (List.mem_cons_of_mem _ member)

/-- Whether blanks at the ends of a text are removed does not matter. -/
theorem laidOut_trim_iff (tight : ∀ kind ∈ kinds, TightKind kind) :
    LaidOut kinds (trim text) ↔ LaidOut kinds text := by
  constructor
  · intro laid
    rcases exists_trim text with ⟨leading, trailing, blank, blankToo, parted⟩
    rw [parted]
    exact (laid.append blankToo).prepend blank
  · intro laid
    exact (laid.trimStart tight).trimEnd tight

end TextWorld.Text
