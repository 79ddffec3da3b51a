import Mathlib.Data.List.Induction
import TextWorld.Command.Token
import TextWorld.Proofs.Text.Layout

/-!
# How a line is made of words

A line is words with blanks between them.  How a word is written does not
depend on what stands around it, except that only at the end of the line may
its quotes stay open, or a backslash stand last.  So the words of a line lie
apart, everything else is blank, and each word is found again when its own
characters are read alone.
-/

namespace TextWorld.Token

open TextWorld.Text

/--
The characters, read inside or outside of quotes, write a word of the given
text.  At the end of a line the quotes may be open, and the last backslash may
have nothing after it.
-/
inductive Spells (atEnd : Bool) :
    (inQuotes : Bool) → (written text : List Char) → Prop where
  | nil {inQuotes : Bool} (closed : atEnd = false → inQuotes = false) :
      Spells atEnd inQuotes [] []
  | backslash {inQuotes : Bool} (last : atEnd = true) :
      Spells atEnd inQuotes ['\\'] []
  | escaped {inQuotes : Bool} {character : Char} {rest text : List Char}
      (others : Spells atEnd inQuotes rest text) :
      Spells atEnd inQuotes ('\\' :: character :: rest) (character :: text)
  | quote {inQuotes : Bool} {rest text : List Char}
      (others : Spells atEnd (!inQuotes) rest text) :
      Spells atEnd inQuotes ('"' :: rest) text
  | plain {inQuotes : Bool} {character : Char} {rest text : List Char}
      (notBackslash : character ≠ '\\')
      (notQuote : character ≠ '"')
      (quoted : isBlank character = true → inQuotes = true)
      (others : Spells atEnd inQuotes rest text) :
      Spells atEnd inQuotes (character :: rest) (character :: text)

/-- What follows a word: the end of the line, or a blank. -/
inductive Ends : (atEnd : Bool) → (rest : List Char) → Prop where
  | line : Ends true []
  | blank {character : Char} {rest : List Char}
      (blank : isBlank character = true) :
      Ends false (character :: rest)

/-- The rest of a line, from the given offset on, consists of these
words and of blanks. -/
inductive Consists :
    (offset : Nat) → (line : List Char) → (tokens : List Token) → Prop where
  | nil {offset : Nat} {blanks : List Char} (blank : AllBlank blanks) :
      Consists offset blanks []
  | cons {offset : Nat} {blanks written text rest : List Char} {atEnd : Bool}
      {tokens : List Token}
      (blank : AllBlank blanks)
      (nonempty : written ≠ [])
      (spells : Spells atEnd false written text)
      (ends : Ends atEnd rest)
      (others : Consists (offset + byteLength blanks +
          byteLength written) rest tokens) :
      Consists offset (blanks ++ (written ++ rest))
        (⟨String.ofList text, offset + byteLength blanks,
          offset + byteLength blanks + byteLength written⟩ :: tokens)

variable {atEnd inQuotes : Bool} {character : Char} {offset : Nat}
  {tokens : List Token} {line written text rest blanks : List Char}

/-- What is a word before a blank is one at the end of a line. -/
theorem Spells.ofEnd (spells : Spells atEnd inQuotes written text) :
    Spells true inQuotes written text := by
  induction spells with
  | nil => exact .nil (by simp)
  | backslash => exact .backslash rfl
  | escaped _ inductive_step => exact .escaped inductive_step
  | quote _ inductive_step => exact .quote inductive_step
  | plain notBackslash notQuote quoted _ inductive_step =>
      exact .plain notBackslash notQuote quoted inductive_step

/-- No word starts with a blank. -/
theorem Spells.isBlank_head
    (spells : Spells atEnd false written text) :
    ∀ first ∈ written.head?, isBlank first = false := by
  intro first starts
  cases spells with
  | nil => cases starts
  | backslash | escaped | quote =>
      cases starts
      decide
  | plain _ _ quoted _ =>
      cases starts
      exact Bool.eq_false_iff.mpr fun blank => Bool.false_ne_true (quoted blank)

/-! ## Reading one word -/

section Steps

variable (offset : Nat) (pending : Option Pending) (inQuotes : Bool)
  (rest : List Char)

theorem scan_nil : scan offset pending inQuotes [] = finish pending offset := by
  rw [scan.eq_def]

theorem scan_backslash :
    scan offset pending inQuotes ['\\'] =
      finish (some (.orAt pending offset)) (offset + 1) := by
  rw [scan.eq_def]
  rfl

theorem scan_escaped (character : Char) :
    scan offset pending inQuotes ('\\' :: character :: rest) =
      scan (offset + 1 + character.utf8Size)
        (some ((Pending.orAt pending offset).push character))
        inQuotes rest := by
  rw [scan.eq_def]
  rfl

theorem scan_quote :
    scan offset pending inQuotes ('"' :: rest) =
      scan (offset + 1) (some (.orAt pending offset)) (!inQuotes) rest := by
  rw [scan.eq_def]
  rfl

theorem scan_plain
    (notBackslash : character ≠ '\\')
    (notQuote : character ≠ '"')
    (quoted : isBlank character = true → inQuotes = true) :
    scan offset pending inQuotes (character :: rest) =
      scan (offset + character.utf8Size)
        (some ((Pending.orAt pending offset).push character))
        inQuotes rest := by
  rw [scan.eq_def]
  split
  · next nothing => cases nothing
  · next single => exact absurd (List.cons.inj single).1 notBackslash
  · next same => exact absurd (List.cons.inj same).1 notBackslash
  · next same => exact absurd (List.cons.inj same).1 notQuote
  · next same =>
      cases same
      rw [if_neg]
      simpa using quoted

theorem scan_blank (blank : isBlank character = true) :
    scan offset pending false (character :: rest) =
      finish pending offset ++
        scan (offset + character.utf8Size) none false rest := by
  rw [scan.eq_def]
  split
  · next nothing => cases nothing
  · next single =>
      cases single
      exact absurd blank (by decide)
  · next same =>
      cases same
      exact absurd blank (by decide)
  · next same =>
      cases same
      exact absurd blank (by decide)
  · next same =>
      cases same
      simp [blank]

end Steps

/-- A word that is read to its end, when some of it may have
been read before. -/
theorem Spells.scan_append
    (spells : Spells atEnd inQuotes written text)
    (ends : Ends atEnd rest)
    (offset : Nat)
    (pending : Pending) :
    scan offset (some pending) inQuotes (written ++ rest) =
      ⟨String.ofList (pending.text ++ text), pending.start,
        offset + byteLength written⟩ ::
        scan (offset + byteLength written) none false rest := by
  have backslashSize : '\\'.utf8Size = 1 := rfl
  have quoteSize : '"'.utf8Size = 1 := rfl
  induction spells generalizing offset pending with
  | nil closed =>
      cases ends with
      | line => simp [scan_nil, finish]
      | blank blank => simp [closed rfl, scan_blank _ _ _ blank, finish]
  | backslash last =>
      subst last
      cases ends
      simp [scan_backslash, scan_nil, finish, Pending.orAt, backslashSize]
  | escaped _ inductive_step =>
      rw [List.cons_append, List.cons_append, scan_escaped, inductive_step]
      simp [Pending.orAt, Pending.push, Nat.add_assoc, backslashSize]
  | quote _ inductive_step =>
      rw [List.cons_append, scan_quote, inductive_step]
      simp [Pending.orAt, Nat.add_assoc, quoteSize]
  | plain notBackslash notQuote quoted _ inductive_step =>
      rw [List.cons_append, scan_plain _ _ _ _ notBackslash notQuote quoted,
        inductive_step]
      simp [Pending.orAt, Pending.push, Nat.add_assoc]

/-- A word starts at the first character that is not blank. -/
theorem scan_none_cons
    (notBlank : isBlank character = false)
    (offset : Nat)
    (rest : List Char) :
    scan offset none false (character :: rest) =
      scan offset (some ⟨offset, []⟩) false (character :: rest) := by
  by_cases backslash : character = '\\'
  · subst backslash
    cases rest with
    | nil => rw [scan_backslash, scan_backslash]; rfl
    | cons next rest => rw [scan_escaped, scan_escaped]; rfl
  · by_cases quote : character = '"'
    · subst quote
      rw [scan_quote, scan_quote]
      rfl
    · have quoted : isBlank character = true → false = true := by
        simp [notBlank]
      rw [scan_plain _ _ _ _ backslash quote quoted,
        scan_plain _ _ _ _ backslash quote quoted]
      rfl

/-- Blanks before a word are passed over. -/
theorem scan_none_append
    (blank : AllBlank blanks)
    (offset : Nat)
    (rest : List Char) :
    scan offset none false (blanks ++ rest) =
      scan (offset + byteLength blanks) none false rest := by
  induction blanks generalizing offset with
  | nil => rfl
  | cons first others inductive_step =>
      have later : AllBlank others :=
        fun other member => blank other (List.mem_cons_of_mem _ member)
      rw [List.cons_append, scan_blank _ _ _ (blank first List.mem_cons_self),
        inductive_step later, byteLength_cons, Nat.add_assoc]
      rfl

/-- The scan of a word from its first character on. -/
theorem Spells.scan_none_append
    (spells : Spells atEnd false written text)
    (nonempty : written ≠ [])
    (ends : Ends atEnd rest)
    (offset : Nat) :
    scan offset none false (written ++ rest) =
      ⟨String.ofList text, offset, offset + byteLength written⟩ ::
        scan (offset + byteLength written) none false rest := by
  cases written with
  | nil => exact absurd rfl nonempty
  | cons first others =>
      have notBlank := spells.isBlank_head first rfl
      rw [List.cons_append, scan_none_cons notBlank, ← List.cons_append,
        spells.scan_append ends, List.nil_append]

/-- The line starts with a word, read inside or outside of quotes, and
goes on after it. -/
def StartsWithWord (inQuotes : Bool) (line : List Char) : Prop :=
  ∃ atEnd written text rest,
    line = written ++ rest ∧ Spells atEnd inQuotes written text ∧
      Ends atEnd rest

theorem StartsWithWord.cons
    (notBackslash : character ≠ '\\')
    (starts : ∀ inQuotes, StartsWithWord inQuotes rest)
    (inQuotes : Bool) :
    StartsWithWord inQuotes (character :: rest) := by
  by_cases quote : character = '"'
  · subst quote
    rcases starts !inQuotes with
      ⟨atEnd, written, text, after, rfl, spells, ends⟩
    exact ⟨atEnd, '"' :: written, text, after, rfl, .quote spells, ends⟩
  · by_cases quoted : isBlank character = true → inQuotes = true
    · rcases starts inQuotes with
        ⟨atEnd, written, text, after, rfl, spells, ends⟩
      exact ⟨atEnd, character :: written, character :: text, after, rfl,
        .plain notBackslash quote quoted spells, ends⟩
    · rw [Classical.not_imp] at quoted
      exact ⟨false, [], [], character :: rest, rfl, .nil fun _ =>
          Bool.eq_false_iff.mpr quoted.2, .blank quoted.1⟩

/-- Every line starts with a word, if perhaps an empty one. -/
theorem startsWithWord (inQuotes : Bool) (line : List Char) :
    StartsWithWord inQuotes line := by
  have nothing (inQuotes : Bool) : StartsWithWord inQuotes [] :=
    ⟨true, [], [], [], rfl, .nil (by simp), .line⟩
  induction line using List.twoStepInduction generalizing inQuotes with
  | nil => exact nothing inQuotes
  | singleton character =>
      by_cases backslash : character = '\\'
      · subst backslash
        exact ⟨true, ['\\'], [], [], rfl, .backslash rfl, .line⟩
      · exact .cons backslash nothing inQuotes
  | cons_cons character next others skip_step inductive_step =>
      by_cases backslash : character = '\\'
      · subst backslash
        rcases skip_step inQuotes with
          ⟨atEnd, written, text, rest, rfl, spells, ends⟩
        exact ⟨atEnd, '\\' :: next :: written, next :: text, rest, rfl,
          .escaped spells, ends⟩
      · exact .cons backslash (inductive_step next) inQuotes

/-- What does not start with a blank starts with a word that is not empty. -/
theorem exists_word (notBlank : isBlank character = false) (rest : List Char) :
    ∃ atEnd written text after,
      character :: rest = written ++ after ∧ written ≠ [] ∧
      Spells atEnd false written text ∧ Ends atEnd after := by
  rcases startsWithWord false (character :: rest) with
    ⟨atEnd, written, text, after, started, spells, ends⟩
  refine ⟨atEnd, written, text, after, started, ?_, spells, ends⟩
  rintro rfl
  cases ends with
  | line => cases started
  | blank blank =>
      cases started
      rw [blank] at notBlank
      cases notBlank

/-! ## All words of a line -/

/-- The words that a line is read as are those of which it consists. -/
theorem consists_scan (offset : Nat) (line : List Char) :
    Consists offset line (scan offset none false line) := by
  rcases exists_trimStart line with ⟨blanks, blank, parted⟩
  cases trimmed : trimStart line with
  | nil =>
      rw [trimmed, List.append_nil] at parted
      subst parted
      have nothing := scan_none_append blank offset []
      rw [List.append_nil, scan_nil] at nothing
      rw [nothing]
      exact .nil blank
  | cons first others =>
      rcases exists_word (isBlank_head_trimStart trimmed) others with
        ⟨atEnd, written, text, rest, started, nonempty, spells, ends⟩
      have shorter : rest.length < line.length := by
        have positive := List.length_pos_iff.mpr nonempty
        rw [parted, trimmed, started, List.length_append, List.length_append]
        omega
      have read : scan offset none false line =
          ⟨String.ofList text, offset + byteLength blanks,
              offset + byteLength blanks + byteLength written⟩ ::
            scan (offset + byteLength blanks + byteLength written) none
              false rest := by
        rw [parted, trimmed, started, scan_none_append blank,
          spells.scan_none_append nonempty ends]
      rw [read, parted, trimmed, started]
      exact .cons blank nonempty spells ends (consists_scan _ rest)
termination_by line.length

/-- A word is found again when its characters are read alone. -/
theorem Spells.ofLine_eq
    (spells : Spells atEnd false written text)
    (nonempty : written ≠ []) :
    ofLine written = [⟨String.ofList text, 0, byteLength written⟩] := by
  have read := spells.ofEnd.scan_none_append nonempty .line 0
  rw [List.append_nil, scan_nil, Nat.zero_add] at read
  exact read

/-! ## Where the words are -/

/-- The word is written by these characters of a line that starts at
the given offset. -/
structure Covers (token : Token) (offset : Nat)
    (line written : List Char) : Prop where
  place : ∃ before after, line = before ++ (written ++ after) ∧
    token.start = offset + byteLength before ∧
    token.stop = token.start + byteLength written
  nonempty : written ≠ []
  spells : ∃ atEnd, Spells atEnd false written token.text.toList

theorem Covers.append
    {token : Token}
    (covers : Covers token (offset + byteLength blanks) line written) :
    Covers token offset (blanks ++ line) written := by
  rcases covers.place with ⟨before, after, rfl, start, stop⟩
  refine ⟨⟨blanks ++ before, after, by simp, ?_, stop⟩,
    covers.nonempty, covers.spells⟩
  rw [start, byteLength_append, Nat.add_assoc]

theorem Consists.exists_covers
    (consists : Consists offset line tokens) :
    ∀ token ∈ tokens, ∃ written, Covers token offset line written := by
  induction consists with
  | nil => simp
  | @cons offset blanks written text rest atEnd tokens blank
      nonempty spells ends _
      inductive_step =>
      intro token member
      rcases List.mem_cons.mp member with rfl | later
      · exact ⟨written, ⟨blanks, rest, rfl, rfl, rfl⟩, nonempty,
          atEnd, by simpa using spells⟩
      · rcases inductive_step token later with ⟨covered, covers⟩
        exact ⟨covered, covers.append.append⟩

/-- Between a word and the next there is a blank. -/
theorem Consists.pairwise
    (consists : Consists offset line tokens) :
    tokens.Pairwise fun earlier later => earlier.stop < later.start := by
  induction consists with
  | nil => exact .nil
  | @cons offset blanks written text rest atEnd tokens _ _ _ ends others
    inductive_step =>
      refine .cons ?_ inductive_step
      intro later member
      rcases others.exists_covers later member with ⟨covered, covers⟩
      rcases covers.place with ⟨before, after, parted, start, -⟩
      rcases covers.spells with ⟨_, spells⟩
      rw [start]
      refine Nat.lt_add_of_pos_right ?_
      cases before with
      | cons first more =>
          have positive := Char.utf8Size_pos first
          rw [byteLength_cons]
          omega
      | nil =>
          -- the next word would start with the blank that ends this one
          cases ends with
          | line => simp [covers.nonempty] at parted
          | @blank character _ blank =>
              cases covered with
              | nil => exact absurd rfl covers.nonempty
              | cons first more =>
                  cases parted
                  have notBlank := spells.isBlank_head character rfl
                  rw [blank] at notBlank
                  cases notBlank

/-- A character of a text in two parts stands in the first or in the second. -/
theorem mem_or_exists_of_append_eq
    {left right before after : List Char}
    (parted : left ++ right = before ++ character :: after) :
    character ∈ left ∧ byteLength before < byteLength left ∨
      ∃ more, before = left ++ more ∧ right = more ++ character :: after := by
  rcases List.append_eq_append_iff.mp parted with
    second | ⟨more, rfl, remaining⟩
  · exact .inr second
  · cases more with
    | nil => exact .inr ⟨[], by simp, remaining.symm⟩
    | cons first others =>
        cases remaining
        have positive := byteLength_pos (List.cons_ne_nil character others)
        rw [byteLength_append]
        exact .inl ⟨by simp, by omega⟩

/-- What no word covers is blank. -/
theorem Consists.isBlank_outside
    (consists : Consists offset line tokens)
    {before after : List Char}
    (parted : line = before ++ character :: after)
    (outside : ∀ token ∈ tokens,
      offset + byteLength before < token.start ∨
        token.stop ≤ offset + byteLength before) :
    isBlank character = true := by
  induction consists generalizing before with
  | nil blank =>
      subst parted
      exact blank character (by simp)
  | cons blank _ _ _ _ inductive_step =>
      rcases mem_or_exists_of_append_eq parted with
        ⟨member, -⟩ | ⟨more, rfl, remaining⟩
      · exact blank character member
      · rcases mem_or_exists_of_append_eq remaining with
          ⟨-, within⟩ | ⟨others, rfl, rest_eq⟩
        · have apart := outside _ List.mem_cons_self
          simp only [byteLength_append] at apart
          omega
        · apply inductive_step rest_eq
          intro token member
          have apart := outside token (List.mem_cons_of_mem _ member)
          simpa [Nat.add_assoc] using apart

/--
The words of a line have spans of their own, in order and with room between
them.  Each span starts and ends between two characters of the line and does not
start with a blank, and the characters in it, read alone, are exactly this word.
Everything else in the line is blank.
-/
theorem spans_partition_line (line : List Char) :
    (∀ token ∈ ofLine line, token.start < token.stop ∧
      token.stop ≤ byteLength line ∧ ∃ before written after,
      line = before ++ (written ++ after) ∧ token.start = byteLength before ∧
      token.stop = byteLength (before ++ written) ∧
      (∀ first ∈ written.head?, isBlank first = false) ∧
      ofLine written = [⟨token.text, 0, byteLength written⟩]) ∧
    (ofLine line).Pairwise (fun earlier later => earlier.stop < later.start) ∧
    ∀ before character after, line = before ++ character :: after →
      (∀ token ∈ ofLine line,
        byteLength before < token.start ∨ token.stop ≤ byteLength before) →
      isBlank character = true := by
  have consists : Consists 0 line (ofLine line) := consists_scan 0 line
  refine ⟨?_, consists.pairwise, ?_⟩
  · intro token member
    rcases consists.exists_covers token member with ⟨written, covers⟩
    rcases covers.place with ⟨before, after, parted, start, stop⟩
    rcases covers.spells with ⟨_, spells⟩
    have alone := spells.ofLine_eq covers.nonempty
    have positive := byteLength_pos covers.nonempty
    rw [String.ofList_toList] at alone
    rw [Nat.zero_add] at start
    refine ⟨by omega, ?_, before, written, after, parted, start, ?_,
      spells.isBlank_head, alone⟩
    · rw [stop, start, parted, byteLength_append, byteLength_append]
      omega
    · rw [stop, start, byteLength_append]
  · intro before character after parted outside
    apply consists.isBlank_outside parted
    simpa using outside

end TextWorld.Token
