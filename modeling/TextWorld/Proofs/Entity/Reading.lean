import Mathlib.Algebra.Group.Nat.Defs
import TextWorld.Entity.Parse
import TextWorld.Proofs.Entity.Grammar

/-!
# Reading of ids

An id is read from `#` and a numeral of any length, as long as its value is
below `2 ^ 64`.  What is read is that value, and not what is left of it in a
word of 64 bits.  Of the texts for one id, which differ in the zeros in front,
the written form is the only one without any that could be left out.
-/

namespace TextWorld

open TextWorld.Text

namespace Text

/-- The value of digits, of which each counts ten times as much as
the one after it. -/
def placeValue : List Char → Nat
  | [] => 0
  | digit :: rest =>
      (digit.toNat - '0'.toNat) * 10 ^ rest.length + placeValue rest

variable {digits : List Char} {digit : Char}

/-- Reading digits from the left gives each its place. -/
theorem ofDigitChars_eq_placeValue (digits : List Char) :
    Nat.ofDigitChars 10 digits 0 = placeValue digits := by
  induction digits with
  | nil => rfl
  | cons first rest inductive_step =>
      rw [Nat.ofDigitChars_cons, Nat.ofDigitChars_eq_ofDigitChars_zero,
        inductive_step, placeValue, Nat.mul_zero, Nat.zero_add, Nat.mul_comm]

/-- A digit is the one that is written for its value. -/
theorem digitChar_of_isDigit (isDigit : digit.isDigit = true) :
    digit.toNat - '0'.toNat < 10 ∧
      Nat.digitChar (digit.toNat - '0'.toNat) = digit := by
  have bounds := isDigit_iff.mp isDigit
  have all :
      ∀ value < 10, Nat.digitChar value = Char.ofNat (0x30 + value) := by decide
  have zero : '0'.toNat = 0x30 := rfl
  have small : digit.toNat - '0'.toNat < 10 := by omega
  refine ⟨small, ?_⟩
  rw [all _ small, zero, Nat.add_sub_cancel' bounds.1, Char.ofNat_toNat]

/-- Digits after a written number other than zero are those of the number
that they make it. -/
theorem decimalDigits_append
    {number : Nat}
    (positive : 0 < number)
    (allDigits : ∀ digit ∈ digits, digit.isDigit = true) :
    decimalDigits number ++ digits =
      decimalDigits (Nat.ofDigitChars 10 digits number) := by
  -- by the digits still to come, each of which carries the number so far
  -- up by one place
  induction digits generalizing number with
  | nil => rw [Nat.ofDigitChars_nil, List.append_nil]
  | cons first rest inductive_step =>
      rw [List.forall_mem_cons] at allDigits
      obtain ⟨small, written⟩ := digitChar_of_isDigit allDigits.1
      have carried :
          decimalDigits number ++ [first] =
            decimalDigits (10 * number + (first.toNat - '0'.toNat)) := by
        rw [decimalDigits, decimalDigits,
          ← Nat.toDigits_append_toDigits (by decide) positive small,
          Nat.toDigits_of_lt_base small, written]
      calc
        decimalDigits number ++ first :: rest =
          (decimalDigits number ++ [first]) ++ rest := by simp
        _ = decimalDigits (10 * number + (first.toNat - '0'.toNat)) ++
          rest := by rw [carried]
        _ = decimalDigits (Nat.ofDigitChars 10 (first :: rest) number) :=
          inductive_step (by omega) allDigits.2

/-- A numeral in which no zero leads other digits is the one that is
written for its value. -/
theorem decimalDigits_placeValue
    (nonempty : digits ≠ [])
    (allDigits : ∀ digit ∈ digits, digit.isDigit = true)
    (noIdleZero : ∀ rest, digits = '0' :: rest → rest = []) :
    decimalDigits (placeValue digits) = digits := by
  cases digits with
  | nil => exact absurd rfl nonempty
  | cons first rest =>
      by_cases zero : first = '0'
      · subst zero
        rw [noIdleZero rest rfl]
        rfl
      · rw [List.forall_mem_cons] at allDigits
        obtain ⟨small, written⟩ := digitChar_of_isDigit allDigits.1
        have positive : 0 < first.toNat - '0'.toNat := by
          apply Nat.pos_of_ne_zero
          intro none
          rw [none] at written
          exact zero written.symm
        calc
          decimalDigits (placeValue (first :: rest)) =
              decimalDigits
                (Nat.ofDigitChars 10 rest (first.toNat - '0'.toNat)) := by
            rw [← ofDigitChars_eq_placeValue, Nat.ofDigitChars_cons,
              Nat.mul_zero, Nat.zero_add]
          _ = decimalDigits (first.toNat - '0'.toNat) ++ rest :=
            (decimalDigits_append positive allDigits.2).symm
          _ = first :: rest := by
            rw [decimalDigits, Nat.toDigits_of_lt_base small, written,
              List.singleton_append]

/-- Only zero is written with a zero in front. -/
theorem head?_decimalDigits_ne_zero {number : Nat} (positive : 0 < number) :
    (decimalDigits number).head? ≠ some '0' := by
  induction number using Nat.strongRecOn with
  | ind number inductive_step =>
      by_cases small : number < 10
      · have all : ∀ value < 10, 0 < value →
            [Nat.digitChar value].head? ≠ some '0' := by decide
        rw [decimalDigits, Nat.toDigits_of_lt_base small]
        exact all number small positive
      · have front := inductive_step (number / 10) (by omega) (by omega)
        rw [decimalDigits,
          Nat.toDigits_of_base_le (by decide) (Nat.not_lt.mp small),
          List.head?_append]
        cases upper : Nat.toDigits 10 (number / 10) with
        | nil => exact absurd upper Nat.toDigits_ne_nil
        | cons first rest =>
            rw [decimalDigits, upper] at front
            exact front

theorem noIdleZero_decimalDigits (number : Nat) (rest : List Char)
    (leads : decimalDigits number = '0' :: rest) :
    rest = [] := by
  rcases Nat.eq_zero_or_pos number with rfl | positive
  · cases leads
    rfl
  · have head := head?_decimalDigits_ne_zero positive
    rw [leads] at head
    exact absurd rfl head

end Text

namespace EntityId

/-- The text is `#` and one or more ASCII digits for the number. -/
def Writes (text : String) (number : Nat) : Prop :=
  ∃ digits, text.toList = '#' :: digits ∧ digits ≠ [] ∧
    (∀ digit ∈ digits, digit.isDigit = true) ∧ placeValue digits = number

/-- No zero stands in front of other digits of the text. -/
def NoIdleZero (text : String) : Prop :=
  ∀ rest, text.toList = '#' :: '0' :: rest → rest = []

variable {text : String} {id : EntityId}

theorem writes_iff_denotes :
    Writes text id.number.toNat ↔ Denotes text.toList id := by
  simp only [Writes, Denotes, ofDigitChars_eq_placeValue]

theorem parse_eq_ok_iff :
    parse text = .ok id ↔ Writes text id.number.toNat := by
  rw [writes_iff_denotes, ← ofCharacters?_eq_some_iff, parse]
  cases ofCharacters? text.toList <;> simp

theorem exists_parse_iff :
    (∃ id, parse text = .ok id) ↔ ∃ number < 2 ^ 64, Writes text number := by
  simp only [parse_eq_ok_iff]
  constructor
  · rintro ⟨id, writes⟩
    exact ⟨id.number.toNat, id.number.toNat_lt, writes⟩
  · rintro ⟨number, below, writes⟩
    refine ⟨ofNat number, ?_⟩
    rwa [ofNat, UInt64.toNat_ofNat_of_lt' below]

theorem parse_eq_error (unread : ¬ ∃ id, parse text = .ok id) :
    parse text = .error (.invalidEntityId text) := by
  cases read : ofCharacters? text.toList with
  | some id =>
      refine absurd ⟨id, ?_⟩ unread
      rw [parse, read]
  | none => rw [parse, read]

theorem parse_text (id : EntityId) : parse id.text = .ok id := by
  rw [parse, toList_text, ofCharacters?_characters]

theorem noIdleZero_text (id : EntityId) : NoIdleZero id.text := by
  intro rest leads
  rw [toList_text, characters] at leads
  exact noIdleZero_decimalDigits id.number.toNat rest (List.cons.inj leads).2

/-- The written form is the only text for an id without an idle zero. -/
theorem eq_text_of_noIdleZero
    (read : parse text = .ok id)
    (noIdleZero : NoIdleZero text) :
    text = id.text := by
  obtain ⟨digits, written, nonempty, allDigits, value⟩ :=
    parse_eq_ok_iff.mp read
  have canonical : decimalDigits (placeValue digits) = digits := by
    apply decimalDigits_placeValue nonempty allDigits
    rintro rest rfl
    exact noIdleZero rest written
  rw [← String.toList_inj, toList_text, characters, ← value, canonical, written]

/--
A text is read as an id exactly if it is `#` and one or more digits for a number
below `2 ^ 64`, and then as the id with that number; any other text is refused
by name.  Every id is read from its written form, which is the only text for it
without an idle zero, and not that of no object.
-/
theorem parse_is_exact :
    (∀ text,
      ((∃ id, parse text = .ok id) ↔ ∃ number < 2 ^ 64, Writes text number) ∧
      (∀ id, parse text = .ok id ↔ Writes text id.number.toNat) ∧
      ((¬ ∃ number < 2 ^ 64, Writes text number) →
        parse text = .error (.invalidEntityId text))) ∧
    ∀ id : EntityId,
      parse id.text = .ok id ∧
      NoIdleZero id.text ∧
      (∀ text, parse text = .ok id → NoIdleZero text → text = id.text) ∧
      id.text ≠ "void 0" := by
  constructor
  · intro text
    refine ⟨exists_parse_iff, fun _ => parse_eq_ok_iff, ?_⟩
    rw [← exists_parse_iff]
    exact parse_eq_error
  · intro id
    refine ⟨parse_text id, noIdleZero_text id, fun _ =>
        eq_text_of_noIdleZero, ?_⟩
    intro same
    have characters := congrArg String.toList same
    rw [toList_text] at characters
    cases characters

/-- The greatest id is read, with zeros in front of its number too; the number
after it is not. -/
theorem greatest_id_is_read :
    parse "#0018446744073709551615" = .ok ⟨18446744073709551615⟩ ∧
      parse "#18446744073709551616" =
        .error (.invalidEntityId "#18446744073709551616") := by
  constructor
  · apply ((parse_is_exact.1 _).2.1 _).mpr
    exact ⟨"0018446744073709551615".toList, by decide, by decide,
      List.all_eq_true.mp (by decide), by decide⟩
  · apply (parse_is_exact.1 _).2.2
    rintro ⟨number, below, digits, written, -, -, rfl⟩
    cases written
    exact absurd below (by decide)

end EntityId

end TextWorld
