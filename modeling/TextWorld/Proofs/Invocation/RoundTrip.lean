import TextWorld.Proofs.Invocation.Tokens

/-!
# Verb calls are read back

A verb call is written as one fragment of code with eight pieces in it: three
ids, of which two may be void, and six literals.  Each reader is shown to stop
where its piece was written to end, whatever comes after it, and the pieces are
then read one after the other.

The main statement is `decode_code`: decoding undoes writing, for every call.
-/

namespace TextWorld.VerbCall

open TextWorld.Text

/-- A space between two tokens. -/
@[simp]
theorem trimStart_space (rest : List Char) :
    trimStart (' ' :: rest) = trimStart rest :=
  trimStart_cons_of_isBlank (by decide) rest

/-! ## Readers of one token -/

/-- A token that starts with no blank is read off the text it
stands in front of. -/
theorem readToken_append
    (source : List Char)
    {token : String}
    (first : Char)
    (others : List Char)
    (written : token.toList = first :: others)
    (notBlank : isBlank first = false)
    (rest : List Char) :
    readToken source token (first :: (others ++ rest)) = .ok rest := by
  have found :
      after? (first :: others) (first :: (others ++ rest)) = some rest :=
    after?_eq_some_iff.mpr rfl
  simp only [readToken, trimStart_cons_of_not_isBlank notBlank, written, found]

/-- The text does not go on with a digit. -/
def EndsNumeral (rest : List Char) : Prop :=
  ∀ character ∈ rest.head?, character.isDigit = false

/-- A run of digits ends where the numeral does. -/
theorem EndsNumeral.span
    {rest : List Char}
    (ends : EndsNumeral rest)
    (digits : List Char)
    (allDigits : ∀ digit ∈ digits, digit.isDigit = true) :
    (digits ++ rest).takeWhile Char.isDigit = digits ∧
      (digits ++ rest).dropWhile Char.isDigit = rest := by
  rw [List.takeWhile_append_of_pos allDigits,
    List.dropWhile_append_of_pos allDigits]
  cases rest with
  | nil => simp
  | cons first others =>
      have notDigit : first.isDigit = false := ends first (by simp)
      simp [notDigit]

/-- A written id is read up to its last digit. -/
theorem readEntity_characters_append
    (source : List Char)
    (id : EntityId)
    {rest : List Char}
    (ends : EndsNumeral rest) :
    readEntity source (id.characters ++ rest) = .ok (id, rest) := by
  have trimmed : trimStart (id.characters ++ rest) =
      '#' :: (decimalDigits id.number.toNat ++ rest) :=
    trimStart_cons_of_not_isBlank (by decide) _
  obtain ⟨taken, dropped⟩ :=
    ends.span (decimalDigits id.number.toNat)
      fun _ member => isDigit_of_mem_decimalDigits member
  have read :
      EntityId.ofCharacters? ('#' :: decimalDigits id.number.toNat) = some id :=
    EntityId.ofCharacters?_characters id
  rw [readEntity_of_mark source trimmed]
  simp only [taken, dropped, read]

/-- A role that is bound is read as an id. -/
theorem readObject_some
    (source : List Char)
    (id : EntityId)
    {rest : List Char}
    (ends : EndsNumeral rest) :
    readObject source (id.characters ++ rest) = .ok (some id, rest) := by
  have trimmed : trimStart (id.characters ++ rest) = id.characters ++ rest :=
    trimStart_cons_of_not_isBlank (by decide) _
  have notVoid : after? voidText.toList (id.characters ++ rest) = none := by
    rfl
  simp only [readObject, trimmed, notVoid,
    readEntity_characters_append source id ends]
  rfl

/-- A role without an entity is read as such. -/
theorem readObject_none (source rest : List Char) :
    readObject source (voidText.toList ++ rest) = .ok (none, rest) := by
  have trimmed :
      trimStart (voidText.toList ++ rest) = voidText.toList ++ rest :=
    trimStart_cons_of_not_isBlank (by decide) _
  have found : after? voidText.toList (voidText.toList ++ rest) = some rest :=
    after?_eq_some_iff.mpr rfl
  simp only [readObject, trimmed, found]

/-- Either form of an object role is read back. -/
theorem readObject_objectText_append
    (source : List Char)
    (bound : Option EntityId)
    {rest : List Char}
    (ends : EndsNumeral rest) :
    readObject source ((objectText bound).toList ++ rest) =
      .ok (bound, rest) := by
  cases bound with
  | none => exact readObject_none source rest
  | some id =>
      simpa [objectText] using readObject_some source id ends

/-- A literal is read up to its closing quote. -/
theorem readLiteral_escape_append (source : List Char) (text : String)
    (rest : List Char) :
    readLiteral source ((Literal.escape text).toList ++ rest) =
      .ok (text, rest) := by
  have written :
      (Literal.escape text).toList = Literal.escapeCharacters text.toList :=
    String.toList_ofList
  have trimmed :
      trimStart (Literal.escapeCharacters text.toList ++ rest) =
        Literal.escapeCharacters text.toList ++ rest :=
    trimStart_cons_of_not_isBlank (by decide) _
  have decoded :
      Literal.decode (String.ofList (Literal.escapeCharacters text.toList)) =
        .ok text :=
    Literal.decode_escape text
  simp only [readLiteral_eq, written, trimmed,
    Literal.leadingLiteral_escapeCharacters_append, decoded]
  simp [bind, Except.bind, pure, Except.pure]

/-! ## Tokens after a space -/

@[simp]
theorem readObject_space (source rest : List Char) :
    readObject source (' ' :: rest) = readObject source rest := by
  simp only [readObject, trimStart_space]

@[simp]
theorem readLiteral_space (source rest : List Char) :
    readLiteral source (' ' :: rest) = readLiteral source rest := by
  simp only [readLiteral, trimStart_space]

/-- One of the five texts of the command, with the comma before it. -/
theorem readField_escape_append (source : List Char) (text : String)
    (rest : List Char) :
    readField source (',' :: ' ' :: ((Literal.escape text).toList ++ rest)) =
      .ok (text, rest) := by
  have comma :
      readToken source ","
        (',' :: ' ' :: ((Literal.escape text).toList ++ rest)) =
        .ok (' ' :: ((Literal.escape text).toList ++ rest)) :=
    readToken_append source ',' [] rfl (by decide) _
  simp only [readField, comma, bind, Except.bind, readLiteral_space,
    readLiteral_escape_append]

/-! ## Whole fragments -/

/-- The characters of a fragment, piece by piece. -/
theorem toList_code (call : VerbCall) :
    call.code.toList =
      call.owner.characters ++ '[' :: ((Literal.escape call.verb).toList ++
        ']' :: '(' :: (call.player.characters ++
          ',' :: ' ' :: ((objectText call.direct).toList ++
            ',' :: ' ' :: ((objectText call.indirect).toList ++
              (call.command.fields.flatMap fun text =>
                ',' :: ' ' :: (Literal.escape text).toList) ++ [')'])))) := by
  simp [code, arguments, Command.fields]

/-- No blank stands at either end of a fragment. -/
theorem trim_toList_code (call : VerbCall) :
    trim call.code.toList = call.code.toList := by
  have start : call.code.toList.head? = some '#' := by
    simp [code, EntityId.characters]
  have stop : call.code.toList.getLast? = some ')' := by
    rw [code, String.toList_append]
    exact List.getLast?_concat
  exact trim_eq_self start stop (by decide) (by decide)

/-- Decoding undoes writing. -/
@[simp]
theorem decode_code (call : VerbCall) :
    decode call.code = .ok call := by
  have openVerb (source rest : List Char) :
      readToken source "[" ('[' :: rest) = .ok rest :=
    readToken_append source '[' [] rfl (by decide) rest
  have openArguments (source rest : List Char) :
      readToken source "](" (']' :: '(' :: rest) = .ok rest :=
    readToken_append source ']' ['('] rfl (by decide) rest
  have comma (source rest : List Char) :
      readToken source "," (',' :: rest) = .ok rest :=
    readToken_append source ',' [] rfl (by decide) rest
  have close (source : List Char) : readToken source ")" [')'] = .ok [] :=
    readToken_append source ')' [] rfl (by decide) []
  have endsAtBracket (rest : List Char) : EndsNumeral ('[' :: rest) := by
    simp [EndsNumeral]
  have endsAtComma (rest : List Char) : EndsNumeral (',' :: rest) := by
    simp [EndsNumeral]
  simp only [decode, trim_toList_code]
  rw [toList_code]
  simp only [Command.fields, List.flatMap_cons, List.flatMap_nil,
    List.append_nil, List.cons_append, List.append_assoc, bind, Except.bind,
    openVerb, openArguments, comma, close, readEntity_characters_append
    _ _ (endsAtBracket _), readEntity_characters_append _ _ (endsAtComma _),
    readObject_objectText_append _ _ (endsAtComma _), readObject_space,
    readLiteral_escape_append, readField_escape_append]
  rfl

end TextWorld.VerbCall
