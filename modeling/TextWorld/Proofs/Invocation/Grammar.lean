import TextWorld.Proofs.Invocation.RoundTrip

/-!
# The grammar of verb calls

The code of a verb call is a sequence of tokens with blanks wherever one likes
around them.  Each reader takes one token off the start of a text exactly when
there is one of its kind, so the decoder accepts exactly the texts of the
grammar.  Whatever it refuses is refused as malformed.
-/

namespace TextWorld.VerbCall

open TextWorld.Text

/-- The token stands for what an object role is bound to. -/
def ObjectDenotes (token : List Char) : Option EntityId → Prop
  | none => token = voidText.toList
  | some id => EntityId.Denotes token id

/-- The token is the given one. -/
def Is (text : String) (token : List Char) : Prop :=
  token = text.toList

/-- The kinds of the tokens that make up the code of a call. -/
def tokens (call : VerbCall) : List (List Char → Prop) :=
  [(EntityId.Denotes · call.owner), Is "[", (Literal.Denotes · call.verb),
    Is "](", (EntityId.Denotes · call.player), Is ",",
    (ObjectDenotes · call.direct), Is ",", (ObjectDenotes · call.indirect)] ++
    (call.command.fields.flatMap fun text =>
        [Is ",", (Literal.Denotes · text)]) ++ [Is ")"]

variable {α β : Type} {kinds : List (List Char → Prop)} {text : List Char}

/-! ## Tokens have no blanks at their ends -/

theorem tight_is
    {word : String}
    {first last : Char}
    (starts : word.toList.head? = some first)
    (stops : word.toList.getLast? = some last)
    (startsNotBlank : isBlank first = false)
    (stopsNotBlank : isBlank last = false) :
    TightKind (Is word) := by
  rintro token rfl
  exact ⟨⟨first, starts, startsNotBlank⟩, ⟨last, stops, stopsNotBlank⟩⟩

theorem tight_bracket : TightKind (Is "[") :=
  tight_is rfl rfl (by decide) (by decide)

theorem tight_brackets : TightKind (Is "](") :=
  tight_is rfl rfl (by decide) (by decide)

theorem tight_comma : TightKind (Is ",") :=
  tight_is rfl rfl (by decide) (by decide)

theorem tight_close : TightKind (Is ")") :=
  tight_is rfl rfl (by decide) (by decide)

theorem tight_id (id : EntityId) : TightKind (EntityId.Denotes · id) :=
  fun _ denotes => denotes.tight

theorem tight_object (bound : Option EntityId) :
    TightKind (ObjectDenotes · bound) := by
  intro token denotes
  cases bound with
  | none => exact tight_is rfl rfl (by decide) (by decide) token denotes
  | some id => exact tight_id id token denotes

theorem tight_literal (content : String) :
    TightKind (Literal.Denotes · content) := by
  rintro token ⟨body, rfl, -⟩
  constructor
  · exact ⟨'"', rfl, by decide⟩
  · refine ⟨'"', ?_, by decide⟩
    rw [← List.cons_append]
    exact List.getLast?_concat

theorem tight_of_mem_tokens (call : VerbCall) :
    ∀ kind ∈ call.tokens, TightKind kind := by
  simp only [tokens, Command.fields, List.flatMap_cons, List.flatMap_nil,
    List.cons_append, List.nil_append, List.forall_mem_cons, tight_id,
    tight_bracket, tight_literal, tight_brackets, tight_comma, tight_object,
    tight_close, List.not_mem_nil, false_implies, implies_true, and_self]

/-! ## One reader after the other -/

theorem bind_eq_ok_iff
    {result : Except Failure α}
    {next : α → Except Failure β}
    {value : β} :
    (result >>= next) = .ok value ↔
      ∃ middle, result = .ok middle ∧ next middle = .ok value := by
  cases result <;> simp [bind, Except.bind]

theorem laidOut_is_iff
    (source : List Char)
    {word : String}
    (tight : TightKind (Is word)) :
    LaidOut (Is word :: kinds) text ↔
      ∃ rest, readToken source word text = .ok rest ∧ LaidOut kinds rest := by
  rw [laidOut_cons_iff tight]
  constructor
  · rintro ⟨_, rest, rfl, starts, remaining⟩
    refine ⟨rest, ?_, remaining⟩
    simp only [readToken, after?_eq_some_iff.mpr starts]
  · rintro ⟨rest, read, remaining⟩
    cases found : after? word.toList (trimStart text) with
    | none =>
        simp only [readToken, found] at read
        cases read
    | some after =>
        simp only [readToken, found] at read
        cases read
        exact ⟨_, _, rfl, after?_eq_some_iff.mp found, remaining⟩

/-- What is laid out in the given way does not start with a digit. -/
def NoDigitFirst (kinds : List (List Char → Prop)) : Prop :=
  ∀ text, LaidOut kinds text → EndsNumeral text

theorem noDigitFirst_is
    {word : String}
    {first : Char}
    (starts : word.toList.head? = some first)
    (notDigit : first.isDigit = false) :
    NoDigitFirst (Is word :: kinds) := by
  intro text laid character head
  cases laid with
  | @cons _ _ blanks _ rest blank isToken remaining =>
      cases isToken
      cases blanks with
      | nil =>
          rcases List.head?_eq_some_iff.mp starts with ⟨others, written⟩
          rw [written] at head
          cases head
          exact notDigit
      | cons space spaces =>
          cases head
          apply Bool.eq_false_iff.mpr
          intro digit
          have notBlank := EntityId.isBlank_of_isDigit digit
          rw [blank _ List.mem_cons_self] at notBlank
          cases notBlank

theorem readEntity_eq_ok_iff
    {source : List Char}
    {id : EntityId}
    {rest : List Char} :
    readEntity source text = .ok (id, rest) ↔
      ∃ token, EntityId.Denotes token id ∧ trimStart text = token ++ rest ∧
        EndsNumeral rest := by
  constructor
  · intro read
    by_cases mark : ∃ after, trimStart text = '#' :: after
    · rcases mark with ⟨after, starts⟩
      rw [readEntity_of_mark source starts] at read
      split at read
      · next found denoted =>
          cases read
          refine ⟨_, EntityId.ofCharacters?_eq_some_iff.mp denoted, ?_, ?_⟩
          · rw [starts, List.cons_append, List.takeWhile_append_dropWhile]
          · intro character head
            have first := List.head?_dropWhile_not Char.isDigit after
            rw [head] at first
            simpa using first
      · cases read
    · rw [readEntity_of_no_mark source (not_exists.mp mark)] at read
      cases read
  · rintro ⟨token, denotes, starts, ends⟩
    have read := EntityId.ofCharacters?_eq_some_iff.mpr denotes
    rcases denotes with ⟨digits, rfl, -, allDigits, -⟩
    obtain ⟨taken, dropped⟩ := ends.span digits allDigits
    rw [List.cons_append] at starts
    rw [readEntity_of_mark source starts, taken, dropped, read]

theorem laidOut_id_iff
    (source : List Char)
    {id : EntityId}
    (noDigit : NoDigitFirst kinds) :
    LaidOut ((EntityId.Denotes · id) :: kinds) text ↔
      ∃ rest, readEntity source text = .ok (id, rest) ∧ LaidOut kinds rest := by
  rw [laidOut_cons_iff (tight_id id)]
  constructor
  · rintro ⟨token, rest, denotes, starts, remaining⟩
    exact ⟨rest, readEntity_eq_ok_iff.mpr ⟨token, denotes, starts,
        noDigit rest remaining⟩, remaining⟩
  · rintro ⟨rest, read, remaining⟩
    rcases readEntity_eq_ok_iff.mp read with ⟨token, denotes, starts, -⟩
    exact ⟨token, rest, denotes, starts, remaining⟩

theorem laidOut_object_iff
    (source : List Char)
    {bound : Option EntityId}
    (noDigit : NoDigitFirst kinds) :
    LaidOut ((ObjectDenotes · bound) :: kinds) text ↔
      ∃ rest, readObject source text = .ok (bound, rest) ∧
        LaidOut kinds rest := by
  rw [laidOut_cons_iff (tight_object bound)]
  constructor
  · rintro ⟨token, rest, denotes, starts, remaining⟩
    refine ⟨rest, ?_, remaining⟩
    cases bound with
    | none =>
        cases denotes
        simp only [readObject, after?_eq_some_iff.mpr starts]
    | some id =>
        have ends := noDigit rest remaining
        have again : trimStart (trimStart text) = token ++ rest := by
          rw [starts, (tight_id id token denotes).trimStart_append]
        have read : readEntity source (trimStart text) = .ok (id, rest) :=
          readEntity_eq_ok_iff.mpr ⟨token, denotes, again, ends⟩
        have notVoid : after? voidText.toList (trimStart text) = none := by
          rcases denotes with ⟨digits, rfl, -⟩
          rw [starts]
          rfl
        simp only [readObject, notVoid]
        exact bind_eq_ok_iff.mpr ⟨_, read, rfl⟩
  · rintro ⟨rest, read, remaining⟩
    simp only [readObject] at read
    split at read
    · next after found =>
        cases read
        exact ⟨_, _, rfl, after?_eq_some_iff.mp found, remaining⟩
    · rcases bind_eq_ok_iff.mp read with ⟨⟨id, after⟩, readId, same⟩
      cases same
      rcases readEntity_eq_ok_iff.mp readId with ⟨token, denotes, starts, -⟩
      rw [trimStart_trimStart] at starts
      exact ⟨token, _, denotes, starts, remaining⟩

theorem laidOut_literal_iff
    (source : List Char)
    {content : String} :
    LaidOut ((Literal.Denotes · content) :: kinds) text ↔
      ∃ rest, readLiteral source text = .ok (content, rest) ∧
        LaidOut kinds rest := by
  rw [laidOut_cons_iff (tight_literal content)]
  constructor
  · rintro ⟨token, rest, denotes, starts, remaining⟩
    refine ⟨rest, ?_, remaining⟩
    have quoted : ∃ body, token = '"' :: (body ++ ['"']) := by
      rcases denotes with ⟨body, same, -⟩
      exact ⟨body, same⟩
    have decoded := (Literal.decode_eq_ok_iff_denotes quoted).mpr denotes
    simp only [readLiteral_eq, starts, denotes.leadingLiteral_append,
      decoded, List.drop_left]
    rfl
  · rintro ⟨rest, read, remaining⟩
    rw [readLiteral_eq] at read
    split at read
    · next token leads =>
        rcases bind_eq_ok_iff.mp read with ⟨value, decoded, same⟩
        cases same
        rcases Literal.exists_of_leadingLiteral leads with
          ⟨body, after, quoted, starts⟩
        have denotes :=
          (Literal.decode_eq_ok_iff_denotes ⟨body, quoted⟩).mp decoded
        refine ⟨token, after, denotes, starts, ?_⟩
        rwa [starts, List.drop_left] at remaining
    · cases read

theorem laidOut_field_iff
    (source : List Char)
    {content : String} :
    LaidOut (Is "," :: (Literal.Denotes · content) :: kinds) text ↔
      ∃ rest, readField source text = .ok (content, rest) ∧
        LaidOut kinds rest := by
  rw [laidOut_is_iff source tight_comma]
  constructor
  · rintro ⟨middle, comma, laid⟩
    rcases (laidOut_literal_iff source).mp laid with ⟨rest, read, remaining⟩
    exact ⟨rest, bind_eq_ok_iff.mpr ⟨middle, comma, read⟩, remaining⟩
  · rintro ⟨rest, read, remaining⟩
    rcases bind_eq_ok_iff.mp read with ⟨middle, comma, read⟩
    exact ⟨middle, comma,
      (laidOut_literal_iff source).mpr ⟨rest, read, remaining⟩⟩

theorem end_eq_ok_iff
    {rest : List Char}
    {failure : Failure}
    {made call : VerbCall} :
    (if (trimStart rest).isEmpty = true then pure made else throw failure) =
        (Except.ok call : Except Failure VerbCall) ↔
      LaidOut [] rest ∧ made = call := by
  rw [laidOut_nil_iff, ← List.isEmpty_iff]
  split
  · next ended => simp [ended, pure, Except.pure]
  · next goesOn => simp [goesOn, throw, throwThe, MonadExceptOf.throw]

/-! ## Whole fragments -/

/-- The decoder gives a call exactly when the text is laid out as the
code of that call. -/
theorem decode_eq_ok_iff
    {code : String}
    {call : VerbCall} :
    decode code = .ok call ↔ LaidOut call.tokens code.toList := by
  have bracket {kinds : List (List Char → Prop)} :
      NoDigitFirst (Is "[" :: kinds) :=
    noDigitFirst_is rfl (by decide)
  have comma {kinds : List (List Char → Prop)} :
      NoDigitFirst (Is "," :: kinds) :=
    noDigitFirst_is rfl (by decide)
  rw [← laidOut_trim_iff (tight_of_mem_tokens call)]
  generalize trimmed : trim code.toList = source
  -- both sides become: one reader after the other succeeds, and nothing is left
  simp only [tokens, Command.fields, List.flatMap_cons, List.flatMap_nil,
    List.cons_append, List.nil_append, laidOut_id_iff source bracket,
    laidOut_id_iff source comma, laidOut_object_iff source comma,
    laidOut_field_iff source, laidOut_literal_iff source,
    laidOut_is_iff source tight_bracket, laidOut_is_iff source tight_brackets,
    laidOut_is_iff source tight_comma, laidOut_is_iff source tight_close]
  simp only [decode, trimmed, bind_eq_ok_iff, Prod.exists, end_eq_ok_iff]
  constructor
  · rintro ⟨owner, _, readOwner, _, opened, verb, _, readVerb, _, called,
      player, _, readPlayer, _, toDirect, direct, _, readDirect, _, toIndirect,
      indirect, _, readIndirect, word, _, readWord, argument, _, readArgument,
      directObject, _, readDirectObject, preposition, _, readPreposition,
      indirectObject, _, readIndirectObject, _, closed, ended, rfl⟩
    exact ⟨_, readOwner, _, opened, _, readVerb, _, called, _,
      readPlayer, _, toDirect, _, readDirect, _, toIndirect, _, readIndirect, _,
      readWord, _, readArgument, _, readDirectObject, _, readPreposition, _,
      readIndirectObject, _, closed, ended⟩
  · rintro ⟨_, readOwner, _, opened, _, readVerb, _, called, _,
      readPlayer, _, toDirect, _, readDirect, _, toIndirect, _, readIndirect, _,
      readWord, _, readArgument, _, readDirectObject, _, readPreposition, _,
      readIndirectObject, _, closed, ended⟩
    exact ⟨_, _, readOwner, _, opened, _, _, readVerb, _, called,
      _, _, readPlayer, _, toDirect, _, _, readDirect, _, toIndirect, _, _,
      readIndirect, _, _, readWord, _, _, readArgument, _, _, readDirectObject,
      _, _, readPreposition, _, _, readIndirectObject, _, closed, ended, rfl⟩

/-! ## Refusals -/

/-- If the result is a failure, then one that says that code is malformed. -/
def Refuses (result : Except Failure α) : Prop :=
  ∀ failure, result = .error failure → ∃ message, failure = .literal message

theorem refuses_ok (value : α) : Refuses (.ok value) := by
  rintro failure ⟨⟩

theorem refuses_literal (message : String) :
    Refuses (.error (.literal message) : Except _ α) := by
  rintro failure ⟨⟩
  exact ⟨message, rfl⟩

theorem Refuses.bind
    {result : Except Failure α}
    {next : α → Except Failure β}
    (first : Refuses result)
    (second : ∀ value, Refuses (next value)) :
    Refuses (result >>= next) := by
  cases result with
  | ok value => exact second value
  | error failure =>
      rcases first failure rfl with ⟨message, rfl⟩
      exact refuses_literal message

theorem refuses_readToken (source : List Char) (word : String)
    (text : List Char) :
    Refuses (readToken source word text) := by
  simp only [readToken]
  split
  · exact refuses_ok _
  · exact refuses_literal _

theorem refuses_readEntity (source text : List Char) :
    Refuses (readEntity source text) := by
  by_cases mark : ∃ rest, trimStart text = '#' :: rest
  · rcases mark with ⟨rest, starts⟩
    rw [readEntity_of_mark source starts]
    split
    · exact refuses_ok _
    · exact refuses_literal _
  · rw [readEntity_of_no_mark source (not_exists.mp mark)]
    exact refuses_literal _

theorem refuses_readObject (source text : List Char) :
    Refuses (readObject source text) := by
  simp only [readObject]
  split
  · exact refuses_ok _
  · apply (refuses_readEntity source _).bind
    intro read
    exact refuses_ok _

theorem refuses_decodeLiteral (literal : String) :
    Refuses (Literal.decode literal) := by
  unfold Literal.decode
  split
  · exact refuses_ok _
  · exact refuses_literal _

theorem refuses_readLiteral (source text : List Char) :
    Refuses (readLiteral source text) := by
  rw [readLiteral_eq]
  split
  · apply (refuses_decodeLiteral _).bind
    intro value
    exact refuses_ok _
  · exact refuses_literal _

theorem refuses_readField (source text : List Char) :
    Refuses (readField source text) := by
  apply (refuses_readToken source "," text).bind
  intro rest
  exact refuses_readLiteral source rest

theorem refuses_end
    (source rest : List Char)
    (made : VerbCall) :
    Refuses
      (if (trimStart rest).isEmpty = true then pure made
        else throw (unexpected source "end of fragment" (trimStart rest))) := by
  split
  · exact refuses_ok made
  · exact refuses_literal _

theorem refuses_decode (code : String) : Refuses (decode code) := by
  exact
    (refuses_readEntity _ _).bind fun ⟨_, _⟩ =>
    (refuses_readToken _ "[" _).bind fun _ =>
    (refuses_readLiteral _ _).bind fun ⟨_, _⟩ =>
    (refuses_readToken _ "](" _).bind fun _ =>
    (refuses_readEntity _ _).bind fun ⟨_, _⟩ =>
    (refuses_readToken _ "," _).bind fun _ =>
    (refuses_readObject _ _).bind fun ⟨_, _⟩ =>
    (refuses_readToken _ "," _).bind fun _ =>
    (refuses_readObject _ _).bind fun ⟨_, _⟩ =>
    (refuses_readField _ _).bind fun ⟨_, _⟩ =>
    (refuses_readField _ _).bind fun ⟨_, _⟩ =>
    (refuses_readField _ _).bind fun ⟨_, _⟩ =>
    (refuses_readField _ _).bind fun ⟨_, _⟩ =>
    (refuses_readField _ _).bind fun ⟨_, _⟩ =>
    (refuses_readToken _ ")" _).bind fun _ =>
    refuses_end _ _ _

/--
The decoder accepts exactly the texts of the grammar, with the call that
they denote, and refuses every other text as malformed.  Where it takes off
the bytes of an id or of a literal, these end between two characters, at
the end of the token.
-/
theorem decodes_exactly_its_grammar :
    (∀ code call, decode code = .ok call ↔ LaidOut call.tokens code.toList) ∧
      (∀ code, (∀ call : VerbCall, ¬ LaidOut call.tokens code.toList) →
        ∃ message, decode code = .error (.literal message)) ∧
        (∀ rest,
          (EntityId.tokenLength? ('#' :: rest)).bind
              (splitAtByte? · ('#' :: rest)) =
            some ('#' :: rest.takeWhile Char.isDigit,
              rest.dropWhile Char.isDigit)) ∧
          ∀ text,
            (Literal.literalLength text).bind (splitAtByte? · text.toList) =
              (Literal.leadingLiteral text.toList).map fun token =>
                (token, text.toList.drop token.length) := by
  refine ⟨fun _ _ => decode_eq_ok_iff, ?_, EntityId.splitAtByte?_tokenLength,
    Literal.splitAtByte?_literalLength⟩
  intro code nothing
  cases decoded : decode code with
  | ok call => exact absurd (decode_eq_ok_iff.mp decoded) (nothing call)
  | error failure =>
      rcases refuses_decode code failure decoded with ⟨message, rfl⟩
      exact ⟨message, rfl⟩

end TextWorld.VerbCall
