import TextWorld.Demo
import TextWorld.Proofs.Snippet.Literal
import TextWorld.Proofs.Text.Marks

/-!
# What the evaluator of the small world makes of snippets

The evaluator looks for the returned expression in the text of a unit: from the
last mark of a return to the last end of one.  It finds the last statement of
the snippet if that is an expression without the mark in it, whatever the other
statements contain, and if no line returns anything it finds no mark.  But a
mark in a string is taken for a return like any other.
-/

namespace TextWorld.Demo

open TextWorld.Snippet
open TextWorld.Text

/-- The value of an expression, if it is `player`, a written id
or a JSON text. -/
def expressionValue? (expression : List Char) : Option Value :=
  if expression = "player".toList then
    some (.entity player)
  else
    match EntityId.ofCharacters? expression with
    | some id => some (.entity id)
    | none => Value.ofJsonText? (String.ofList expression)

/-- The value that the last statement of a snippet has, if it can be evaluated:
no value if it is not an expression or there is none. -/
def promised (source : String) : Option Value :=
  match (statements source.toList).getLast? with
  | none => some .absent
  | some last =>
      if isExpression last then expressionValue? last else some .absent

/-- The mark is not in the last statement, if that is an expression, and
otherwise in no line. -/
structure Unmarked (source : String) : Prop where
  expression :
    ∀ last ∈ (statements source.toList).getLast?, isExpression last = true →
    ¬ returnMark <:+: last
  lines :
    (∀ last ∈ (statements source.toList).getLast?, isExpression last = false) →
    ∀ line ∈ bodyLines (statements source.toList), ¬ returnMark <:+: line.toList

variable {source label : String} {left text last : List Char}
  {others : List (List Char)} {typist : EntityId}

theorem toOption_evaluateExpression (label : String) (expression : List Char) :
    (evaluateExpression label expression).toOption =
      expressionValue? expression := by
  have same :
      String.ofList expression = "player" ↔ expression = "player".toList := by
    constructor
    · intro equal
      rw [← equal, String.toList_ofList]
    · rintro rfl
      rfl
  simp only [evaluateExpression, expressionValue?, same]
  split
  · rfl
  · cases EntityId.ofCharacters? expression with
    | some id => rfl
    | none =>
        cases Value.ofJsonText? (String.ofList expression) with
        | some value => rfl
        | none => rfl

/-! ## Where the marks are -/

theorem returnMark_eq :
    returnMark = [' ', ' ', 'r', 'e', 't', 'u', 'r', 'n', ' ', '('] := by
  rfl

theorem returnEnd_eq : returnEnd = [')', ';', '\n'] := by
  rfl

theorem returnMark_ne_nil : returnMark ≠ [] := by
  rw [returnMark_eq]
  exact List.cons_ne_nil _ _

theorem returnEnd_ne_nil : returnEnd ≠ [] := by
  rw [returnEnd_eq]
  exact List.cons_ne_nil _ _

/-- A unit is closed with brackets and the id of who typed it. -/
theorem closing_eq :
    (closing typist).toList =
      '\x7d' :: ')' :: '(' :: (typist.characters ++ [')']) := by
  simp [closing]

theorem notMem_closing
    {character : Char}
    (noDigit : character.isDigit = false)
    (noBracket : character ∉ ['\x7d', ')', '(', '#']) :
    character ∉ (closing typist).toList := by
  intro member
  rw [closing_eq] at member
  simp only [EntityId.characters, List.mem_cons, List.mem_append,
    List.not_mem_nil, or_false] at member
  simp only [List.mem_cons, List.not_mem_nil, or_false, not_or] at noBracket
  rcases noBracket with ⟨notCurly, notClosing, notOpening, notHash⟩
  rcases member with curly | round | opening | (hash | digit) | last
  · exact notCurly curly
  · exact notClosing round
  · exact notOpening opening
  · exact notHash hash
  · rw [isDigit_of_mem_decimalDigits digit] at noDigit
    cases noDigit
  · exact notClosing last

/-- No other mark starts inside a mark. -/
theorem infix_tail_returnMark_iff {right : List Char} :
    returnMark <:+: (returnMark ++ right).tail ↔ returnMark <:+: right := by
  rw [returnMark_eq]
  simp [List.infix_cons_iff, List.cons_prefix_cons]

theorem not_infix_returnEnd :
    ¬ returnEnd <:+: (returnEnd ++ (closing typist).toList).tail := by
  have noSemicolon : ';' ∉ (closing typist).toList :=
    notMem_closing (by decide) (by decide)
  rw [returnEnd_eq]
  intro occurs
  simp only [List.cons_append, List.nil_append, List.tail_cons,
    List.infix_cons_iff, List.cons_prefix_cons] at occurs
  rcases occurs with ⟨unequal, -⟩ | ⟨unequal, -⟩ | inside
  · exact absurd unequal (by decide)
  · exact absurd unequal (by decide)
  · exact noSemicolon (inside.subset (by decide))

theorem not_infix_closing : ¬ returnMark <:+: (closing typist).toList := by
  have noSpace : ' ' ∉ (closing typist).toList :=
    notMem_closing (by decide) (by decide)
  rw [returnMark_eq]
  intro occurs
  exact noSpace (occurs.subset List.mem_cons_self)

theorem infix_returned_iff :
    returnMark <:+: text ++ (returnEnd ++ (closing typist).toList) ↔
      returnMark <:+: text := by
  have noBracket : ')' ∉ returnMark := by
    rw [returnMark_eq]
    decide
  have noBreak : '\n' ∉ returnMark := by
    rw [returnMark_eq]
    decide
  have nowhere : ¬ returnMark <:+: [';'] := by
    rw [returnMark_eq]
    decide
  have parted :
      returnEnd ++ (closing typist).toList =
        ')' :: ([';'] ++ '\n' :: (closing typist).toList) := by
    rw [returnEnd_eq]
    rfl
  rw [parted, infix_append_cons_iff noBracket, infix_append_cons_iff noBreak]
  exact or_iff_left (not_or.mpr ⟨nowhere, not_infix_closing⟩)

theorem infix_unit_iff :
    returnMark <:+: (unit source typist).toList ↔
      ∃ line ∈ bodyLines (statements source.toList),
        returnMark <:+: line.toList := by
  have noBreak : '\n' ∉ returnMark := by
    rw [returnMark_eq]
    decide
  let start := ['(', 'f', 'u', 'n', 'c', 't', 'i', 'o', 'n', ' ', '(', 'p', 'l',
    'a', 'y', 'e', 'r', ')', ' ', '\x7b']
  have opened : opening.toList = start ++ ['\n'] := by
    rfl
  have nowhere : ¬ returnMark <:+: start ++ ['\n'] := by
    rw [returnMark_eq]
    decide
  rw [unit, String.toList_append, String.toList_append,
    List.append_assoc, opened,
    infix_concat_append_iff noBreak, or_iff_right nowhere,
    infix_join_append_iff noBreak fun _ member =>
      exists_toList_of_mem_bodyLines member]
  exact or_iff_left not_infix_closing

/-! ## What is evaluated -/

/-- The text between the last mark and the end of the line is evaluated. -/
theorem evaluate_of_toList_eq
    {code : String}
    (written :
      code.toList = left ++
        (returnMark ++ (text ++ (returnEnd ++ (closing typist).toList))))
    (unmarked : ¬ returnMark <:+: text) :
    evaluate code label = evaluateExpression label (trim text) := by
  have lastMark :
      ¬ returnMark <:+:
        (returnMark ++
          (text ++ (returnEnd ++ (closing typist).toList))).tail := by
    rwa [infix_tail_returnMark_iff, infix_returned_iff]
  simp only [evaluate, written, afterLast?_append returnMark_ne_nil lastMark,
    beforeLast?_append returnEnd_ne_nil not_infix_returnEnd]

theorem evaluate_of_unmarked
    {code : String}
    (unmarked : ¬ returnMark <:+: code.toList) :
    evaluate code label = .ok .absent := by
  simp only [evaluate, (afterLast?_eq_none_iff returnMark_ne_nil).mpr unmarked]

theorem evaluate_unit_of_isExpression
    (divided : statements source.toList = others ++ [last])
    (expression : isExpression last = true)
    (unmarked : ¬ returnMark <:+: last) :
    evaluate (unit source typist) label = evaluateExpression label last := by
  have tight : Tight last := by
    apply tight_of_mem_statements
    rw [divided]
    exact List.mem_append_right others List.mem_cons_self
  have written := toList_unit_of_isExpression divided expression typist
  rw [evaluate_of_toList_eq written unmarked, tight.trim_eq]

/-- An expression with a mark in it is not evaluated itself, but what follows
its last mark is. -/
theorem evaluate_unit_of_marked
    (divided :
      statements source.toList = others ++ [left ++ (returnMark ++ text)])
    (expression : isExpression (left ++ (returnMark ++ text)) = true)
    (unmarked : ¬ returnMark <:+: text) :
    evaluate (unit source typist) label =
      evaluateExpression label (trim text) := by
  have written :
      (unit source typist).toList =
        ((opening ++ String.join (others.map statementLine)).toList ++
          (returnMark ++ left)) ++
          (returnMark ++ (text ++ (returnEnd ++ (closing typist).toList))) := by
    rw [toList_unit_of_isExpression divided expression typist]
    simp only [List.append_assoc]
    rfl
  exact evaluate_of_toList_eq written unmarked

/-- The evaluator keeps what the last statement promises, unless it is
misled by a mark. -/
theorem toOption_evaluate_unit
    (unmarked : Unmarked source)
    (label : String) :
    (evaluate (unit source typist) label).toOption = promised source := by
  have unmarkedExpression := unmarked.expression
  have unmarkedLines := unmarked.lines
  unfold promised
  rcases List.eq_nil_or_concat (statements source.toList) with
    nothing | ⟨others, last, divided⟩
  · have absent : ¬ returnMark <:+: (unit source typist).toList := by
      simp [infix_unit_iff, nothing, bodyLines]
    rw [evaluate_of_unmarked absent, nothing]
    rfl
  · rw [List.concat_eq_append] at divided
    rw [divided, List.getLast?_concat] at unmarkedExpression unmarkedLines
    rw [divided, List.getLast?_concat]
    simp only [Option.mem_def, Option.some.injEq,
      forall_eq'] at unmarkedExpression unmarkedLines
    cases expression : isExpression last with
    | true =>
        rw [evaluate_unit_of_isExpression divided expression
          (unmarkedExpression expression), toOption_evaluateExpression]
        simp only [expression, if_true]
    | false =>
        have absent : ¬ returnMark <:+: (unit source typist).toList := by
          rw [infix_unit_iff, divided]
          rintro ⟨line, member, occurs⟩
          exact unmarkedLines expression line member occurs
        rw [evaluate_of_unmarked absent]
        simp only [expression, Bool.false_eq_true, if_false]
        rfl

/-! ## Literals -/

theorem ofJsonText?_escape (content : String) :
    Value.ofJsonText? (Literal.escape content) = some (.string content) := by
  have start :
      Json.skipBlanks (Literal.escapeCharacters content.toList) =
        '"' :: (content.toList.flatMap Literal.escapeCharacter ++ ['"']) := by
    rfl
  have tree : Json.Tree.ofText? (Literal.escape content) =
      some (.string (some content)) := by
    simp only [Json.Tree.ofText?, Literal.toList_escape, Json.Tree.read, start,
      Json.Tree.readContent, Literal.readString_escape, String.ofList_toList]
    rfl
  simp [Value.ofJsonText?, tree, Json.Tree.depth, Value.ofTree?]

/-- The value of a literal is its text. -/
theorem promised_escape (content : String) :
    promised (Literal.escape content) = some (.string content) := by
  have notPlayer :
      Literal.escapeCharacters content.toList ≠ "player".toList := by
    rintro same
    have first := congrArg List.head? same
    simp [Literal.escapeCharacters] at first
  have noId : EntityId.ofCharacters? (Literal.escapeCharacters content.toList) =
      none := by
    rfl
  have value := ofJsonText?_escape content
  rw [Literal.escape] at value
  simp only [promised, Literal.toList_escape, statements_escapeCharacters,
    List.getLast?_singleton, isExpression_escapeCharacters, if_true,
    expressionValue?, if_neg notPlayer, noId, value]

theorem unmarked_escape
    {content : String}
    (unmarked : ¬ returnMark <:+: content.toList) :
    Unmarked (Literal.escape content) := by
  constructor
  · rw [Literal.toList_escape, statements_escapeCharacters]
    rintro last ⟨⟩ - occurs
    apply unmarked
    rw [returnMark_eq] at occurs ⊢
    have noSpace : ' ' ∉ ['"'] := by decide
    have inside := infix_of_infix_append noSpace occurs
    exact infix_of_infix_escape (by simp) inside
  · intro noExpression
    rw [Literal.toList_escape, statements_escapeCharacters] at noExpression
    have expression := isExpression_escapeCharacters content.toList
    rw [noExpression (Literal.escapeCharacters content.toList) rfl]
      at expression
    cases expression

/-! ## Literals with a mark -/

theorem exists_last_infix
    {mark content : List Char}
    (occurs : mark <:+: content)
    (nonempty : mark ≠ []) :
    ∃ before after,
      content = before ++ (mark ++ after) ∧ ¬ mark <:+: after := by
  induction content with
  | nil => exact absurd (List.infix_nil.mp occurs) nonempty
  | cons first rest inductive_step =>
      by_cases later : mark <:+: rest
      · rcases inductive_step later with ⟨before, after, rfl, last⟩
        exact ⟨first :: before, after, rfl, last⟩
      · rcases (List.infix_cons_iff.mp occurs).resolve_right later with
          ⟨after, starts⟩
        refine ⟨[], after, starts.symm, ?_⟩
        intro again
        apply later
        cases mark with
        | nil => exact absurd rfl nonempty
        | cons character others =>
            rcases List.cons.inj starts with ⟨-, rfl⟩
            exact again.trans (List.suffix_append others after).isInfix

/-- A quote comes first in the rest of a literal only if it is the one
that closes it. -/
theorem eq_nil_of_trimStart_escape
    {content rest : List Char}
    (starts : trimStart (content.flatMap Literal.escapeCharacter ++ ['"']) =
      '"' :: rest) :
    rest = [] := by
  induction content with
  | nil =>
      cases starts
      rfl
  | cons character others inductive_step =>
      rw [List.flatMap_cons, List.append_assoc] at starts
      have kind := escaped_escapeCharacter character
      generalize Literal.escapeCharacter character = written at starts kind
      cases kind with
      | plain notQuote notBackslash =>
          rw [List.singleton_append] at starts
          by_cases blank : isBlank character = true
          · rw [trimStart_cons_of_isBlank blank] at starts
            exact inductive_step starts
          · rw [trimStart_cons_of_not_isBlank (Bool.eq_false_iff.mpr blank)]
              at starts
            exact absurd (List.cons.inj starts).1 notQuote
      | escape noSpace noEnd =>
          rw [List.cons_append,
            trimStart_cons_of_not_isBlank (by decide)] at starts
          cases starts

theorem exists_of_read_eq_string
    {limit : Nat}
    {text rest : List Char}
    {content : Option String}
    (read : Json.Tree.read limit text = some (.string content, rest)) :
    ∃ inside found,
      Json.skipBlanks text = '"' :: inside ∧
        Json.Tree.readContent inside = some found := by
  cases limit with
  | zero =>
      rw [Json.Tree.read] at read
      cases read
  | succ limit =>
      rw [Json.Tree.read] at read
      split at read
      · cases read
      · cases read
      · cases read
      · next inside starts =>
          rcases Option.map_eq_some_iff.mp read with ⟨found, inside_read, -⟩
          exact ⟨inside, found, starts, inside_read⟩
      · split at read
        · cases read
        · rcases Option.map_eq_some_iff.mp read with ⟨found, -, same⟩
          cases same
      · split at read
        · cases read
        · rcases Option.map_eq_some_iff.mp read with ⟨found, -, same⟩
          cases same
      · unfold Json.Tree.readNumber at read
        split at read
        · cases read
        · cases read
        · cases read

theorem exists_of_ofTree?_eq_string
    {tree : Json.Tree}
    {content : String}
    (value : Value.ofTree? tree = some (.string content)) :
    ∃ found, tree = .string found := by
  cases tree with
  | string found => exact ⟨found, rfl⟩
  | null => simp [Value.ofTree?] at value
  | bool flag => simp [Value.ofTree?] at value
  | hugeNumber => simp [Value.ofTree?] at value
  | array items => simp [Value.ofTree?] at value
  | object members => simp [Value.ofTree?] at value
  | number numeral =>
      cases numeral with
      | natural number =>
          simp only [Value.ofTree?, Value.ofNumeral, Option.some.injEq] at value
          split at value
          · cases value
          · cases value
      | negative number => simp [Value.ofTree?, Value.ofNumeral] at value
      | real number => simp [Value.ofTree?, Value.ofNumeral] at value

/-- A text whose value is a string starts with a quote, after which a
string is read. -/
theorem exists_of_ofJsonText?_eq_string
    {text : List Char}
    {content : String}
    (value : Value.ofJsonText? (String.ofList text) = some (.string content)) :
    ∃ inside found,
      Json.skipBlanks text = '"' :: inside ∧
        Json.Tree.readContent inside = some found := by
  rcases Option.bind_eq_some_iff.mp value with ⟨tree, parsed, valued⟩
  split at valued
  · rcases exists_of_ofTree?_eq_string valued with ⟨found, rfl⟩
    rw [Json.Tree.ofText?, String.toList_ofList] at parsed
    split at parsed
    · next read =>
        split at parsed
        · cases parsed
          exact exists_of_read_eq_string read
        · cases parsed
    · cases parsed
  · cases valued

theorem expressionValue?_of_not_quote
    {expression : List Char}
    {content : String}
    (noString : ∀ inside, Json.skipBlanks expression = '"' :: inside →
      inside = []) :
    expressionValue? expression ≠ some (.string content) := by
  unfold expressionValue?
  split
  · simp
  · split
    · simp
    · intro value
      rcases exists_of_ofJsonText?_eq_string value with
        ⟨inside, found, starts, read⟩
      rw [noString inside starts] at read
      cases read

theorem isBlank_of_isJsonBlank
    {character : Char}
    (blank : Json.isJsonBlank character = true) :
    isBlank character = true := by
  simp only [Json.isJsonBlank, Bool.or_eq_true, beq_iff_eq] at blank
  rcases blank with ((rfl | rfl) | rfl) | rfl <;> decide

/-- The rest of a literal holds no string after its first quote. -/
theorem eq_nil_of_skipBlanks_trim_escape
    {content inside : List Char}
    (starts :
      Json.skipBlanks (trim (content.flatMap Literal.escapeCharacter ++
          ['"'])) = '"' :: inside) :
    inside = [] := by
  cases trimmed :
      trimStart (content.flatMap Literal.escapeCharacter ++ ['"']) with
  | nil =>
      rw [trim, trimmed] at starts
      cases starts
  | cons first rest =>
      have notBlank := isBlank_head_trimStart trimmed
      have alone : Tight [first] :=
        ⟨⟨first, rfl, notBlank⟩, ⟨first, rfl, notBlank⟩⟩
      have kept : trimEnd (first :: rest) = first :: trimEnd rest :=
        alone.trimEnd_append [] rest
      have stays : Json.isJsonBlank first = false := by
        apply Bool.eq_false_iff.mpr
        intro blank
        rw [isBlank_of_isJsonBlank blank] at notBlank
        cases notBlank
      rw [trim, trimmed, kept, Json.skipBlanks, List.dropWhile_cons,
        stays] at starts
      cases starts
      rw [eq_nil_of_trimStart_escape trimmed]
      rfl

/-- A literal for a text with a mark in it is not evaluated to the text. -/
theorem toOption_evaluate_unit_escape_ne
    {content : String}
    (marked : returnMark <:+: content.toList)
    (label : String) :
    (evaluate (unit (Literal.escape content) player) label).toOption ≠
      some (.string content) := by
  rcases exists_last_infix marked returnMark_ne_nil with
    ⟨before, after, parted, last⟩
  let text := after.flatMap Literal.escapeCharacter ++ ['"']
  let left := '"' :: before.flatMap Literal.escapeCharacter
  have spelled : returnMark.flatMap Literal.escapeCharacter = returnMark := by
    rw [returnMark_eq]
    rfl
  have whole : Literal.escapeCharacters content.toList =
      left ++ (returnMark ++ text) := by
    rw [Literal.escapeCharacters, parted]
    simp [spelled, left, text]
  have divided : statements (Literal.escape content).toList =
      [] ++ [left ++ (returnMark ++ text)] := by
    rw [Literal.toList_escape, statements_escapeCharacters, whole]
    rfl
  have expression : isExpression (left ++ (returnMark ++ text)) = true := by
    rw [← whole]
    exact isExpression_escapeCharacters content.toList
  have unmarked : ¬ returnMark <:+: text := by
    intro occurs
    apply last
    rw [returnMark_eq] at occurs ⊢
    exact infix_of_infix_escape (by simp) occurs
  rw [evaluate_unit_of_marked divided expression unmarked,
    toOption_evaluateExpression]
  apply expressionValue?_of_not_quote
  intro inside starts
  exact eq_nil_of_skipBlanks_trim_escape starts

/-- A literal is evaluated to its text exactly when the text has
no mark in it. -/
theorem toOption_evaluate_unit_escape_iff
    {content : String}
    (label : String) :
    (evaluate (unit (Literal.escape content) player) label).toOption =
        some (.string content) ↔
      ¬ returnMark <:+: content.toList := by
  constructor
  · intro value marked
    exact toOption_evaluate_unit_escape_ne marked label value
  · intro unmarked
    rw [toOption_evaluate_unit (unmarked_escape unmarked), promised_escape]

end TextWorld.Demo
