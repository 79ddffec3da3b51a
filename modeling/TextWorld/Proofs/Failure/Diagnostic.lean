import Mathlib.Data.List.Basic
import TextWorld.Failure.Basic

/-!
# What a diagnostic tells

A diagnostic starts with the name and the message of the failure, and below
them stand the lines of its context.  Source and calls are all told there, in
order.  The position is written behind the source, so it is told exactly when
there is a source.
-/

namespace TextWorld

open TextWorld.Text

/-! ## Texts in order -/

/-- The pieces occur in the text, each of them after the end of
the one before it. -/
inductive InOrder : List (List Char) → List Char → Prop where
  | nil (text : List Char) : InOrder [] text
  | cons {piece after : List Char} {others : List (List Char)}
      (before : List Char)
      (later : InOrder others after) :
      InOrder (piece :: others) (before ++ (piece ++ after))

namespace InOrder

variable {piece text after : List Char} {pieces others : List (List Char)}

theorem prepend (before : List Char) (inOrder : InOrder pieces text) :
    InOrder pieces (before ++ text) := by
  cases inOrder with
  | nil => exact .nil _
  | cons between later =>
      rw [← List.append_assoc]
      exact .cons (before ++ between) later

theorem append
    (first : InOrder pieces text)
    (second : InOrder others after) :
    InOrder (pieces ++ others) (text ++ after) := by
  induction first with
  | nil text => exact second.prepend text
  | cons before _ inductive_step =>
      rw [List.append_assoc, List.append_assoc]
      exact .cons before inductive_step

/-- A piece occurs in a text that ends with it. -/
theorem behind (before piece : List Char) :
    InOrder [piece] (before ++ piece) := by
  have alone : InOrder [piece] (before ++ (piece ++ [])) :=
    .cons before (.nil [])
  rwa [List.append_nil] at alone

/-- Some of the pieces are in order, too. -/
theorem sublist
    (inOrder : InOrder pieces text)
    (some_of : others.Sublist pieces) :
    InOrder others text := by
  induction inOrder generalizing others with
  | nil text =>
      rw [List.sublist_nil.mp some_of]
      exact .nil text
  | @cons piece after rest before _ inductive_step =>
      rcases List.sublist_cons_iff.mp some_of with
        skipped | ⟨kept, rfl, some_kept⟩
      · exact ((inductive_step skipped).prepend piece).prepend before
      · exact .cons before (inductive_step some_kept)

/-- As the pieces do not overlap, a character is in them no more often
than in the text. -/
theorem count_le
    (inOrder : InOrder pieces text)
    (character : Char) :
    pieces.flatten.count character ≤ text.count character := by
  induction inOrder with
  | nil text => exact Nat.zero_le _
  | cons before _ inductive_step =>
      rw [List.flatten_cons, List.count_append, List.count_append,
        List.count_append]
      omega

end InOrder

/-! ## What there is to tell -/

namespace Failure

/-- Line and column, when both are known. -/
def Context.position? (context : Context) : Option String :=
  match context.line, context.column with
  | some line, some column => some (decimal line ++ ":" ++ decimal column)
  | _, _ => none

/-- What there is to tell of a context: the source, the position
and the calls. -/
def Context.details (context : Context) : List String :=
  context.source.toList ++ (context.position?.toList ++ context.stack)

/-- Name and message. -/
def heading (failure : Failure) : String :=
  failure.kind.name ++ ": " ++ failure.message

/-- The diagnostic starts with name and message and tells the texts after
that, in order. -/
def Tells (failure : Failure) (texts : List String) : Prop :=
  ∃ rest, failure.diagnostic = failure.heading ++ rest ∧
    InOrder (texts.map String.toList) rest.toList

/-- What there is to tell of a failure after name and message. -/
def details (failure : Failure) : List String :=
  failure.context.elim [] Context.details

/-- A position is known only together with a source. -/
def Placed (failure : Failure) : Prop :=
  ∀ context, failure.context = some context → context.position? ≠ none →
    context.source ≠ none

/-- The lines of a context, each behind a line break. -/
def Context.below (context : Context) : String :=
  String.join (context.lines.map ("\n" ++ ·))

variable {failure : Failure} {context : Context} {texts : List String}

/-! ## The lines of a context -/

/-- The position is written behind the source. -/
theorem Context.sourceLine_eq (context : Context) :
    context.sourceLine =
      context.source.map fun source =>
        "    at " ++ source ++ context.position?.elim "" (":" ++ ·) := by
  unfold sourceLine position?
  cases context.line with
  | none => simp
  | some line =>
      cases context.column with
      | none => simp
      | some column => simp [String.append_assoc]

theorem Context.isEmpty_eq_true_iff :
    context.isEmpty = true ↔ context.lines = [] := by
  simp [isEmpty, lines, sourceLine_eq]

theorem lineBreak_intercalate {lines : List String} (nonempty : lines ≠ []) :
    "\n" ++ "\n".intercalate lines = String.join (lines.map ("\n" ++ ·)) := by
  induction lines with
  | nil => exact absurd rfl nonempty
  | cons line others inductive_step =>
      cases others with
      | nil => simp
      | cons next more =>
          have later := inductive_step (List.cons_ne_nil next more)
          rw [List.map_cons, String.join_cons, ← later,
            String.intercalate_cons_cons]
          simp only [String.append_assoc]

/-- Name and message are followed by the lines of the context,
if there are any. -/
theorem diagnostic_eq (failure : Failure) :
    failure.diagnostic =
      failure.heading ++ failure.context.elim "" Context.below := by
  cases given : failure.context with
  | none => simp [diagnostic, given, heading, message]
  | some context =>
      simp only [diagnostic, given, Option.elim_some]
      split
      · next empty =>
          simp [Context.below, Context.isEmpty_eq_true_iff.mp empty,
            heading, message]
      · next shown =>
          have nonempty :=
            fun nothing => shown (Context.isEmpty_eq_true_iff.mpr nothing)
          rw [Context.below, ← lineBreak_intercalate nonempty,
            String.append_assoc]
          rfl

/-! ## What is told -/

theorem tells_iff :
    failure.Tells texts ↔
      InOrder (texts.map String.toList)
        (failure.context.elim "" Context.below).toList := by
  constructor
  · rintro ⟨rest, written, inOrder⟩
    rw [diagnostic_eq, String.append_right_inj] at written
    rwa [written]
  · intro inOrder
    exact ⟨_, diagnostic_eq failure, inOrder⟩

theorem Context.below_eq (context : Context) :
    context.below.toList =
      (context.sourceLine.toList.flatMap fun line => '\n' :: line.toList) ++
        context.stack.flatMap fun frame =>
          '\n' :: (frameLine frame).toList := by
  simp [below, lines, List.flatMap_map, Function.comp_def]

theorem Context.below_of_no_source (nowhere : context.source = none) :
    context.below.toList =
      context.stack.flatMap fun frame => '\n' :: (frameLine frame).toList := by
  rw [below_eq, sourceLine_eq, nowhere]
  rfl

theorem inOrder_frames (stack : List String) :
    InOrder (stack.map String.toList)
      (stack.flatMap fun frame => '\n' :: (frameLine frame).toList) := by
  induction stack with
  | nil => exact .nil _
  | cons frame others inductive_step =>
      have told :
          InOrder [frame.toList] ('\n' :: (frameLine frame).toList) := by
        rw [frameLine, String.toList_append]
        exact .behind ('\n' :: "    in ".toList) frame.toList
      exact told.append inductive_step

/-- The lines of the calls have no colons but those of the calls. -/
theorem count_frames (stack : List String) :
    (stack.flatMap fun frame => '\n' :: (frameLine frame).toList).count ':' =
      (stack.map String.toList).flatten.count ':' := by
  induction stack with
  | nil => rfl
  | cons frame others inductive_step =>
      rw [List.flatMap_cons, List.count_append, inductive_step]
      simp [frameLine]

/-- With a source all that there is to tell is told. -/
theorem Context.inOrder_details
    {source : String}
    (given : context.source = some source) :
    InOrder (context.details.map String.toList) context.below.toList := by
  have before := InOrder.behind "\n    at ".toList source.toList
  have behind :
      InOrder (context.position?.toList.map String.toList)
        (context.position?.elim "" (":" ++ ·)).toList := by
    cases context.position? with
    | none => exact .nil _
    | some position =>
        rw [Option.elim_some, String.toList_append]
        exact .behind ":".toList position.toList
  have told := before.append (behind.append (inOrder_frames context.stack))
  rw [below_eq, sourceLine_eq, given]
  simpa [details, given] using told

/-- Without a source a known position is not told in addition to the calls. -/
theorem Context.not_inOrder_details
    {position : String}
    (known : context.position? = some position)
    (nowhere : context.source = none) :
    ¬ InOrder (context.details.map String.toList) context.below.toList := by
  intro inOrder
  have colon : 0 < position.toList.count ':' := by
    unfold position? at known
    split at known
    · cases known
      exact List.count_pos_iff.mpr (by simp)
    · cases known
  have fits := inOrder.count_le ':'
  rw [below_of_no_source nowhere, count_frames] at fits
  simp only [details, nowhere, known, Option.toList_none, Option.toList_some,
    List.nil_append, List.singleton_append, List.map_cons, List.flatten_cons,
    List.count_append] at fits
  omega

theorem tells_details_iff (failure : Failure) :
    failure.Tells failure.details ↔ failure.Placed := by
  rw [tells_iff]
  cases given : failure.context with
  | none =>
      rw [details, given]
      refine ⟨fun _ => ?_, fun _ => .nil _⟩
      intro context same
      cases given.symm.trans same
  | some context =>
      rw [details, given, Option.elim_some, Option.elim_some]
      constructor
      · intro inOrder other same known nowhere
        cases given.symm.trans same
        rcases Option.ne_none_iff_exists'.mp known with ⟨position, known⟩
        exact Context.not_inOrder_details known nowhere inOrder
      · intro placed
        cases origin : context.source with
        | some source => exact Context.inOrder_details origin
        | none =>
            have unknown : context.position? = none := by
              by_contra known
              exact placed context given known origin
            rw [Context.below_of_no_source origin, Context.details,
              origin, unknown]
            exact inOrder_frames context.stack

/-- Source and calls are told with or without a position. -/
theorem Context.inOrder_source_stack (context : Context) :
    InOrder ((context.source.toList ++ context.stack).map String.toList)
      context.below.toList := by
  cases origin : context.source with
  | some source =>
      refine (inOrder_details origin).sublist (.map _ ?_)
      rw [details, origin]
      exact (List.Sublist.refl _).append (List.sublist_append_right _ _)
  | none =>
      rw [below_of_no_source origin]
      exact inOrder_frames context.stack

/--
A diagnostic consists of name and message and, below them, the lines of the
context.  It tells the source and every call, in order; and all that there is to
tell, the position between source and calls included, exactly when a known
position comes with a source.
-/
theorem diagnostic_tells_details_iff_placed (failure : Failure) :
    failure.diagnostic =
        failure.kind.name ++ ": " ++ failure.message ++
          failure.context.elim "" Context.below ∧
      failure.Tells
        (failure.context.elim [] fun context =>
            context.source.toList ++ context.stack) ∧
      (failure.Tells failure.details ↔ failure.Placed) := by
  refine ⟨diagnostic_eq failure, ?_, tells_details_iff failure⟩
  rw [tells_iff]
  cases failure.context with
  | none => exact .nil _
  | some context => exact context.inOrder_source_stack

/-- The failure of rubbing a lamp: it knows its position but no source. -/
def genieIsOut : Failure where
  kind := .script "Verb::#3.rub" "the genie is out"
  context :=
    some { line := some 3, column := some 7, stack := ["Verb::#3.rub"] }

/-- Not every diagnostic tells all that there is to tell. -/
theorem position_without_source_is_not_told :
    ¬ ∀ failure : Failure, failure.Tells failure.details := by
  intro complete
  have told := tells_iff.mp (complete genieIsOut)
  exact Context.not_inOrder_details rfl rfl told

end Failure

end TextWorld
