import TextWorld.Proofs.Invocation.RoundTrip
import TextWorld.Snippet
import TextWorld.World.Run

/-!
# What the world takes code for

The world is handed two kinds of generated code: fragments for verb calls, and
units that evaluate a snippet.  It tells them apart by trying to decode a call.
A fragment is decoded to the call it was written for, and a unit, which starts
with a bracket, to none; so neither is ever taken for the other.
-/

namespace TextWorld

open TextWorld.Text

namespace VerbCall

/-- Code that starts with anything but the `#` of an id is no verb call. -/
theorem decode_eq_error
    {code : String}
    {first : Char}
    {rest : List Char}
    (trimmed : trim code.toList = first :: rest)
    (notBlank : isBlank first = false)
    (notId : first ≠ '#') :
    decode code =
      .error (unexpected (first :: rest) "entity literal" (first :: rest)) := by
  have refused :
      readEntity (first :: rest) (first :: rest) =
        .error
          (unexpected (first :: rest) "entity literal" (first :: rest)) := by
    have trimmedToo := trimStart_cons_of_not_isBlank notBlank rest
    have noMark (others : List Char) :
        trimStart (first :: rest) ≠ '#' :: others := by
      rw [trimmedToo]
      exact fun same => notId (List.cons.inj same).1
    rw [readEntity_of_no_mark _ noMark, trimmedToo]
  simp only [decode, trimmed, refused, bind, Except.bind]

end VerbCall

namespace Snippet

/-- The code of a unit is no verb call. -/
theorem decode_unit (source : String) (player : EntityId) :
    ∃ failure, VerbCall.decode (unit source player) = .error failure := by
  have start : (unit source player).toList.head? = some '(' := by
    simp [unit, opening]
  have stop : (unit source player).toList.getLast? = some ')' := by
    rw [unit, closing, ← String.append_assoc, String.toList_append]
    exact List.getLast?_concat
  obtain ⟨rest, written⟩ := List.head?_eq_some_iff.mp start
  have trimmed : trim (unit source player).toList = '(' :: rest := by
    rw [trim_eq_self start stop (by decide) (by decide), written]
  exact ⟨_, VerbCall.decode_eq_error trimmed (by decide) (by decide)⟩

end Snippet

namespace World

/-- The verb that a call invokes, if its owner exists and has a
verb of that name. -/
def callee? (world : World) (call : VerbCall) : Option Verb :=
  (world.objects.get? call.owner).bind (·.verb? call.verb)

/-- The failure of a call for which there is no verb. -/
def noVerb (world : World) (call : VerbCall) (label : String) : Failure :=
  if world.has call.owner then
    .script label (call.owner.text ++ "." ++ call.verb ++ " is not a verb")
  else
    .entityNotFound call.owner

theorem invoked_eq (world : World) (call : VerbCall) (label : String) :
    world.invoked call label =
      match world.callee? call with
      | some verb => .ok verb.body
      | none => .error (world.noVerb call label) := by
  rw [callee?]
  cases present : world.objects.get? call.owner with
  | none =>
      simp [invoked, World.object, noVerb, has, Table.contains, present,
        bind, Except.bind]
  | some object =>
      cases named : object.verb? call.verb with
      | none =>
          simp [invoked, World.object, noVerb, has, Table.contains, present,
            named, bind, Except.bind]
          rfl
      | some verb =>
          simp [invoked, World.object, present, named, bind, Except.bind]
          rfl

/-- A fragment is handed to the verb that its call invokes. -/
theorem runWith_code (calls : Calls) (call : VerbCall) (label : String)
    (world : World) :
    runWith calls call.code label world = invoke calls call label world := by
  simp only [runWith, VerbCall.decode_code]

/-- A unit is handed to the evaluator. -/
theorem runWith_unit
    (calls : Calls)
    (source : String)
    (player : EntityId)
    (label : String)
    (world : World) :
    runWith calls (Snippet.unit source player) label world =
      evaluate calls (Snippet.unit source player) label world := by
  obtain ⟨failure, refused⟩ := Snippet.decode_unit source player
  simp only [runWith, refused]

/--
Every fragment is decoded to the call it was written for and invokes its verb;
no unit is decoded to a call, and every unit is evaluated.
-/
theorem fragments_and_units_kept_apart :
    (∀ call : VerbCall, VerbCall.decode call.code = .ok call) ∧
      (∀ (source : String) (player : EntityId),
        ∃ failure,
          VerbCall.decode (Snippet.unit source player) = .error failure) ∧
      (∀ (calls : Calls) (call : VerbCall) (label : String) (world : World),
        runWith calls call.code label world = invoke calls call label world) ∧
      ∀ (calls : Calls) (source : String) (player : EntityId) (label : String)
        (world : World),
        runWith calls (Snippet.unit source player) label world =
          evaluate calls (Snippet.unit source player) label world :=
  ⟨VerbCall.decode_code, Snippet.decode_unit, runWith_code, runWith_unit⟩

end World

end TextWorld
