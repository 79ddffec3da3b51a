import TextWorld.Proofs.Demo.Furniture
import TextWorld.Proofs.World.Naming
import TextWorld.Proofs.World.Precedence

/-!
# What a line does to the small world

As long as the player is in one of the rooms, the words of a line tell which
move it attempts, if any; and but for what is told, that is all the line does
to the small world.
-/

namespace TextWorld

open World

namespace Demo

/-- The player is in one of the rooms of the small world. -/
structure AtHome (programmer : Bool) (world : World)
    (room : EntityId) : Prop where
  furnished : Furnished programmer world
  isRoom : room ∈ rooms
  located : world.location player = .ok (some room)

/-- The move that a command attempts in a room, if any. -/
def errand (world : World) (room : EntityId) (command : Command)
    (objects : BoundObjects) :
    List Mutation :=
  if command.verb ∈ ["take", "get"] then
    takeMoves player room objects.direct
  else if command.verb = "drop" then
    dropMoves world player room objects.direct
  else if command.verb ∈ ["go", "walk"] then
    [.move player (across room)]
  else if command.verb = "put" ∧ command.preposition = "in" ∧
    objects.indirect = some chest then
    putMoves objects.direct objects.indirect
  else
    []

variable {programmer : Bool} {world after : World} {room owner : EntityId}
  {command : Command} {objects : BoundObjects} {call : VerbCall}
  {verb : Verb} {levels : Nat}

/-- The objects that were bound are what the words of the command
mean to the player. -/
structure Meant (world : World) (command : Command)
    (objects : BoundObjects) : Prop where
  direct : ∀ id,
    objects.direct = some id ↔
      world.Means player (wordOf command.directObject) id
  indirect : ∀ id,
    objects.indirect = some id ↔
      world.Means player (wordOf command.indirectObject) id

/-- An errand is one move at most. -/
theorem errand_cases
    (world : World)
    (room : EntityId)
    (command : Command)
    (objects : BoundObjects) :
    errand world room command objects = [] ∨
      ∃ thing destination,
        errand world room command objects = [.move thing destination] := by
  rw [errand]
  split_ifs
  · cases objects.direct with
    | none => exact .inl rfl
    | some thing =>
        rw [takeMoves]
        split
        · exact .inr ⟨_, _, rfl⟩
        · exact .inl rfl
  · cases objects.direct with
    | none => exact .inl rfl
    | some thing =>
        rw [dropMoves]
        split
        · exact .inr ⟨_, _, rfl⟩
        · exact .inl rfl
  · exact .inr ⟨_, _, rfl⟩
  · cases objects.direct with
    | none => exact .inl rfl
    | some thing =>
        cases objects.indirect with
        | none => exact .inl rfl
        | some container => exact .inr ⟨_, _, rfl⟩
  · exact .inl rfl

theorem Furnished.attempts_errand
    (furnished : Furnished programmer world)
    (room : EntityId)
    (command : Command)
    (objects : BoundObjects) :
    Furnished programmer
      (world.attempts (errand world room command objects)) := by
  rcases errand_cases world room command objects with
    nothing | ⟨thing, destination, move⟩
  · rw [nothing]
    exact furnished
  · rw [move]
    exact furnished.attempt_move thing destination

/-! ## What becomes of a command -/

/-- Evaluating code leaves the world as it is. -/
theorem Furnished.run_unit_snd
    (furnished : Furnished programmer world)
    (levels : Nat)
    (source : String)
    (typist : EntityId) :
    ((World.calls (levels + 1)).run (Snippet.unit source typist)
      (Snippet.label typist) world).2 =
      world := by
  rw [run_unit furnished.evaluates, leavingBody_snd]

theorem run_snd_of_callee
    (callee : world.callee? call = some verb) :
    ((World.calls (levels + 1)).run call.code call.label world).2 =
      ((verb.body call.invocation).perform (World.calls levels) world).2 := by
  simp only [World.calls, runWith_code, invoke, invoked_eq, callee,
    leavingBody_snd]

theorem run_snd_of_no_callee
    (callee : world.callee? call = none) :
    ((World.calls (levels + 1)).run call.code call.label world).2 = world := by
  simp only [World.calls, runWith_code, invoke, invoked_eq, callee]

theorem hushed_run_of_talks
    (talks : ∀ verb, world.callee? call = some verb →
      ∀ invocation, (verb.body invocation).Talks) :
    ((World.calls (levels + 1)).run call.code call.label world).2.hushed =
      world.hushed := by
  cases callee : world.callee? call with
  | none => rw [run_snd_of_no_callee callee]
  | some verb =>
      rw [run_snd_of_callee callee]
      exact (talks verb callee call.invocation).hushed_perform _ world

section AtHome

variable {actor : Entity} {words : List String} {binding : VerbBinding}

/-- Verbs are sought for the words for moving things, and not on the player. -/
theorem sought_of_errand (spoken : command.verb ∈ errandWords) :
    Sought command ∧ command.verb ∉ ["inventory", "i"] := by
  have each : ∀ word ∈ errandWords,
      (word ≠ "" ∧ word ≠ VerbBinding.missingVerb) ∧
        word ∉ ["inventory", "i"] := by
    decide
  exact each _ spoken

theorem RoomErrand.mem_errandWords (errand : RoomErrand room words verb) :
    ∀ word ∈ words, word ∈ errandWords := by
  cases errand <;> decide

/-- The verbs for moving things are found on the room. -/
theorem AtHome.matchVerb_room
    (home : AtHome programmer world room)
    (errand : RoomErrand room words verb)
    (spoken : command.verb ∈ words)
    (own : actor.id = player) :
    world.matchVerb actor command objects =
      .ok (some (.matched room verb.signature.name)) := by
  rcases sought_of_errand (errand.mem_errandWords _ spoken) with
    ⟨sought, notCarried⟩
  have located : world.location actor.id = .ok (some room) := own ▸ home.located
  have passed : world.bindingOn? command objects actor.id = none := by
    rw [own, home.furnished.bindingOn?_eq]
    exact bindingOn?_player notCarried
  have bound : world.bindingOn? command objects room =
      some (.matched room verb.signature.name) := by
    rw [home.furnished.bindingOn?_eq]
    exact bindingOn?_room home.isRoom errand spoken
  rw [matchVerb_of_located sought located]
  simp [passed, bound]

/-- The verb for putting is found if the chest is what something is put in. -/
theorem AtHome.matchVerb_put
    (home : AtHome programmer world room)
    (spoken : command.verb = "put")
    (own : actor.id = player)
    (objects : BoundObjects) :
    world.matchVerb actor command objects =
      .ok (if command.preposition = "in" ∧ objects.indirect = some chest then
        some (.matched chest "put") else none) := by
  have sought : Sought command := by
    rw [Sought, spoken]
    decide
  have located : world.location actor.id = .ok (some room) := own ▸ home.located
  have onChest : world.bindingOn? command objects chest =
      if command.preposition = "in" ∧ objects.indirect = some chest then
        some (.matched chest "put")
      else
        none := by
    rw [home.furnished.bindingOn?_eq, bindingOn?_chest spoken]
  have elsewhere (owner : EntityId) (notChest : owner ≠ chest) :
      world.bindingOn? command objects owner = none := by
    rw [home.furnished.bindingOn?_eq, bindingOn?_put_of_ne spoken notChest]
  rw [matchVerb_of_located sought located]
  cases found : (actor.id :: ((some room).toList ++ objects.direct.toList ++
      objects.indirect.toList)).findSome? (world.bindingOn?
        command objects) with
  | none =>
      have nothing := List.findSome?_eq_none_iff.mp found
      split
      · next fits =>
          have bound := nothing chest (by simp [fits.2])
          rw [onChest, if_pos fits] at bound
          cases bound
      · rfl
  | some binding =>
      rcases List.exists_of_findSome?_eq_some found with ⟨owner, -, bound⟩
      by_cases isChest : owner = chest
      · rw [← onChest, ← bound, isChest]
      · rw [elsewhere owner isChest] at bound
        cases bound

/-- What a verb on the room does if the word of a command is for
moving something. -/
theorem AtHome.run_snd_room
    (home : AtHome programmer world room)
    (errand : RoomErrand room words verb)
    (owner : call.owner = room)
    (name : call.verb = verb.signature.name) :
    ((World.calls (levels + 1)).run call.code call.label world).2 =
      ((verb.body call.invocation).perform (World.calls levels) world).2 := by
  apply run_snd_of_callee
  rw [home.furnished.callee?_eq]
  exact callee?_room home.isRoom errand owner name

/-- If the word of a command is not for moving things, the verb that
is found talks. -/
theorem AtHome.talks_of_matched
    (home : AtHome programmer world room)
    (matched : world.matchVerb actor command objects = .ok (some binding))
    (bound : call = .ofBinding binding player objects command)
    (still : command.verb ∉ errandWords)
    (callee : world.callee? call = some verb)
    (invocation : Invocation) :
    (verb.body invocation).Talks := by
  rcases exists_selects_of_matchVerb matched with
    ⟨owner, selected, selects, rfl⟩
  have chosen := verbOn?_eq_some_iff.mpr selects.first
  rw [home.furnished.verbOn?_eq] at chosen
  rcases Option.bind_eq_some_iff.mp chosen with ⟨object, found, search⟩
  have member := List.mem_of_find?_eq_some search
  have word : command.verb ∈ selected.signature.names := by
    have passes := List.find?_some search
    rw [Bool.and_eq_true, VerbSignature.answersTo,
      List.contains_iff_mem] at passes
    exact passes.1
  have again : world.callee? call = some selected := by
    rw [home.furnished.callee?_eq, callee?, bound]
    exact Option.bind_eq_some_iff.mpr ⟨object, found, verb?_of_mem found member⟩
  obtain rfl := Option.some.inj (again.symm.trans callee)
  rcases talks_or_errand found member with talks | words
  · exact talks invocation
  · exact absurd (words _ word) still

/-- If no verb is found, the command attempts no move. -/
theorem AtHome.errand_eq_nil
    (home : AtHome programmer world room)
    (own : actor.id = player)
    (unmatched : ∀ binding,
      world.matchVerb actor command objects ≠ .ok (some binding)) :
    errand world room command objects = [] := by
  have notRoom {words : List String} {verb : Verb}
      (errand : RoomErrand room words verb) :
      command.verb ∉ words := by
    intro spoken
    exact unmatched _ (home.matchVerb_room errand spoken own)
  have notDrop : command.verb ≠ "drop" :=
    fun drop => notRoom .drop (by simp [drop])
  rw [errand, if_neg (notRoom .take), if_neg notDrop,
    if_neg (notRoom .go), if_neg]
  rintro ⟨spoken, fits⟩
  have matched := home.matchVerb_put spoken own objects
  rw [if_pos fits] at matched
  exact unmatched _ matched

/-- A verb that is found does what the errand of the command says, and talks. -/
theorem AtHome.hushed_run
    (home : AtHome programmer world room)
    (own : actor.id = player)
    (matched : world.matchVerb actor command objects = .ok (some binding))
    (bound : call = .ofBinding binding player objects command) :
    ((World.calls (levels + 1)).run call.code call.label world).2.hushed =
      (world.attempts (errand world room command objects)).hushed := by
  have found {words : List String} {verb : Verb}
      (errand : RoomErrand room words verb)
      (spoken : command.verb ∈ words) :
        binding = .matched room verb.signature.name := by
    cases matched.symm.trans (home.matchVerb_room errand spoken own)
    rfl
  rw [errand]
  split_ifs with take drop go put
  · rw [found .take take] at bound
    subst bound
    rw [home.run_snd_room .take rfl rfl]
    exact hushed_take _ _ world
  · rw [found .drop (by simp [drop])] at bound
    subst bound
    rw [home.run_snd_room .drop rfl rfl]
    exact hushed_drop _ _ world
  · rw [found .go go] at bound
    subst bound
    rw [home.run_snd_room .go rfl rfl]
    exact hushed_go _ _ world (across room)
  · rcases put with ⟨spoken, fits⟩
    have onChest := home.matchVerb_put spoken own objects
    rw [if_pos fits] at onChest
    cases matched.symm.trans onChest
    subst bound
    have callee : world.callee?
        (.ofBinding (.matched chest "put") player objects command) =
        some putVerb := by
      rw [home.furnished.callee?_eq]
      rfl
    rw [run_snd_of_callee callee]
    exact hushed_put _ _ world
  · have still : command.verb ∉ errandWords := by
      intro spoken
      have put' : command.verb = "put" := by
        simp only [errandWords, List.mem_cons, List.not_mem_nil,
          or_false] at spoken take go
        tauto
      have unmatched := home.matchVerb_put put' own objects
      rw [if_neg fun fits => put ⟨put', fits⟩] at unmatched
      cases matched.symm.trans unmatched
    exact hushed_run_of_talks fun verb callee =>
      home.talks_of_matched matched bound still callee

/-- What nobody understands is answered by talk. -/
theorem AtHome.talks_of_missing
    (home : AtHome programmer world room)
    (missing : call.verb = VerbBinding.missingVerb)
    (callee : world.callee? call = some verb)
    (invocation : Invocation) :
    (verb.body invocation).Talks := by
  rw [home.furnished.callee?_eq] at callee
  rcases Option.bind_eq_some_iff.mp callee with ⟨object, found, search⟩
  have answers := List.find?_some search
  rw [VerbSignature.answersTo, List.contains_iff_mem] at answers
  rcases talks_or_errand found (List.mem_of_find?_eq_some search) with
    talks | words
  · exact talks invocation
  · have spoken := words _ answers
    rw [missing] at spoken
    exact absurd spoken (by decide)

theorem AtHome.exists_load (home : AtHome programmer world room) :
    ∃ loaded, world.load player = .ok loaded ∧ loaded.id = player := by
  rcases location_eq_ok_iff.mp home.located with ⟨self, found, -⟩
  rw [World.load, World.object, found]
  exact ⟨_, rfl, rfl⟩

/-- The objects of a command are found, whatever they are. -/
theorem AtHome.exists_meant
    (home : AtHome programmer world room)
    (distinct : world.objects.Distinct)
    (own : actor.id = player)
    (command : Command) :
    ∃ objects, world.matchObjects actor command = .ok objects ∧
      Meant world command objects := by
  rcases location_eq_ok_iff.mp home.located with ⟨self, found, -⟩
  rcases matchName_means distinct found command.directObject with
    ⟨direct, first, directs⟩
  rcases matchName_means distinct found command.indirectObject with
    ⟨indirect, second, indirects⟩
  refine ⟨⟨direct, indirect⟩, ?_, directs, indirects⟩
  rw [matchObjects, own, first, second]
  rfl

/-- Matching only looks at the world.  It comes to the verb that is found; if
there is none, then to that for what nobody understands at most. -/
theorem matchCommand_cases
    (found : world.matchObjects actor command = .ok objects)
    (levels : Nat) :
    (∃ binding, world.matchVerb actor command objects = .ok (some binding) ∧
        Turn.matchCommand (World.collaborators levels) actor command world =
          (.ok (some (objects, binding)), world)) ∨
      (∀ binding, world.matchVerb actor command objects ≠ .ok (some binding)) ∧
        ∃ answer,
          Turn.matchCommand (World.collaborators levels) actor command world =
              (answer, world) ∧
            ∀ bound binding, answer = .ok (some (bound, binding)) →
              binding.verb = VerbBinding.missingVerb := by
  simp only [Turn.matchCommand, World.collaborators, found]
  cases sought : world.matchVerb actor command objects with
  | error failure =>
      refine .inr ⟨?_, _, rfl, ?_⟩
      · rintro binding ⟨⟩
      · rintro bound binding ⟨⟩
  | ok binding? =>
      cases binding? with
      | some binding => exact .inl ⟨binding, rfl, rfl⟩
      | none =>
          refine .inr ⟨by rintro binding ⟨⟩, ?_⟩
          cases actor.location with
          | none => exact ⟨_, rfl, by rintro bound binding ⟨⟩⟩
          | some place =>
              dsimp only
              cases world.load place with
              | error failure => exact ⟨_, rfl, by rintro bound binding ⟨⟩⟩
              | ok around =>
                  dsimp only
                  split
                  · refine ⟨_, rfl, ?_⟩
                    rintro bound binding ⟨⟩
                    rfl
                  · exact ⟨_, rfl, by rintro bound binding ⟨⟩⟩

/-- What a command is matched to does what the errand of the command
says, and talks. -/
theorem AtHome.hushed_run_match
    (home : AtHome programmer world room)
    (own : actor.id = player)
    (found : world.matchObjects actor command = .ok objects)
    {others : BoundObjects}
    (matched : Turn.matchCommand (World.collaborators (levels + 1)) actor
      command world = (.ok (some (others, binding)), after))
    (bound : call = .ofBinding binding actor.id others command) :
    ((World.calls (levels + 1)).run call.code call.label after).2.hushed =
      (world.attempts (errand world room command objects)).hushed := by
  rcases matchCommand_cases found (levels + 1) with
    ⟨sought, verb, answered⟩ | ⟨unmatched, answer, answered, missing⟩
  · cases answered.symm.trans matched
    rw [own] at bound
    exact home.hushed_run own verb bound
  · cases answered.symm.trans matched
    rw [home.errand_eq_nil own unmatched]
    have name : call.verb = VerbBinding.missingVerb := by
      rw [bound]
      exact missing _ _ rfl
    exact hushed_run_of_talks fun verb callee =>
      home.talks_of_missing name callee

/-- If nothing is matched for a command, it attempts no move. -/
theorem AtHome.errand_eq_nil_of_no_match
    (home : AtHome programmer world room)
    (own : actor.id = player)
    (found : world.matchObjects actor command = .ok objects)
    {answer : Except Failure (Option (BoundObjects × VerbBinding))}
    (matched : Turn.matchCommand (World.collaborators levels) actor command
      world = (answer, after))
    (nothing : ∀ something, answer ≠ .ok (some something)) :
    after = world ∧ errand world room command objects = [] := by
  rcases matchCommand_cases found levels with
    ⟨sought, verb, answered⟩ | ⟨unmatched, answer, answered, missing⟩
  · cases answered.symm.trans matched
    exact absurd rfl (nothing _)
  · cases answered.symm.trans matched
    exact ⟨rfl, home.errand_eq_nil own unmatched⟩

theorem verb_of_eval
    (disposed : Disposition.of command programmer = .eval) :
    command.verb = evalVerb := by
  rw [Disposition.of] at disposed
  split at disposed
  · next spoken => exact spoken.1
  · split at disposed <;> cases disposed

theorem verb_of_quit
    (disposed : Disposition.of command programmer = .quit) :
    command.verb = quitVerb := by
  rw [Disposition.of] at disposed
  split at disposed
  · cases disposed
  · split at disposed
    · next spoken => exact spoken
    · cases disposed

theorem errand_of_still (still : command.verb ∉ errandWords) :
    errand world room command objects = [] := by
  simp only [errandWords, List.mem_cons, List.not_mem_nil, or_false,
    not_or] at still
  simp [errand, still]

/-- What is dispatched does what the errand of the command says, and talks. -/
theorem AtHome.hushed_dispatched
    {turn next : Turn World}
    {calls : List Call}
    {outcome : Turn.Outcome}
    (home : AtHome programmer world room)
    (distinct : world.objects.Distinct)
    (own : actor.id = player)
    (dispatched : Turn.Dispatched (World.collaborators (levels + 1)) actor
      command turn calls outcome next)
    (here : turn.world = world) :
    ∃ objects, Meant world command objects ∧
      next.world.hushed =
        (world.attempts (errand world room command objects)).hushed := by
  subst here
  rcases home.exists_meant distinct own command with ⟨objects, found, meant⟩
  refine ⟨objects, meant, ?_⟩
  have still {word : String} (spoken : command.verb = word)
      (other : word ∉ errandWords) :
      errand turn.world room command objects = [] :=
    errand_of_still (spoken ▸ other)
  cases dispatched with
  | evaluated disposed run | evaluationFailed disposed run =>
      rw [still (verb_of_eval disposed) (by decide)]
      have unchanged :=
        home.furnished.run_unit_snd levels command.argument actor.id
      simp only [World.collaborators] at run
      rw [run] at unchanged
      exact congrArg World.hushed unchanged
  | left disposed =>
      rw [still (verb_of_quit disposed) (by decide)]
      have told :=
        Turn.runHookBestEffort_world (World.collaborators (levels + 1)) .system
        disconnectHook [.entity actor.id] turn
      simp only [World.collaborators, home.furnished.runHook_eq] at told
      exact congrArg World.hushed told
  | notUnderstood disposed matching | matchingFailed disposed matching =>
      rcases home.errand_eq_nil_of_no_match own found matching.matchCommand_eq
        (by rintro something ⟨⟩) with ⟨rfl, nothing⟩
      rw [nothing]
      rfl
  | performed disposed matching bound run
  | verbFailed disposed matching bound run =>
      have done :=
        home.hushed_run_match own found matching.matchCommand_eq bound
      simp only [World.collaborators] at run
      rw [run] at done
      exact done

/--
A line that the player types in a room attempts the move that its words say, if
any.  But for what is told, it does nothing else to the small world.
-/
theorem AtHome.hushed_onInput
    {turn : Turn World}
    (home : AtHome programmer turn.world room)
    (distinct : turn.world.objects.Distinct)
    (live : turn.session.player = some player)
    (levels : Nat)
    (line : String) :
    let command := Command.parse turn.session.vocabulary line
    ∃ objects, Meant turn.world command objects ∧
      (turn.onInput (World.collaborators (levels + 1)) line).world.hushed =
        (turn.world.attempts
          (errand turn.world room command objects)).hushed := by
  rcases home.exists_load with ⟨loaded, load, own⟩
  have loading :
      (World.collaborators (levels + 1)).load player turn.world =
        (.ok loaded, turn.world) :=
    congrArg (·, turn.world) load
  have noHook := home.furnished.runHook_eq levels .system preprocessHook
    [.entity loaded.id, .string (Literal.escape line)]
  rcases Turn.onInput_course (World.collaborators (levels + 1)) line turn with
    ⟨calls, outcome, course⟩
  rcases course.of_load live loading with
    ⟨failure, after, failed, -⟩
        | ⟨reply, after, dispatchedCalls, heard, -, dispatched⟩
  · cases noHook.symm.trans failed
  · cases noHook.symm.trans heard
    have done := home.hushed_dispatched distinct own dispatched rfl
    exact done

end AtHome

end Demo

end TextWorld
