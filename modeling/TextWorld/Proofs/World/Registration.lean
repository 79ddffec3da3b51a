import TextWorld.Proofs.World.Nesting
import TextWorld.Proofs.World.Reachable

/-!
# Worlds that differ in one hook

Only running a hook shows whether it is registered.  So what runs in two
worlds that differ in one hook gives the same answers and leaves worlds that
again differ in that hook only, unless it asks for the hook, if only in a
call inside another.
-/

namespace TextWorld

namespace Table

variable {κ α : Type} [DecidableEq κ]

theorem erase_erase (table : Table κ α) (key : κ) :
    (table.erase key).erase key = table.erase key := by
  induction table with
  | nil => rfl
  | cons entry rest inductive_step => grind [erase]

theorem erase_set (table : Table κ α) (key other : κ) (value : α) :
    (table.set key value).erase other =
      if key = other then table.erase other
      else (table.erase other).set key value := by
  induction table with
  | nil => grind [set, erase]
  | cons entry rest inductive_step => grind [set, erase]

end Table

variable {key : HookScope × String} {world other after : World} {α : Type}

namespace World

/-- The world without the hook of the given scope and name. -/
def withoutHook (key : HookScope × String) (world : World) : World :=
  { world with hooks := world.hooks.erase key }

/-- The worlds are the same, apart from the hook of the given scope and name. -/
def AlikeBut (key : HookScope × String) (world other : World) : Prop :=
  world.withoutHook key = other.withoutHook key

theorem withoutHook_withoutHook (world : World) :
    (world.withoutHook key).withoutHook key = world.withoutHook key := by
  simp only [withoutHook, Table.erase_erase]

theorem alikeBut_withoutHook (world : World) :
    world.AlikeBut key (world.withoutHook key) :=
  (withoutHook_withoutHook world).symm

theorem alikeBut_of_hooks
    {hooks : Table (HookScope × String) (List Value → Script)}
    (same : world.hooks.erase key = hooks.erase key) :
    world.AlikeBut key { world with hooks } := by
  simp only [AlikeBut, withoutHook, same]

theorem AlikeBut.exists_hooks (alike : world.AlikeBut key other) :
    ∃ hooks, other = { world with hooks } ∧
      world.hooks.erase key = hooks.erase key := by
  cases world
  cases other
  simp only [AlikeBut, withoutHook, mk.injEq] at alike
  rcases alike with ⟨rfl, rfl, same, rfl, rfl, rfl⟩
  exact ⟨_, rfl, same⟩

theorem AlikeBut.get?_hooks
    (alike : world.AlikeBut key other)
    {probe : HookScope × String}
    (apart : key ≠ probe) :
    other.hooks.get? probe = world.hooks.get? probe := by
  rcases alike.exists_hooks with ⟨hooks, rfl, same⟩
  have kept := Table.get?_erase world.hooks key probe
  rw [same, Table.get?_erase, if_neg apart, if_neg apart] at kept
  exact kept

end World

/-- The replies give the same answer, and leave worlds that differ in
the hook at most. -/
structure AgreeBut (key : HookScope × String)
    (reply other : Reply World α) : Prop where
  answer : other.1 = reply.1
  alike : reply.2.AlikeBut key other.2

theorem AgreeBut.exists_eq
    {reply otherReply : Reply World α}
    (agree : AgreeBut key reply otherReply) :
    ∃ result after otherAfter,
      reply = (result, after) ∧ otherReply = (result, otherAfter) ∧
      after.AlikeBut key otherAfter := by
  rcases agree with ⟨answer, alike⟩
  exact ⟨reply.1, reply.2, otherReply.2, rfl, answer ▸ rfl, alike⟩

namespace World

/-! ## Single operations -/

/-- What is changed may fail or not, but does so in both worlds. -/
theorem AlikeBut.update
    (alike : world.AlikeBut key other)
    (id : EntityId)
    (change : WorldObject → WorldObject) :
    AgreeBut key (world.change (world.update id change))
      (other.change (other.update id change)) := by
  rcases alike.exists_hooks with ⟨hooks, rfl, same⟩
  simp only [World.update]
  cases world.objects.get? id with
  | some object => exact ⟨rfl, alikeBut_of_hooks same⟩
  | none => exact ⟨rfl, alike⟩

theorem checkPlace_withHooks
    (world : World)
    (hooks : Table (HookScope × String) (List Value → Script))
    (id : EntityId)
    (limit : Nat)
    (place : EntityId) :
    checkPlace { world with hooks } id limit place =
      checkPlace world id limit place := by
  induction limit generalizing place with
  | zero => rfl
  | succ limit inductive_step => simp only [checkPlace, inductive_step]

/-- Every operation does the same in both worlds. -/
theorem AlikeBut.mutate
    (alike : world.AlikeBut key other)
    (mutation : Mutation) :
    AgreeBut key (world.change (world.mutate mutation))
      (other.change (other.mutate mutation)) := by
  cases mutation with
  | create | setEvaluator | tell | takeTold | enter =>
      rcases alike.exists_hooks with ⟨hooks, rfl, same⟩
      exact ⟨rfl, alikeBut_of_hooks same⟩
  | addAliases | setProgrammer | defineVerb => exact alike.update _ _
  | recycle id =>
      rcases alike.exists_hooks with ⟨hooks, rfl, same⟩
      have sameObjects : World.has { world with hooks } id = world.has id := rfl
      simp only [World.mutate, World.recycle, sameObjects]
      by_cases existing : world.has id = true
      · rw [if_pos existing, if_pos existing]
        exact ⟨rfl, alikeBut_of_hooks same⟩
      · rw [if_neg existing, if_neg existing]
        exact ⟨rfl, alike⟩
  | move id destination =>
      have moved := alike.update id fun object =>
        { object with location := some destination }
      rcases alike.exists_hooks with ⟨hooks, rfl, same⟩
      have place := checkPlace_withHooks world hooks id
        (world.objects.length + 1) destination
      have sameObject :
          World.object { world with hooks } id = world.object id := rfl
      simp only [World.mutate, World.move, sameObject, place, bind, Except.bind]
      cases found : world.object id with
      | error failure => exact ⟨rfl, alike⟩
      | ok object =>
          cases world.checkPlace id (world.objects.length + 1) destination with
          | error failure => exact ⟨rfl, alike⟩
          | ok _ => exact moved
  | registerHook scope name body =>
      rcases alike.exists_hooks with ⟨hooks, rfl, same⟩
      have sameHooks :
          (world.hooks.set (scope, name) body).erase key =
            (hooks.set (scope, name) body).erase key := by
        rw [Table.erase_set, Table.erase_set, same]
      exact ⟨rfl,
        @alikeBut_of_hooks key (world.registerHook scope name body) _ sameHooks⟩

end World

/-! ## Scripts -/

/-- Whether running code and running hooks asks for a hook. -/
structure Asking where
  run (code label : String) (world : World) : Prop
  runHook (scope : HookScope) (name : String) (arguments : List Value)
    (world : World) : Prop

/-- The first operation of the script asks for the hook. -/
def Script.AsksFirst (asking : Asking) : Script → World → Prop
  | .run code label _, world => asking.run code label world
  | .runHook scope hook arguments _, world =>
      asking.runHook scope hook arguments world
  | _, _ => False

/-- The script comes to an operation that asks for the hook. -/
def Script.Asks (calls : Calls) (asking : Asking) (script : Script)
    (world : World) : Prop :=
  ∃ rest after,
    script.ComesTo calls world rest after ∧ rest.AsksFirst asking after

variable {calls : Calls} {asking : Asking} {script rest : Script}

theorem Script.asks_iff_of_step?
    (stepped : script.step? calls world = some (rest, after)) :
    script.Asks calls asking world ↔
      script.AsksFirst asking world ∨ rest.Asks calls asking after := by
  constructor
  · rintro ⟨later, final, comes, asks⟩
    rcases comes.cases_head with same | ⟨next, steppedToo, comes⟩
    · cases same
      exact .inl asks
    · cases stepped.symm.trans steppedToo
      exact .inr ⟨later, final, comes, asks⟩
  · rintro (asks | ⟨later, final, comes, asks⟩)
    · exact ⟨script, world, .refl, asks⟩
    · exact ⟨later, final, .head stepped comes, asks⟩

theorem Script.not_asks_done (result : Except Failure Value) :
    ¬ (Script.done result).Asks calls asking world := by
  rintro ⟨later, final, comes, asks⟩
  rcases comes.cases_head with same | ⟨next, stepped, -⟩
  · cases same
    exact asks
  · cases stepped

/-- What does not ask for the hook takes the same course in worlds
that differ in it. -/
structure Calls.Overlook (calls : Calls) (asking : Asking)
    (key : HookScope × String) : Prop where
  run {world other : World} (code label : String)
    (alike : world.AlikeBut key other)
    (quiet : ¬ asking.run code label world) :
    AgreeBut key (calls.run code label world) (calls.run code label other)
  runHook {world other : World} (scope : HookScope) (name : String)
    (arguments : List Value)
    (alike : world.AlikeBut key other)
    (quiet : ¬ asking.runHook scope name arguments world) :
    AgreeBut key (calls.runHook scope name arguments world)
      (calls.runHook scope name arguments other)

/-- A script goes on alike after operations that agree. -/
theorem AgreeBut.goOn
    {reply otherReply : Reply World α}
    (agree : AgreeBut key reply otherReply)
    (next : Except Failure α → Script)
    (stepped : some (next reply.1, reply.2) = some (rest, after)) :
    ∃ otherAfter,
      some (next otherReply.1, otherReply.2) = some (rest, otherAfter) ∧
      after.AlikeBut key otherAfter := by
  cases stepped
  rw [agree.answer]
  exact ⟨otherReply.2, rfl, agree.alike⟩

/-- One operation leads to the same rest of the script in both worlds. -/
theorem Script.step?_alike
    (overlook : calls.Overlook asking key)
    (alike : world.AlikeBut key other)
    (quiet : ¬ script.AsksFirst asking world)
    (stepped : script.step? calls world = some (rest, after)) :
    ∃ otherAfter, script.step? calls other = some (rest, otherAfter) ∧
      after.AlikeBut key otherAfter := by
  cases script with
  | done => cases stepped
  | has | name | location | contents | verbNames | load
  | matchObjects | matchVerb =>
      -- these only look at the world
      rcases alike.exists_hooks with ⟨hooks, rfl, -⟩
      cases stepped
      exact ⟨_, rfl, alike⟩
  | create text =>
      have agree := alike.mutate (.create text)
      rcases alike.exists_hooks with ⟨hooks, rfl, -⟩
      cases stepped
      exact ⟨_, rfl, agree.alike⟩
  | takeTold id =>
      have agree := alike.mutate (.takeTold id)
      rcases alike.exists_hooks with ⟨hooks, rfl, -⟩
      cases stepped
      exact ⟨_, rfl, agree.alike⟩
  | enter trace next =>
      exact (alike.mutate (.enter trace)).goOn (fun _ => next) stepped
  | registerHook scope name body next =>
      exact (alike.mutate (.registerHook scope name body)).goOn (fun _ =>
          next) stepped
  | setEvaluator body next =>
      exact (alike.mutate (.setEvaluator body)).goOn (fun _ => next) stepped
  | tell id text next =>
      exact (alike.mutate (.tell id text)).goOn (fun _ => next) stepped
  | recycle id next => exact (alike.mutate (.recycle id)).goOn next stepped
  | addAliases id aliases next =>
      exact (alike.mutate (.addAliases id aliases)).goOn next stepped
  | setProgrammer id flag next =>
      exact (alike.mutate (.setProgrammer id flag)).goOn next stepped
  | move id destination next =>
      exact (alike.mutate (.move id destination)).goOn next stepped
  | defineVerb id signature body next =>
      exact (alike.mutate (.defineVerb id ⟨signature, body⟩)).goOn next stepped
  | run code label next =>
      exact (overlook.run code label alike quiet).goOn next stepped
  | runHook scope name arguments next =>
      exact (overlook.runHook scope name arguments alike quiet).goOn
        next stepped

/-- Every script comes to an end. -/
theorem Script.exists_done (calls : Calls) (script : Script) (world : World) :
    ∃ result after, script.ComesTo calls world (.done result) after := by
  induction script generalizing world with
  | done result => exact ⟨result, world, .refl⟩
  | enter | registerHook | setEvaluator | tell =>
      next inductive_step =>
        rcases inductive_step _ with ⟨result, after, comes⟩
        exact ⟨result, after, .head rfl comes⟩
  | create | recycle | has | name | addAliases | setProgrammer | location
  | contents | move
  | defineVerb | verbNames | takeTold | load | run | runHook
  | matchObjects | matchVerb =>
      next inductive_step =>
        rcases inductive_step _ _ with ⟨result, after, comes⟩
        exact ⟨result, after, .head rfl comes⟩

/-- What a script comes to in the one world it comes to in the other. -/
theorem Script.ComesTo.alike
    (overlook : calls.Overlook asking key)
    (comes : script.ComesTo calls world rest after)
    (quiet : ¬ script.Asks calls asking world)
    (alike : world.AlikeBut key other) :
    ∃ otherAfter, script.ComesTo calls other rest otherAfter ∧
      after.AlikeBut key otherAfter := by
  have goesOn := Relation.ReflTransGen.head_induction_on
    (motive := fun here _ => ∀ other, ¬ here.1.Asks calls asking here.2 →
      here.2.AlikeBut key other →
        ∃ otherAfter, here.1.ComesTo calls other rest otherAfter ∧
          after.AlikeBut key otherAfter)
    comes (fun other _ alike => ⟨other, .refl, alike⟩) ?_
  · exact goesOn other quiet alike
  · intro here there stepped _ inductive_step other quiet alike
    rw [asks_iff_of_step? stepped] at quiet
    rcases not_or.mp quiet with ⟨quietFirst, quietLater⟩
    rcases step?_alike overlook alike quietFirst stepped with
      ⟨between, steppedToo, alikeBetween⟩
    rcases inductive_step between quietLater alikeBetween with
      ⟨otherAfter, comes, alikeAfter⟩
    exact ⟨otherAfter, .head steppedToo comes, alikeAfter⟩

/-- A script that does not ask for the hook is carried out alike
in both worlds. -/
theorem Script.perform_agree
    (overlook : calls.Overlook asking key)
    (quiet : ¬ script.Asks calls asking world)
    (alike : world.AlikeBut key other) :
    AgreeBut key (script.perform calls world) (script.perform calls other) := by
  rcases script.exists_done calls world with ⟨result, after, comes⟩
  rcases comes.alike overlook quiet alike with
    ⟨otherAfter, comesToo, alikeAfter⟩
  rw [comes.perform_eq, comesToo.perform_eq]
  exact ⟨rfl, alikeAfter⟩

/-! ## Calls inside each other -/

theorem AgreeBut.leavingBody
    {reply otherReply : Reply World α}
    (agree : AgreeBut key reply otherReply)
    (label : String) :
    AgreeBut key (leavingBody label reply) (leavingBody label otherReply) := by
  rcases agree.exists_eq with ⟨result, after, otherAfter, rfl, rfl, alike⟩
  cases result <;> exact ⟨rfl, alike⟩

namespace World

/-- What asks for the hook: running it, and code or another hook whose body
comes to asking for it.  Where calls are nested too deeply nothing is run. -/
def askingAt (key : HookScope × String) : (levels : Nat) → Asking
  | 0 =>
      { run := fun _ _ _ => False
        runHook := fun _ _ _ _ => False }
  | levels + 1 =>
      { run := fun code label world =>
          ∃ script, world.started code label = some script ∧
            script.Asks (World.calls levels) (askingAt key levels) world
        runHook := fun scope name arguments world =>
          key = (scope, name) ∨
            ∃ body, world.hooks.get? (scope, name) = some body ∧
              (body arguments).Asks (World.calls levels)
                (askingAt key levels) world }

theorem runWith_agree
    (overlook : calls.Overlook asking key)
    (alike : world.AlikeBut key other)
    {code label : String}
    (quiet : ¬ ∃ script, world.started code label = some script ∧
      script.Asks calls asking world) :
    AgreeBut key (world.runWith calls code label)
      (other.runWith calls code label) := by
  cases starts : world.started code label with
  | some script =>
      have startsToo : other.started code label = some script := by
        rcases alike.exists_hooks with ⟨hooks, rfl, -⟩
        exact starts
      have quietScript : ¬ script.Asks calls asking world :=
        fun asks => quiet ⟨script, starts, asks⟩
      rw [runWith_of_started starts, runWith_of_started startsToo]
      exact (Script.perform_agree overlook quietScript alike).leavingBody label
  | none =>
      rcases alike.exists_hooks with ⟨hooks, rfl, -⟩
      have sameInvoked (call : VerbCall) :
          invoked { world with hooks } call label = world.invoked call label :=
        rfl
      rw [started] at starts
      rw [runWith, runWith]
      cases decoded : VerbCall.decode code with
      | ok call =>
          simp only [decoded] at starts
          simp only [invoke, sameInvoked]
          cases invoked : world.invoked call label with
          | ok body =>
              rw [invoked] at starts
              cases starts
          | error failure => exact ⟨rfl, alike⟩
      | error failure =>
          simp only [decoded, Option.map_eq_none_iff] at starts
          have unevaluated (here : World) (none : here.evaluator = none) :
              here.evaluate calls code label =
                leavingBody label (.error
                  (.script label "no evaluator is installed"), here) := by
            rw [evaluate, none]
          simp only [unevaluated world starts,
            unevaluated { world with hooks } starts]
          refine AgreeBut.leavingBody ?_ label
          exact ⟨rfl, alike⟩

theorem runHookWith_agree
    (overlook : calls.Overlook asking key)
    (alike : world.AlikeBut key other)
    {scope : HookScope}
    {name : String}
    {arguments : List Value}
    (apart : key ≠ (scope, name))
    (quiet : ¬ ∃ body, world.hooks.get? (scope, name) = some body ∧
      (body arguments).Asks calls asking world) :
    AgreeBut key (world.runHookWith calls scope name arguments)
      (other.runHookWith calls scope name arguments) := by
  rw [runHookWith, runHookWith, alike.get?_hooks apart]
  cases registered : world.hooks.get? (scope, name) with
  | none => exact ⟨rfl, alike⟩
  | some body =>
      have quietBody : ¬ (body arguments).Asks calls asking world :=
        fun asks => quiet ⟨body, registered, asks⟩
      rcases (Script.perform_agree overlook quietBody alike).exists_eq with
        ⟨result, after, otherAfter, ends, endsToo, alikeAfter⟩
      cases result <;> simp only [ends, endsToo] <;> exact ⟨rfl, alikeAfter⟩

/-- However deeply calls are nested, they overlook a hook that
nothing asks for. -/
theorem overlook_calls (key : HookScope × String) (levels : Nat) :
    (World.calls levels).Overlook (askingAt key levels) key := by
  induction levels with
  | zero =>
      exact ⟨fun _ _ alike _ => ⟨rfl, alike⟩, fun _ _ _ alike _ => ⟨rfl, alike⟩⟩
  | succ levels inductive_step =>
      constructor
      · intro world other code label alike quiet
        exact runWith_agree inductive_step alike quiet
      · intro world other scope name arguments alike quiet
        rcases not_or.mp quiet with ⟨apart, quietBody⟩
        exact runHookWith_agree inductive_step alike apart quietBody

end World

end TextWorld
