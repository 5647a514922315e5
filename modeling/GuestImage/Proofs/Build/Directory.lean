import GuestImage.Proofs.Build.Meaning
import GuestImage.Proofs.Build.Workdir

/-!
# The directories of a build

A build keeps one working directory and hands it to the backend with every call that depends on it.
Whatever the backend answers, that directory is the one that the workdir commands up to the call
lead to, so what holds of the values of these commands holds of every directory of a build.
-/

namespace GuestImage

/-- The working directory that a call is given. -/
def Action.directory? : Action → Option String
  | run _ workdir => some workdir
  | copy _ workdir => some workdir
  | setWorkdir path => some path
  | fetchOrigin _ => none
  | setEntrypoint _ => none

namespace Build

universe u

variable {σ : Type u}

/-- A directory that these values of workdir commands lead to: it is absolute, has the closed form,
and depends on the values from the last absolute one on alone. -/
structure LedTo (values : List String) (directory : String) : Prop where
  resolved : directory = Workdir.resolveAll values
  sinceAbsolute : directory = Workdir.resolveAll (Workdir.sinceAbsolute values)
  absolute : directory.toList.head? = some '/'
  closedForm : Workdir.ClosedForm values directory

theorem ledTo_resolveAll {values : List String} (nonempty : ∀ value ∈ values, value ≠ "") :
    LedTo values (Workdir.resolveAll values) where
  resolved := rfl
  sinceAbsolute := (Workdir.resolveAll_sinceAbsolute values).symm
  absolute := by
    have absolute := Workdir.isAbsolute_resolveAll values
    rwa [Workdir.isAbsolute, beq_iff_eq] at absolute
  closedForm := Workdir.closedForm_resolveAll nonempty

theorem workdirAfter_concat_of_ne {command : Command} (kind : command.kind ≠ .workdir)
    (done : List Command) : workdirAfter (done ++ [command]) = workdirAfter done := by
  rw [workdirAfter, valuesOf_concat, if_neg kind, workdirAfter]

/-- A call is given the directory that its own command and those before it lead to. -/
theorem StandsFor.directory_eq {done : List Command} {command : Command} {action : Action}
    {directory : String} (stands : StandsFor done command action)
    (given : action.directory? = some directory) :
    directory = workdirAfter (done ++ [command]) := by
  cases stands with
  | fetchOrigin | setEntrypoint => cases given
  | run kind | copy kind =>
      cases given
      rw [workdirAfter_concat_of_ne]
      rw [kind]
      exact CommandKind.noConfusion
  | setWorkdir => exact (Option.some.inj given).symm

section Recipe

variable {text : String} {recipe : Recipe}

theorem value_ne_empty_of_mem_valuesOf (read : Recipe.parse text = .ok recipe)
    {commands : List Command} (own : commands ⊆ recipe.commands) {kind : CommandKind} :
    ∀ value ∈ valuesOf kind commands, value ≠ "" := by
  intro value member
  rcases List.mem_map.mp member with ⟨command, chosen, rfl⟩
  have made := (Recipe.wf_of_parse read).commands command (own (List.mem_filter.mp chosen).1)
  exact made.value_ne_empty

/-- Every call of a build, on any backend, is what its command stands for. -/
theorem standsFor_of_call (ordered : Recipe.WellOrdered recipe.commands) {backend : Backend σ}
    {state : σ} {place : Nat} {action : Action}
    (called : (calls backend recipe state)[place]? = some action) :
    ∃ command, recipe.commands[place]? = some command ∧
      StandsFor (recipe.commands.take place) command action := by
  rcases calls_isPrefix_plan ordered backend state with ⟨missing, whole⟩
  have planned : (plan recipe []).state[place]? = some action := by
    rw [← whole, List.getElem?_append_left (List.getElem?_eq_some_iff.mp called).1]
    exact called
  rcases rejected_or_plans ordered [] with ⟨_, _, _, _, refused⟩ | ⟨actions, plans, complete⟩
  · rw [refused] at planned
    cases planned
  · rw [complete, List.nil_append] at planned
    have inBounds : place < recipe.commands.length := by
      rw [← plans.length_eq]
      exact (List.getElem?_eq_some_iff.mp planned).1
    have found := List.getElem?_eq_getElem inBounds
    rcases plans.standsFor found with ⟨own, ownAt, stands⟩
    obtain rfl : own = action := Option.some.inj (ownAt.symm.trans planned)
    exact ⟨_, found, stands⟩

theorem workdir_of_call (ordered : Recipe.WellOrdered recipe.commands) {backend : Backend σ}
    {state : σ} {place : Nat} {action : Action} {directory : String}
    (called : (calls backend recipe state)[place]? = some action)
    (given : action.directory? = some directory) :
    directory = workdirAfter (recipe.commands.take (place + 1)) := by
  rcases standsFor_of_call ordered called with ⟨command, found, stands⟩
  rw [stands.directory_eq given, List.take_add_one, found]
  rfl

theorem workdir_of_summary (ordered : Recipe.WellOrdered recipe.commands) {backend : Backend σ}
    {state : σ} {summary : Summary}
    (succeeded : (run backend recipe state).result = .ok summary) :
    summary.workdir = workdirAfter recipe.commands := by
  rcases rejected_or_asks recipe with ⟨command, member, rejection, rejected⟩ |
    ⟨actions, final, asks⟩
  · rw [run_rejected ordered member rejected] at succeeded
    cases succeeded
  · rcases succeeds_or_firstFailure (backend.answers state actions) with
      all | ⟨before, failure, fails⟩
    · rw [run, asks.resume_complete recipe.length all, asks.plans_of_initial.2] at succeeded
      cases succeeded
      rfl
    · rw [run, asks.resume_stopped recipe.length fails] at succeeded
      cases succeeded

end Recipe

/-- Working directories have a closed form in the values of the workdir commands, and every
directory of a build on any backend is the one that the workdir commands up to that point lead to.
It is absolute, and no joint in it has two slashes. -/
theorem directories_follow_values :
    (∀ values : List String, (∀ value ∈ values, value ≠ "") →
      Workdir.ClosedForm values (Workdir.resolveAll values)) ∧
    (∀ {text : String} {recipe : Recipe}, Recipe.parse text = .ok recipe →
      ∀ (backend : Backend σ) (state : σ),
      (∀ place action directory, (calls backend recipe state)[place]? = some action →
        action.directory? = some directory →
        LedTo (valuesOf .workdir (recipe.commands.take (place + 1))) directory) ∧
      ∀ summary, (run backend recipe state).result = .ok summary →
        LedTo (valuesOf .workdir recipe.commands) summary.workdir) ∧
    ∀ first second, Workdir.IsRelative first → Workdir.IsRelative second →
      ∀ earlier later, Workdir.resolveAll (earlier ++ first :: second :: later) =
        Workdir.resolveAll (earlier ++ Workdir.join first second :: later) := by
  refine ⟨fun values => Workdir.closedForm_resolveAll, ?directed, ?joins⟩
  case directed =>
    intro text recipe read backend state
    have ordered := (Recipe.wf_of_parse read).ordered
    constructor
    · intro place action directory called given
      obtain rfl := workdir_of_call ordered called given
      exact ledTo_resolveAll (value_ne_empty_of_mem_valuesOf read (List.take_subset _ _))
    · intro summary succeeded
      rw [workdir_of_summary ordered succeeded]
      exact ledTo_resolveAll (value_ne_empty_of_mem_valuesOf read (List.Subset.refl _))
  case joins =>
    intro first second firstRelative secondRelative earlier later
    exact Workdir.resolveAll_join firstRelative secondRelative earlier later

/-- A build that fails at its last command, below a directory with slashes at its end. -/
theorem directories_follow_values_failed :
    let recipe : Recipe := ⟨[.of .origin "a" 1, .of .workdir "/b//" 2, .of .workdir "c/" 3,
      .of .run "d" 4]⟩
    let backend := Backend.plan.failing ⟨.run, none, 1, .file "disk full"⟩
    (∀ value ∈ ["x", "/b//", "c/"], value ≠ "") ∧
    Workdir.ClosedForm ["x", "/b//", "c/"] "/b/c/" ∧
    Recipe.parse "FROM a\nWORKDIR /b//\nWORKDIR c/\nRUN d" = .ok recipe ∧
    (calls backend recipe (0, []))[3]? = some (.run "d" "/b/c/") ∧
    LedTo ["/b//", "c/"] "/b/c/" ∧
    (∃ summary, (run .plan recipe []).result = .ok summary ∧
      LedTo ["/b//", "c/"] summary.workdir) ∧
    Workdir.IsRelative "b//" ∧ Workdir.IsRelative "c" ∧
    Workdir.resolveAll ["/a", "b//", "c", "d"] = Workdir.resolveAll ["/a", "b/c", "d"] := by
  intro recipe backend
  have nonempty : ∀ value ∈ ["x", "/b//", "c/"], value ≠ "" := by decide
  have spells : Recipe.Spells [.command 0 "FROM".toList 1 [.plain 'a'] none,
      .command 0 "WORKDIR".toList 1 [.plain '/', .plain 'b', .plain '/', .plain '/'] none,
      .command 0 "WORKDIR".toList 1 [.plain 'c', .plain '/'] none,
      .command 0 "RUN".toList 1 [.plain 'd'] none]
      "FROM a\nWORKDIR /b//\nWORKDIR c/\nRUN d".toList := by decide
  have read : Recipe.parse "FROM a\nWORKDIR /b//\nWORKDIR c/\nRUN d" = .ok recipe :=
    Recipe.parse_of_spells spells (by decide)
  have called : (calls backend recipe (0, []))[3]? = some (.run "d" "/b/c/") := by rfl
  have first : Workdir.IsRelative "b//" := ⟨'b', ['/', '/'], by decide, by decide⟩
  have second : Workdir.IsRelative "c" := ⟨'c', [], by decide, by decide⟩
  rcases directories_follow_values (σ := Nat × List Action) with ⟨closed, directed, joins⟩
  rcases directories_follow_values (σ := List Action) with ⟨-, planned, -⟩
  exact ⟨nonempty, closed _ nonempty, read, called,
    (directed read backend (0, [])).1 3 _ _ called rfl,
    ⟨_, rfl, (planned read .plan []).2 _ rfl⟩,
    first, second, joins "b//" "c" first second ["/a"] ["d"]⟩

end Build

end GuestImage
