import GuestImage.Proofs.Build.Prediction
import GuestImage.Proofs.Recipe.Invariant

/-!
# The meaning of a plan

What a build has gathered before a command is a function of the commands before it
(`Progress.after`): a working directory, a boot command and a key. Each command adds to it as
`prepare` does, so the action of a command and the summary in the end can be told from the recipe
alone.
-/

namespace GuestImage.Build

/-- The arguments of the commands of one kind, in order. -/
def valuesOf (kind : CommandKind) (commands : List Command) : List String :=
  (commands.filter fun command => command.kind = kind).map (·.value)

/-- The working directory that commands lead to. -/
def workdirAfter (done : List Command) : String :=
  Workdir.resolveAll (valuesOf .workdir done)

/-- What a build has gathered once these commands are done. -/
def Progress.after (done : List Command) : Progress where
  origin? := (valuesOf .origin done).getLast?.bind fun value => (BaseImage.parse value).toOption
  workdir := workdirAfter done
  entrypoint? := (valuesOf .entrypoint done).getLast?
  cacheKey? := (StepKey.chain none done).getLast?

/-- The action that a command stands for, once the commands before it are done. -/
inductive StandsFor (done : List Command) (command : Command) : Action → Prop where
  | fetchOrigin {image : BaseImage} (kind : command.kind = .origin)
      (named : BaseImage.parse command.value = .ok image) :
      StandsFor done command (.fetchOrigin image)
  | run (kind : command.kind = .run) :
      StandsFor done command (.run command.value (workdirAfter done))
  | copy (kind : command.kind = .copy) :
      StandsFor done command (.copy command.value (workdirAfter done))
  | setWorkdir (kind : command.kind = .workdir) :
      StandsFor done command (.setWorkdir (workdirAfter (done ++ [command])))
  | setEntrypoint (kind : command.kind = .entrypoint) :
      StandsFor done command (.setEntrypoint command.value)

/-- One action for each command, in order, on top of the commands done before. -/
structure Plans (done commands : List Command) (actions : List Action) : Prop where
  length_eq : actions.length = commands.length
  standsFor : ∀ {place : Nat} {command : Command}, commands[place]? = some command →
    ∃ action, actions[place]? = some action ∧
      StandsFor (done ++ commands.take place) command action

/-- What a summary says about the recipe that was built. -/
structure Summary.Describes (summary : Summary) (recipe : Recipe) : Prop where
  steps_eq : summary.steps = recipe.length
  origin?_eq : summary.origin? =
    recipe.origin?.bind fun origin => (BaseImage.parse origin.value).toOption
  origin?_eq_none_iff : summary.origin? = none ↔ recipe.commands = []
  workdir_eq : summary.workdir = Workdir.resolveAll ((recipe.ofKind .workdir).map (·.value))
  entrypoint?_eq : summary.entrypoint? = recipe.entrypoint?.map (·.value)
  cacheKey?_eq : summary.cacheKey? = (StepKey.all recipe).getLast?
  cacheKey?_eq_none_iff : summary.cacheKey? = none ↔ recipe.commands = []

/-! ## One command -/

theorem valuesOf_concat (kind : CommandKind) (done : List Command) (command : Command) :
    valuesOf kind (done ++ [command]) =
      if command.kind = kind then valuesOf kind done ++ [command.value]
      else valuesOf kind done := by
  split <;> rename_i same <;> simp [valuesOf, same]

theorem workdirAfter_concat {command : Command} (kind : command.kind = .workdir)
    (done : List Command) :
    workdirAfter (done ++ [command]) = Workdir.resolve (workdirAfter done) command.value := by
  rw [workdirAfter, valuesOf_concat, if_pos kind, Workdir.resolveAll_concat]
  rfl

/-- A command changes what its kind says, and the key. -/
theorem Progress.after_concat (done : List Command) (command : Command) :
    Progress.after (done ++ [command]) =
      { origin? :=
          if command.kind = .origin then (BaseImage.parse command.value).toOption
          else (Progress.after done).origin?
        workdir :=
          if command.kind = .workdir then Workdir.resolve (workdirAfter done) command.value
          else workdirAfter done
        entrypoint? :=
          if command.kind = .entrypoint then some command.value
          else (Progress.after done).entrypoint?
        cacheKey? := some (StepKey.of (Progress.after done).cacheKey? command) } := by
  cases kind : command.kind <;>
    simp [Progress.after, workdirAfter, valuesOf_concat, StepKey.chain_concat,
      Workdir.resolveAll_concat, kind]

/-- What a command asks for and what it adds follow from the commands before it. -/
theorem prepare_after {done : List Command} {command : Command} {action : Action}
    {next : Progress} (prepared : prepare (.after done) command = .ok (action, next)) :
    StandsFor done command action ∧ next = .after (done ++ [command]) := by
  rw [Progress.after_concat]
  cases kind : command.kind with
  | origin =>
      cases named : BaseImage.parse command.value with
      | error rejection =>
          rw [prepare_rejected ⟨kind, named⟩] at prepared
          cases prepared
      | ok image =>
          simp only [prepare, kind, named] at prepared
          cases prepared
          exact ⟨.fetchOrigin kind named, rfl⟩
  | run =>
      simp only [prepare, kind] at prepared
      cases prepared
      exact ⟨.run kind, rfl⟩
  | copy =>
      simp only [prepare, kind] at prepared
      cases prepared
      exact ⟨.copy kind, rfl⟩
  | workdir =>
      simp only [prepare, kind] at prepared
      cases prepared
      refine ⟨?_, rfl⟩
      have stands : StandsFor done command _ := .setWorkdir kind
      rw [workdirAfter_concat kind] at stands
      exact stands
  | entrypoint =>
      simp only [prepare, kind] at prepared
      cases prepared
      exact ⟨.setEntrypoint kind, rfl⟩

/-! ## All commands -/

theorem Plans.nil (done : List Command) : Plans done [] [] :=
  ⟨rfl, fun found => by simp at found⟩

theorem Plans.cons {done rest : List Command} {command : Command} {action : Action}
    {actions : List Action} (stands : StandsFor done command action)
    (later : Plans (done ++ [command]) rest actions) :
    Plans done (command :: rest) (action :: actions) where
  length_eq := congrArg Nat.succ later.length_eq
  standsFor := by
    intro place found foundAt
    cases place with
    | zero =>
        obtain rfl : command = found := by simpa using foundAt
        exact ⟨action, rfl, by simpa using stands⟩
    | succ place =>
        rcases later.standsFor foundAt with ⟨own, ownAt, standsOwn⟩
        exact ⟨own, ownAt, by simpa using standsOwn⟩

/-- The commands of a build plan one action each, and lead to what they add to the commands before
them. -/
theorem Asks.plans {done commands : List Command} {actions : List Action} {final : Progress}
    (asks : Asks (.after done) commands actions final) :
    Plans done commands actions ∧ final = .after (done ++ commands) := by
  generalize start : Progress.after done = progress at asks
  induction asks generalizing done with
  | done progress =>
      rw [← start, List.append_nil]
      exact ⟨.nil done, rfl⟩
  | step prepared later ih =>
      rw [← start] at prepared
      rcases prepare_after prepared with ⟨stands, next⟩
      rcases ih next.symm with ⟨plans, final⟩
      refine ⟨.cons stands plans, ?_⟩
      rw [final, List.append_assoc, List.singleton_append]

theorem Asks.plans_of_initial {commands : List Command} {actions : List Action} {final : Progress}
    (asks : Asks .initial commands actions final) :
    Plans [] commands actions ∧ final = .after commands := by
  have fromStart : Asks (.after []) commands actions final := asks
  exact fromStart.plans

section Recipe

variable {recipe : Recipe}

theorem origin?_of_rejected (ordered : Recipe.WellOrdered recipe.commands) {command : Command}
    {rejection : BaseImage.Rejection} (member : command ∈ recipe.commands)
    (rejected : Rejected command rejection) : recipe.origin? = some command := by
  have only := Recipe.mem_ofKind.mpr ⟨member, rejected.1⟩
  rw [Recipe.ofKind_origin ordered, Option.mem_toList] at only
  exact only

/-- The origin of a recipe that has a plan names an image. -/
theorem Plans.named {actions : List Action} (plans : Plans [] recipe.commands actions)
    (ordered : Recipe.WellOrdered recipe.commands) {origin : Command}
    (first : recipe.origin? = some origin) :
    ∃ image, BaseImage.parse origin.value = .ok image := by
  have found : recipe.commands[0]? = some origin := by
    rw [← List.head?_eq_getElem?]
    exact first
  have member : origin ∈ recipe.ofKind .origin := by
    rw [Recipe.ofKind_origin ordered, first]
    exact List.mem_singleton_self origin
  rcases plans.standsFor found with ⟨action, -, stands⟩
  have kind := (Recipe.mem_ofKind.mp member).2
  cases stands with
  | fetchOrigin _ named => exact ⟨_, named⟩
  | run other | copy other | setWorkdir other | setEntrypoint other =>
      rw [kind] at other
      cases other

/-- Of a kind that occurs once at most, the last argument is the only one. -/
theorem getLast?_valuesOf {kind : CommandKind} {only? : Option Command}
    (only : recipe.ofKind kind = only?.toList) :
    (valuesOf kind recipe.commands).getLast? = only?.map (·.value) := by
  have values : valuesOf kind recipe.commands = (recipe.ofKind kind).map (·.value) := rfl
  rw [values, only]
  cases only? <;> rfl

theorem getLast?_chain_eq_none_iff (parent : Option String) (commands : List Command) :
    (StepKey.chain parent commands).getLast? = none ↔ commands = [] := by
  rw [List.getLast?_eq_none_iff, ← List.length_eq_zero_iff, StepKey.length_chain,
    List.length_eq_zero_iff]

/-- The summary of a build that got to the end of a recipe describes the recipe. -/
theorem Plans.describes {actions : List Action} (plans : Plans [] recipe.commands actions)
    (ordered : Recipe.WellOrdered recipe.commands) :
    ((Progress.after recipe.commands).summary recipe.length).Describes recipe := by
  have origin : (Progress.after recipe.commands).origin? =
      recipe.origin?.bind fun origin => (BaseImage.parse origin.value).toOption := by
    rw [Progress.after, getLast?_valuesOf (Recipe.ofKind_origin ordered), Option.bind_map]
    rfl
  constructor
  case steps_eq => rfl
  case origin?_eq => exact origin
  case origin?_eq_none_iff =>
    rw [Progress.summary, origin]
    cases first : recipe.origin? with
    | none => simpa using List.head?_eq_none_iff.mp first
    | some command =>
        rcases plans.named ordered first with ⟨image, named⟩
        have nonempty : recipe.commands ≠ [] := by
          intro empty
          rw [Recipe.origin?, empty] at first
          cases first
        simp [named, Except.toOption, nonempty]
  case workdir_eq => rfl
  case entrypoint?_eq => exact getLast?_valuesOf (Recipe.ofKind_entrypoint ordered)
  case cacheKey?_eq => rfl
  case cacheKey?_eq_none_iff => exact getLast?_chain_eq_none_iff none recipe.commands

/-- A recipe has a plan unless its origin is rejected. -/
theorem rejected_or_plans (ordered : Recipe.WellOrdered recipe.commands) (recorded : List Action) :
    (∃ command rejection, recipe.origin? = some command ∧ Rejected command rejection ∧
      plan recipe recorded = ⟨.error (.ofRejection rejection),
        (announcements recipe.length 1 recipe.commands).take 1, recorded⟩) ∨
    ∃ actions, Plans [] recipe.commands actions ∧
      plan recipe recorded = ⟨.ok ((Progress.after recipe.commands).summary recipe.length),
        announcements recipe.length 1 recipe.commands, recorded ++ actions⟩ := by
  rcases rejected_or_asks recipe with ⟨command, member, rejection, rejected⟩ |
    ⟨actions, final, asks⟩
  · left
    exact ⟨command, rejection, origin?_of_rejected ordered member rejected, rejected,
      run_rejected ordered member rejected .plan recorded⟩
  · right
    rcases asks.plans_of_initial with ⟨plans, rfl⟩
    exact ⟨actions, plans, asks.plan_eq recorded⟩

end Recipe

/-- What a plan means. A recipe can be planned if it is empty or its origin names an image. If it
cannot, the actions recorded before stay as they are. If it can, one action for each command is
recorded after them, with the working directory that the commands before it lead to, and the
summary describes the recipe. -/
theorem plan_meaning {text : String} {recipe : Recipe} (read : Recipe.parse text = .ok recipe)
    (recorded : List Action) :
    ((∃ summary, (plan recipe recorded).result = .ok summary) ↔
      recipe.commands = [] ∨ ∃ origin image, recipe.origin? = some origin ∧
        BaseImage.parse origin.value = .ok image) ∧
    (∀ failure, (plan recipe recorded).result = .error failure →
      (plan recipe recorded).state = recorded) ∧
    ∀ summary, (plan recipe recorded).result = .ok summary →
      summary.Describes recipe ∧
      ∃ actions, (plan recipe recorded).state = recorded ++ actions ∧
        Plans [] recipe.commands actions := by
  have ordered : Recipe.WellOrdered recipe.commands :=
    Recipe.documentError?_eq_none_iff.mp (Recipe.parse_eq_ok.mp read).2
  rcases rejected_or_plans ordered recorded with ⟨origin, rejection, first, rejected, planned⟩ |
    ⟨actions, plans, planned⟩
  · rw [planned]
    refine ⟨⟨?_, ?_⟩, fun _ _ => rfl, ?_⟩
    · rintro ⟨summary, succeeded⟩
      cases succeeded
    · rintro (empty | ⟨other, image, same, named⟩)
      · rw [Recipe.origin?, empty] at first
        cases first
      · rw [first] at same
        cases same
        cases rejected.2.symm.trans named
    · intro summary succeeded
      cases succeeded
  · rw [planned]
    refine ⟨⟨?_, fun _ => ⟨_, rfl⟩⟩, ?_, ?_⟩
    · intro _
      cases first : recipe.origin? with
      | none => exact .inl (List.head?_eq_none_iff.mp first)
      | some origin =>
          rcases plans.named ordered first with ⟨image, named⟩
          exact .inr ⟨origin, image, rfl, named⟩
    · intro failure failed
      cases failed
    · rintro summary ⟨⟩
      exact ⟨plans.describes ordered, actions, rfl, plans⟩

/-- A plan with two working directories, on top of an action that was recorded before. -/
theorem plan_meaning_workdirs :
    let recipe : Recipe :=
      ⟨[.of .origin "a:1" 1, .of .workdir "/b" 2, .of .workdir "c" 3, .of .run "d" 4]⟩
    Recipe.parse "FROM a:1\nWORKDIR /b\nWORKDIR c\nRUN d" = .ok recipe ∧
      (plan recipe [.setEntrypoint "x"]).state = [.setEntrypoint "x", .fetchOrigin ⟨"a", "1"⟩,
        .setWorkdir "/b", .setWorkdir "/b/c", .run "d" "/b/c"] ∧
      ∃ summary, (plan recipe [.setEntrypoint "x"]).result = .ok summary ∧
        summary.Describes recipe ∧
        ∃ actions, (plan recipe [.setEntrypoint "x"]).state = [.setEntrypoint "x"] ++ actions ∧
          Plans [] recipe.commands actions := by
  intro recipe
  have spells : Recipe.Spells [.command 0 "FROM".toList 1 [.plain 'a', .plain ':', .plain '1'] none,
      .command 0 "WORKDIR".toList 1 [.plain '/', .plain 'b'] none,
      .command 0 "WORKDIR".toList 1 [.plain 'c'] none,
      .command 0 "RUN".toList 1 [.plain 'd'] none]
      "FROM a:1\nWORKDIR /b\nWORKDIR c\nRUN d".toList := by decide
  have read : Recipe.parse "FROM a:1\nWORKDIR /b\nWORKDIR c\nRUN d" = .ok recipe :=
    Recipe.parse_of_spells spells (by decide)
  rcases plan_meaning read [.setEntrypoint "x"] with ⟨succeeds, -, means⟩
  rcases succeeds.mpr (.inr ⟨.of .origin "a:1" 1, ⟨"a", "1"⟩, rfl, rfl⟩) with
    ⟨summary, succeeded⟩
  exact ⟨read, rfl, summary, succeeded, means summary succeeded⟩

end GuestImage.Build
