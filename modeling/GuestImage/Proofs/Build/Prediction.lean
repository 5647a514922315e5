import GuestImage.Proofs.Build.Simulation
import GuestImage.Proofs.Recipe.Acceptance

/-!
# A dry run predicts every build

A dry run is a build in which no answer is a failure, so it lists all actions that the commands of a
recipe ask for, and a build on any backend makes the first of these calls. A rejected origin is the
one thing that stops a build without a call. In a recipe that was read only the first command can be
one, so the number of a call is the number of its step.
-/

namespace GuestImage.Build

universe u

variable {σ : Type u}

/-- The calls that a build makes, in order, whatever came of them. -/
def calls (backend : Backend σ) (recipe : Recipe) (state : σ) : List Action :=
  (run backend.traced recipe ([], state)).state.1

/-- What a build prints that announced some steps from the first on. -/
def printedSteps (recipe : Recipe) (steps : Nat) (quiet : Bool) : String :=
  if quiet then ""
  else String.join ((announcements recipe.length 1 recipe.commands).take steps)

section Recipe

variable {recipe : Recipe}

/-- A rejected origin can only be the first command, so no backend is asked for anything. -/
theorem run_rejected (ordered : Recipe.WellOrdered recipe.commands) {command : Command}
    {rejection : BaseImage.Rejection} (member : command ∈ recipe.commands)
    (rejected : Rejected command rejection) (backend : Backend σ) (state : σ) :
    run backend recipe state =
      ⟨.error (.ofRejection rejection),
        (announcements recipe.length 1 recipe.commands).take 1, state⟩ := by
  rcases recipe with ⟨commands⟩
  cases commands with
  | nil => cases member
  | cons first rest =>
      rcases List.mem_cons.mp member with rfl | later
      · rw [run, resume_refused (prepare_rejected rejected .initial), announcements_cons]
        rfl
      · exact absurd rejected.1 (ordered.2.1 command later)

variable {actions : List Action} {final : Progress}

theorem Asks.plan_eq (asks : Asks .initial recipe.commands actions final)
    (recorded : List Action) :
    plan recipe recorded =
      ⟨.ok (final.summary recipe.length), announcements recipe.length 1 recipe.commands,
        recorded ++ actions⟩ := by
  rw [plan, run, asks.resume_complete recipe.length (Backend.succeeds_plan recorded actions),
    Backend.after_plan]

theorem Asks.calls_complete (asks : Asks .initial recipe.commands actions final)
    {backend : Backend σ} {state : σ} (succeed : Succeeds (backend.answers state actions)) :
    calls backend recipe state = actions := by
  rw [← Backend.answers_traced backend []] at succeed
  rw [calls, run, asks.resume_complete recipe.length succeed, Backend.after_traced]
  rfl

theorem Asks.calls_stopped (asks : Asks .initial recipe.commands actions final)
    {backend : Backend σ} {state : σ} {before : Nat} {failure : Failure}
    (fails : FirstFailure (backend.answers state actions) before failure) :
    calls backend recipe state = actions.take (before + 1) := by
  rw [← Backend.answers_traced backend []] at fails
  rw [calls, run, asks.resume_stopped recipe.length fails, Backend.after_traced]
  rfl

theorem Asks.calls_isPrefix (asks : Asks .initial recipe.commands actions final)
    (backend : Backend σ) (state : σ) : calls backend recipe state <+: actions := by
  rcases succeeds_or_firstFailure (backend.answers state actions) with
    succeed | ⟨before, failure, fails⟩
  · exact ⟨[], by rw [List.append_nil, asks.calls_complete succeed]⟩
  · rw [asks.calls_stopped fails]
    exact List.take_prefix (before + 1) actions

/-- If the calls that were made went through, so would all actions: a build stops early only at a
failure. -/
theorem Asks.succeeds (asks : Asks .initial recipe.commands actions final)
    {backend : Backend σ} {state : σ}
    (succeed : Succeeds (backend.answers state (calls backend recipe state))) :
    Succeeds (backend.answers state actions) := by
  rcases succeeds_or_firstFailure (backend.answers state actions) with
    all | ⟨before, failure, fails⟩
  · exact all
  · rw [asks.calls_stopped fails, Backend.answers_take] at succeed
    cases succeed _ fails.take.mem

/-- The first failure among the calls that were made is the first among all actions. -/
theorem Asks.firstFailure (asks : Asks .initial recipe.commands actions final)
    {backend : Backend σ} {state : σ} {before : Nat} {failure : Failure}
    (fails : FirstFailure (backend.answers state (calls backend recipe state)) before failure) :
    FirstFailure (backend.answers state actions) before failure := by
  rcases asks.calls_isPrefix backend state with ⟨missing, whole⟩
  rw [← whole, Backend.answers_append]
  exact fails.append _

theorem announcements_take_length (recipe : Recipe) :
    (announcements recipe.length 1 recipe.commands).take recipe.length =
      announcements recipe.length 1 recipe.commands := by
  apply List.take_of_length_le
  simp [announcements, Recipe.length]

theorem rejected_or_asks (recipe : Recipe) :
    (∃ command ∈ recipe.commands, ∃ rejection, Rejected command rejection) ∨
      ∃ actions final, Asks .initial recipe.commands actions final := by
  by_cases rejected : ∃ command ∈ recipe.commands, ∃ rejection, Rejected command rejection
  · exact .inl rejected
  · right
    apply exists_asks
    intro command member rejection refused
    exact rejected ⟨command, member, rejection, refused⟩

/-- The calls of a build are the first actions of the plan. -/
theorem calls_isPrefix_plan (ordered : Recipe.WellOrdered recipe.commands)
    (backend : Backend σ) (state : σ) :
    calls backend recipe state <+: (plan recipe []).state := by
  rcases rejected_or_asks recipe with ⟨command, member, rejection, rejected⟩ |
    ⟨actions, final, asks⟩
  · rw [calls, run_rejected ordered member rejected]
    exact List.nil_prefix
  · rw [asks.plan_eq]
    exact asks.calls_isPrefix backend state

end Recipe

/-- A dry run tells what a build of the same recipe does on any backend. Listing the calls changes
nothing else about the build, and they are the first actions of the plan. It makes none of them if
the origin is rejected and all of them if none fails, and the first that fails is the last. -/
theorem plan_predicts_run {text : String} {recipe : Recipe}
    (read : Recipe.parse text = .ok recipe) (backend : Backend σ) (state : σ) (quiet : Bool) :
    run backend recipe state = (run backend.traced recipe ([], state)).mapState Prod.snd ∧
    calls backend recipe state <+: (plan recipe []).state ∧
    (∀ command ∈ recipe.commands, ∀ rejection, Rejected command rejection →
      calls backend recipe state = [] ∧
      (run backend recipe state).result =
        .error (.origin rejection.value rejection.flaw.message) ∧
      (run backend recipe state).printed quiet = printedSteps recipe 1 quiet) ∧
    ((∀ command ∈ recipe.commands, ∀ rejection, ¬Rejected command rejection) →
      Succeeds (backend.answers state (calls backend recipe state)) →
      calls backend recipe state = (plan recipe []).state ∧
      (∃ summary, (run backend recipe state).result = .ok summary ∧
        (plan recipe []).result = .ok summary) ∧
      (run backend recipe state).printed quiet = printedSteps recipe recipe.length quiet) ∧
    (∀ before failure,
      FirstFailure (backend.answers state (calls backend recipe state)) before failure →
      (calls backend recipe state).length = before + 1 ∧
      (∀ step message, failure = .backend step message →
        (run backend recipe state).result = .error failure) ∧
      ((∀ step message, failure ≠ .backend step message) →
        (run backend recipe state).result = .error (.backend (before + 1) failure.message)) ∧
      (run backend recipe state).printed quiet = printedSteps recipe (before + 1) quiet) := by
  have ordered : Recipe.WellOrdered recipe.commands :=
    Recipe.documentError?_eq_none_iff.mp (Recipe.parse_eq_ok.mp read).2
  refine ⟨run_traced backend recipe [] state, calls_isPrefix_plan ordered backend state,
    ?rejected, ?complete, ?stopped⟩
  case rejected =>
    intro command member rejection rejected
    rw [calls, run_rejected ordered member rejected, run_rejected ordered member rejected]
    exact ⟨rfl, rfl, rfl⟩
  case complete =>
    intro accepted succeed
    rcases exists_asks accepted .initial with ⟨actions, final, asks⟩
    have all := asks.succeeds succeed
    rw [asks.calls_complete all, asks.plan_eq, run, asks.resume_complete recipe.length all]
    refine ⟨rfl, ⟨final.summary recipe.length, rfl, rfl⟩, ?_⟩
    rw [Outcome.printed, printedSteps, announcements_take_length]
  case stopped =>
    intro before failure fails
    rcases rejected_or_asks recipe with ⟨command, member, rejection, rejected⟩ |
      ⟨actions, final, asks⟩
    · rw [calls, run_rejected ordered member rejected] at fails
      exact absurd fails not_firstFailure_nil
    · have first := asks.firstFailure fails
      have inBounds : before < actions.length := by
        simpa using first.lt_length
      rw [asks.calls_stopped first, run, asks.resume_stopped recipe.length first]
      refine ⟨List.length_take_of_le inBounds, ?named, ?unnamed, rfl⟩
      case named =>
        rintro step message rfl
        rfl
      case unnamed =>
        intro notBackend
        rw [Failure.atStep_of_ne notBackend, Nat.add_comm]

/-- A build that fails at its second call. -/
theorem plan_predicts_run_full_disk :
    let recipe : Recipe := ⟨[.of .origin "a" 1, .of .run "b" 2, .of .run "c" 3]⟩
    let backend := Backend.plan.failing ⟨.run, some "b", 1, .file "disk full"⟩
    Recipe.parse "FROM a\nRUN b\nRUN c" = .ok recipe ∧
      FirstFailure (backend.answers (0, []) (calls backend recipe (0, []))) 1
        (.file "disk full") ∧
      (calls backend recipe (0, [])).length = 2 ∧
      (run backend recipe (0, [])).result = .error (.backend 2 "I/O error: disk full") ∧
      (run backend recipe (0, [])).printed false = "Step 1/3: FROM a\nStep 2/3: RUN b\n" := by
  intro recipe backend
  have spells : Recipe.Spells [.command 0 "FROM".toList 1 [.plain 'a'] none,
      .command 0 "RUN".toList 1 [.plain 'b'] none,
      .command 0 "RUN".toList 1 [.plain 'c'] none] "FROM a\nRUN b\nRUN c".toList := by decide
  have read : Recipe.parse "FROM a\nRUN b\nRUN c" = .ok recipe :=
    Recipe.parse_of_spells spells (by decide)
  have fails : FirstFailure (backend.answers (0, []) (calls backend recipe (0, []))) 1
      (.file "disk full") := by
    have answered : backend.answers (0, []) (calls backend recipe (0, [])) =
        [.ok (), .error (.file "disk full")] := rfl
    rw [answered, firstFailure_cons_succ]
    exact ⟨rfl, firstFailure_cons_zero.mpr rfl⟩
  rcases (plan_predicts_run read backend (0, []) false).2.2.2.2 1 _ fails with
    ⟨count, -, reported, printed⟩
  have notBackend : ∀ step message, Failure.file "disk full" ≠ .backend step message := by
    intro step message same
    cases same
  have lines : printedSteps recipe 2 false = "Step 1/3: FROM a\nStep 2/3: RUN b\n" := by
    decide +kernel
  exact ⟨read, fails, count, reported notBackend, printed.trans lines⟩

end GuestImage.Build
