import GuestImage.Proofs.Build.Simulation

/-!
# Builds turn by turn

A build that shares a plan backend with others takes turns with them. In a turn it carries out one
command and so records one action at most; what it reads and writes besides is its own. The last
turn hands in the summary.

Two facts carry all that follows. A turn does not look at the actions that were recorded before, it
only adds to them (`Process.turn_append`); and it changes nothing about what the build comes to in
the end (`Process.outlook_turn`).
-/

namespace GuestImage

universe u

namespace Backend

variable {σ : Type u}

/-- A plan backend behind a guard, which has a state of its own. A call that the guard makes fail
is not recorded. -/
def guarded (guard : Backend σ) : Backend (σ × List Action) :=
  fun (state, recorded) action =>
    match guard state action with
    | (.error failure, after) => (.error failure, (after, recorded))
    | (.ok (), after) =>
        let (outcome, recorded) := plan recorded action
        (outcome, (after, recorded))

/-- The guard that makes calls fail by a rule. -/
def Injection.guard (injection : Injection) : Backend Nat :=
  fun count action =>
    if injection.counts action then
      if count + 1 = injection.nth then (.error injection.failure, count + 1)
      else (.ok (), count + 1)
    else (.ok (), count)

theorem failing_plan (injection : Injection) :
    failing injection plan = guarded injection.guard := by
  funext ⟨count, recorded⟩ action
  by_cases counts : injection.counts action
  · by_cases last : count + 1 = injection.nth <;>
      simp [failing, guarded, Injection.guard, counts, last]
  · simp [failing, guarded, Injection.guard, counts]

/-- The state of a guarded backend with earlier actions below its own. -/
def onTopOf (earlier : List Action) (state : σ × List Action) : σ × List Action :=
  (state.1, earlier ++ state.2)

/-- A guarded plan backend only adds to the actions that were recorded before. -/
theorem simulates_guarded (guard : Backend σ) (earlier : List Action) :
    (guarded guard).Simulates (guarded guard) (onTopOf earlier) := by
  rintro ⟨state, recorded⟩ action
  rcases answered : guard state action with ⟨answer, after⟩
  cases answer <;> simp [guarded, onTopOf, answered, plan]

end Backend

namespace Build

/-- One of the builds that share a plan backend. -/
structure Job where
  recipe : Recipe
  State : Type u
  guard : Backend State
  /-- The state of the guard before the first call. -/
  start : State

/-- The shared backend as one of the builds meets it. -/
def Job.backend (job : Job.{u}) : Backend (job.State × List Action) :=
  .guarded job.guard

/-- The build on a backend on which some actions were recorded before. -/
def Job.outcome (job : Job.{u}) (recorded : List Action) : Outcome (job.State × List Action) :=
  run job.backend job.recipe (job.start, recorded)

/-- Where a build stands between two turns. -/
inductive Stage where
  | before (step : Nat) (progress : Progress) (rest : List Command)
  | ended (result : Except Failure Summary)

/-- How many turns a build has left at most. -/
def Stage.turnsLeft : Stage → Nat
  | before _ _ rest => rest.length + 1
  | ended _ => 0

/-- What a build keeps to itself between two turns. -/
structure Process (job : Job.{u}) where
  stage : Stage
  announced : List String
  state : job.State

namespace Process

variable {job : Job.{u}}

/-- A build before its first turn. -/
def first (job : Job.{u}) : Process job where
  stage := .before 1 .initial job.recipe.commands
  announced := []
  state := job.start

/-- One turn of a build: where it stands after it, and the actions that are recorded then. -/
def turn (process : Process job) (recorded : List Action) : Process job × List Action :=
  match process.stage with
  | .ended _ => (process, recorded)
  | .before _ progress [] =>
      ({ process with stage := .ended (.ok (progress.summary job.recipe.length)) }, recorded)
  | .before step progress (command :: rest) =>
      let announced := process.announced ++ [stepLine step job.recipe.length command]
      match advance job.backend step progress command (process.state, recorded) with
      | (.error failure, (state, recorded)) =>
          (⟨.ended (.error failure), announced, state⟩, recorded)
      | (.ok advanced, (state, recorded)) =>
          (⟨.before (step + 1) advanced rest, announced, state⟩, recorded)

/-- What a build comes to if it goes on alone, with the actions that it has recorded so far. -/
def outlook (process : Process job) (own : List Action) : Outcome (job.State × List Action) :=
  match process.stage with
  | .ended result => ⟨result, process.announced, (process.state, own)⟩
  | .before step progress rest =>
      let later := resume job.backend job.recipe.length step progress (process.state, own) rest
      { later with announced := process.announced ++ later.announced }

/-! ## What a turn adds -/

/-- A turn does not look at the actions that were recorded before. -/
theorem turn_append (process : Process job) (earlier recorded : List Action) :
    process.turn (earlier ++ recorded) =
      Prod.map id (earlier ++ ·) (process.turn recorded) := by
  rcases process with ⟨stage, announced, state⟩
  cases stage with
  | ended result => rfl
  | before step progress rest =>
      cases rest with
      | nil => rfl
      | cons command rest =>
          rcases advanced : advance job.backend step progress command (state, recorded) with
            ⟨answer, after, kept⟩
          have moved : advance job.backend step progress command (state, earlier ++ recorded) =
              Prod.map id (Backend.onTopOf earlier) (answer, (after, kept)) := by
            rw [← advanced]
            exact advance_simulates (Backend.simulates_guarded job.guard earlier) step progress
              command (state, recorded)
          cases answer <;> simp [turn, advanced, moved, Backend.onTopOf]

/-- The actions that a build records in its next turn. -/
def added (process : Process job) : List Action :=
  (process.turn []).2

theorem turn_eq (process : Process job) (recorded : List Action) :
    process.turn recorded = ((process.turn []).1, recorded ++ process.added) := by
  have appended := process.turn_append recorded []
  rw [List.append_nil] at appended
  exact appended

/-- A turn changes nothing about what a build comes to. -/
theorem outlook_turn (process : Process job) (own : List Action) :
    (process.turn []).1.outlook (own ++ process.added) = process.outlook own := by
  have taken : (process.turn own).1.outlook (process.turn own).2 = process.outlook own := by
    rcases process with ⟨stage, announced, state⟩
    cases stage with
    | ended result => rfl
    | before step progress rest =>
        cases rest with
        | nil => simp [turn, outlook, resume, Progress.summary]
        | cons command rest =>
            rcases advanced : advance job.backend step progress command (state, own) with
              ⟨answer, after, kept⟩
            cases answer <;>
              simp [turn, outlook, resume, advanced, Outcome.announce]
  rw [turn_eq] at taken
  exact taken

theorem outlook_append (process : Process job) (earlier own : List Action) :
    process.outlook (earlier ++ own) =
      (process.outlook own).mapState (Backend.onTopOf earlier) := by
  rcases process with ⟨stage, announced, state⟩
  cases stage with
  | ended result => rfl
  | before step progress rest =>
      have resumed : resume job.backend job.recipe.length step progress
            (state, earlier ++ own) rest =
          (resume job.backend job.recipe.length step progress (state, own) rest).mapState
            (Backend.onTopOf earlier) :=
        resume_simulates (Backend.simulates_guarded job.guard earlier) _ step progress
          (state, own) rest
      simp [outlook, resumed, Outcome.mapState]

/-- What a build has recorded stays in front of all that it records later. -/
theorem isPrefix_outlook (process : Process job) (own : List Action) :
    own <+: (process.outlook own).state.2 := by
  have appended := process.outlook_append own []
  rw [List.append_nil] at appended
  rw [appended]
  exact List.prefix_append own _

/-! ## The first turn and the last -/

theorem outlook_first (job : Job.{u}) : (first job).outlook [] = job.outcome [] :=
  rfl

theorem turnsLeft_turn (process : Process job) (recorded : List Action) :
    (process.turn recorded).1.stage.turnsLeft ≤ process.stage.turnsLeft - 1 := by
  rcases process with ⟨stage, announced, state⟩
  cases stage with
  | ended result => exact Nat.zero_le _
  | before step progress rest =>
      cases rest with
      | nil => exact Nat.zero_le _
      | cons command rest =>
          rcases advanced : advance job.backend step progress command (state, recorded) with
            ⟨answer, after, kept⟩
          cases answer <;> simp [turn, advanced, Stage.turnsLeft]

/-- A build that has ended came to what it has in hand. -/
theorem outlook_ended {process : Process job} {result : Except Failure Summary}
    (ended : process.stage = .ended result) (own : List Action) :
    process.outlook own = ⟨result, process.announced, (process.state, own)⟩ := by
  simp only [outlook, ended]

end Process

theorem Stage.exists_ended {stage : Stage} (none : stage.turnsLeft = 0) :
    ∃ result, stage = .ended result := by
  cases stage with
  | before step progress rest => cases none
  | ended result => exact ⟨result, rfl⟩

/-- A build adds the same actions to any that were recorded before. -/
theorem Job.outcome_eq (job : Job.{u}) (recorded : List Action) :
    job.outcome recorded = (job.outcome []).mapState (Backend.onTopOf recorded) := by
  have simulated := run_simulates (Backend.simulates_guarded job.guard recorded) job.recipe
    (job.start, [])
  rw [Backend.onTopOf, List.append_nil] at simulated
  exact simulated

end Build

end GuestImage
