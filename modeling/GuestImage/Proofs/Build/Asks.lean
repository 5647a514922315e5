import GuestImage.Build.Run
import GuestImage.Proofs.Build.Answers

/-!
# What commands ask of a backend

The commands of a build fix the actions that it may ask for, whatever the backend answers: an answer
decides only how far the build gets. So the actions are listed without a backend (`Asks`), and a
build on a backend carries them out up to the first failure.
-/

namespace GuestImage

/-- A failure that names no step is given the step at which it came up. -/
theorem Failure.atStep_of_ne {failure : Failure}
    (notBackend : ∀ step message, failure ≠ .backend step message) (step : Nat) :
    failure.atStep step = .backend step failure.message := by
  cases failure with
  | backend own message => exact absurd rfl (notBackend own message)
  | recipe | origin | file | decode | settings => rfl

namespace Build

universe u

variable {σ : Type u}

/-! ## What the commands ask for -/

/-- The commands ask for these actions in turn and lead from one progress to another. -/
inductive Asks : Progress → (commands : List Command) → (actions : List Action) →
    Progress → Prop where
  | done (progress : Progress) : Asks progress [] [] progress
  | step {progress next final : Progress} {command : Command} {rest : List Command}
      {action : Action} {actions : List Action}
      (prepared : prepare progress command = .ok (action, next))
      (later : Asks next rest actions final) :
      Asks progress (command :: rest) (action :: actions) final

/-- The command is an origin whose value names no image. -/
def Rejected (command : Command) (rejection : BaseImage.Rejection) : Prop :=
  command.kind = .origin ∧ BaseImage.parse command.value = .error rejection

/-- Nothing but a rejected origin stops a build before the backend is asked. -/
theorem exists_prepare {command : Command}
    (accepted : ∀ rejection, ¬Rejected command rejection) (progress : Progress) :
    ∃ action next, prepare progress command = .ok (action, next) := by
  cases kind : command.kind with
  | origin =>
      cases parsed : BaseImage.parse command.value with
      | error rejection => exact absurd ⟨kind, parsed⟩ (accepted rejection)
      | ok image =>
          simp only [prepare, kind, parsed]
          exact ⟨_, _, rfl⟩
  | run | copy | workdir | entrypoint =>
      simp only [prepare, kind]
      exact ⟨_, _, rfl⟩

theorem prepare_rejected {command : Command} {rejection : BaseImage.Rejection}
    (rejected : Rejected command rejection) (progress : Progress) :
    prepare progress command = .error (.ofRejection rejection) := by
  simp only [prepare, rejected.1, rejected.2]

theorem exists_asks {commands : List Command}
    (accepted : ∀ command ∈ commands, ∀ rejection, ¬Rejected command rejection)
    (progress : Progress) : ∃ actions final, Asks progress commands actions final := by
  induction commands generalizing progress with
  | nil => exact ⟨[], progress, .done progress⟩
  | cons command rest ih =>
      rcases exists_prepare (accepted command List.mem_cons_self) progress with
        ⟨action, next, prepared⟩
      have restAccepted : ∀ command ∈ rest, ∀ rejection, ¬Rejected command rejection := by
        intro command member
        exact accepted command (List.mem_cons_of_mem _ member)
      rcases ih restAccepted next with ⟨actions, final, later⟩
      exact ⟨action :: actions, final, .step prepared later⟩

/-! ## One step -/

/-- The line of a step, spelled out. -/
theorem stepLine_eq (step total : Nat) (command : Command) :
    stepLine step total command =
      s!"Step {step}/{total}: {command.kind.keyword} {command.value}\n" := by
  simp only [stepLine, Command.text, toString, String.append_assoc]

/-- The lines that announce commands, of which the first is the given step. -/
def announcements (total step : Nat) (commands : List Command) : List String :=
  commands.mapIdx fun place command =>
    s!"Step {step + place}/{total}: {command.kind.keyword} {command.value}\n"

theorem announcements_cons (total step : Nat) (command : Command) (rest : List Command) :
    announcements total step (command :: rest) =
      stepLine step total command :: announcements total (step + 1) rest := by
  have shifted : (fun place command => stepLine (step + (place + 1)) total command) =
      fun place command => stepLine (step + 1 + place) total command := by
    funext place command
    rw [Nat.add_right_comm, Nat.add_assoc]
  simp only [announcements, ← stepLine_eq]
  rw [List.mapIdx_cons, shifted, Nat.add_zero]

/-- The result of a build whose last step leads to this progress. -/
def Progress.summary (progress : Progress) (total : Nat) : Summary :=
  ⟨progress.origin?, total, progress.workdir, progress.entrypoint?, progress.cacheKey?⟩

section Step

variable {backend : Backend σ} {total step : Nat} {progress next : Progress} {state : σ}
variable {command : Command} {rest : List Command} {action : Action} {failure : Failure}

theorem resume_refused (refused : prepare progress command = .error failure) :
    resume backend total step progress state (command :: rest) =
      ⟨.error failure, [stepLine step total command], state⟩ := by
  simp [resume, advance, refused, Outcome.announce]

theorem resume_failed (prepared : prepare progress command = .ok (action, next))
    (fails : (backend state action).1 = .error failure) :
    resume backend total step progress state (command :: rest) =
      ⟨.error (failure.atStep step), [stepLine step total command],
        (backend state action).2⟩ := by
  rcases answered : backend state action with ⟨answer, after⟩
  rw [answered] at fails
  obtain rfl : answer = .error failure := fails
  simp [resume, advance, prepared, answered, Outcome.announce]

theorem resume_succeeded (prepared : prepare progress command = .ok (action, next))
    (succeeds : (backend state action).1 = .ok ()) :
    resume backend total step progress state (command :: rest) =
      (resume backend total (step + 1) next (backend state action).2 rest).announce
        (stepLine step total command) := by
  rcases answered : backend state action with ⟨answer, after⟩
  rw [answered] at succeeds
  obtain rfl : answer = .ok () := succeeds
  simp [resume, advance, prepared, answered]

end Step

/-! ## All steps -/

section Run

variable {backend : Backend σ} {progress final : Progress} {commands : List Command}
variable {actions : List Action}

/-- A build in which no answer is a failure carries out all actions. -/
theorem Asks.resume_complete (asks : Asks progress commands actions final) (total : Nat)
    {step : Nat} {state : σ} (succeed : Succeeds (backend.answers state actions)) :
    resume backend total step progress state commands =
      ⟨.ok (final.summary total), announcements total step commands,
        backend.after state actions⟩ := by
  induction asks generalizing step state with
  | done progress => rfl
  | step prepared later ih =>
      have first := succeed _ List.mem_cons_self
      rw [resume_succeeded prepared first, ih]
      · simp [Outcome.announce, announcements_cons, Backend.after]
      · intro answer member
        exact succeed answer (List.mem_cons_of_mem _ member)

/-- A build stops at the first failure, which is the last action that it asks for. -/
theorem Asks.resume_stopped (asks : Asks progress commands actions final) (total : Nat)
    {step before : Nat} {state : σ} {failure : Failure}
    (fails : FirstFailure (backend.answers state actions) before failure) :
    resume backend total step progress state commands =
      ⟨.error (failure.atStep (step + before)),
        (announcements total step commands).take (before + 1),
        backend.after state (actions.take (before + 1))⟩ := by
  induction asks generalizing step before state with
  | done => exact absurd fails not_firstFailure_nil
  | step prepared later ih =>
      cases before with
      | zero =>
          rw [resume_failed prepared (firstFailure_cons_zero.mp fails)]
          simp [announcements_cons, Backend.after]
      | succ before =>
          rcases firstFailure_cons_succ.mp fails with ⟨first, laterFails⟩
          rw [resume_succeeded prepared first, ih laterFails]
          simp [Outcome.announce, announcements_cons, Backend.after, Nat.add_comm,
            Nat.add_left_comm]

end Run

end Build

end GuestImage
