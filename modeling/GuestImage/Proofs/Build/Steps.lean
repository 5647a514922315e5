import GuestImage.Proofs.Build.Asks

/-!
# A build after its first steps

A build that got through its first commands goes on with the rest from the progress that it holds
then. The actions that the commands ask for fix this progress at every step.
-/

namespace GuestImage.Build

universe u

variable {σ : Type u} {backend : Backend σ} {progress final : Progress}

/-- Carry out commands up to the first failure: the progress that the build holds after them, or the
failure, and the state of the backend. -/
def advanceAll (backend : Backend σ) (step : Nat) (progress : Progress) (state : σ) :
    (commands : List Command) → Except Failure Progress × σ
  | [] => (.ok progress, state)
  | command :: rest =>
      match advance backend step progress command state with
      | (.error failure, after) => (.error failure, after)
      | (.ok advanced, after) => advanceAll backend (step + 1) advanced after rest

/-- A build goes on from what it holds after its first commands. -/
theorem resume_append {step : Nat} {state after : σ} {first : List Command}
    (advanced : advanceAll backend step progress state first = (.ok final, after))
    (total : Nat) (rest : List Command) :
    resume backend total step progress state (first ++ rest) =
      let later := resume backend total (step + first.length) final after rest
      ⟨later.result, announcements total step first ++ later.announced, later.state⟩ := by
  induction first generalizing step progress state with
  | nil =>
      cases advanced
      rfl
  | cons command first ih =>
      rw [advanceAll] at advanced
      rcases answered : advance backend step progress command state with ⟨answer, next⟩
      rw [answered] at advanced
      cases answer with
      | error failure => cases advanced
      | ok reached =>
          rw [List.cons_append, resume, answered]
          simp only [ih advanced, Outcome.announce, announcements_cons, List.length_cons,
            List.cons_append, Nat.add_assoc, Nat.add_comm 1]

/-- Where no answer is a failure, a build holds the progress that the actions lead to. -/
theorem Asks.advanceAll_eq {commands : List Command} {actions : List Action}
    (asks : Asks progress commands actions final) {step : Nat} {state : σ}
    (succeed : Succeeds (backend.answers state actions)) :
    advanceAll backend step progress state commands = (.ok final, backend.after state actions) := by
  induction asks generalizing step state with
  | done progress => rfl
  | @step progress next final command rest action actions prepared later ih =>
      have first := succeed _ List.mem_cons_self
      rcases answered : backend state action with ⟨answer, after⟩
      rw [answered] at first
      obtain rfl : answer = .ok () := first
      simp only [advanceAll, advance, prepared, answered]
      rw [ih]
      · simp [Backend.after, answered]
      · intro answer member
        apply succeed answer
        rw [Backend.answers, answered]
        exact List.mem_cons_of_mem _ member

/-- The first commands ask for the first actions. -/
theorem Asks.take {commands : List Command} {actions : List Action}
    (asks : Asks progress commands actions final) (count : Nat) :
    ∃ reached, Asks progress (commands.take count) (actions.take count) reached := by
  induction asks generalizing count with
  | done progress =>
      rw [List.take_nil, List.take_nil]
      exact ⟨progress, .done progress⟩
  | step prepared later ih =>
      cases count with
      | zero => exact ⟨_, .done _⟩
      | succ count =>
          rcases ih count with ⟨reached, earlier⟩
          exact ⟨reached, .step prepared earlier⟩

end GuestImage.Build
