import GuestImage.Proofs.Build.Asks

/-!
# Backends seen through a view

A view maps the states of one backend to those of another. Where the two answer alike along it, a
build on the first, seen through the view, is the build on the second. Two such views matter: what
lies below the list of a traced backend, and what a backend records on top of earlier actions.
-/

namespace GuestImage

universe u v

variable {σ : Type u} {τ : Type v}

/-- Along a view of its states, the first backend answers as the second does. -/
def Backend.Simulates (first : Backend σ) (second : Backend τ) (view : σ → τ) : Prop :=
  ∀ state action, second (view state) action = Prod.map id view (first state action)

/-- Under the list of the calls a traced backend is the backend itself. -/
theorem Backend.simulates_traced (backend : Backend σ) :
    backend.traced.Simulates backend Prod.snd := by
  intro state action
  rfl

namespace Build

/-- An outcome with the state of the backend seen through a view. -/
def Outcome.mapState (view : σ → τ) (outcome : Outcome σ) : Outcome τ where
  result := outcome.result
  announced := outcome.announced
  state := view outcome.state

section Simulation

variable {first : Backend σ} {second : Backend τ} {view : σ → τ}

theorem advance_simulates (simulates : first.Simulates second view) (step : Nat)
    (progress : Progress) (command : Command) (state : σ) :
    advance second step progress command (view state) =
      Prod.map id view (advance first step progress command state) := by
  cases prepared : prepare progress command with
  | error failure => simp [advance, prepared]
  | ok made =>
      rcases made with ⟨action, next⟩
      rcases answered : first state action with ⟨answer, after⟩
      cases answer <;> simp [advance, prepared, simulates state action, answered]

theorem resume_simulates (simulates : first.Simulates second view) (total step : Nat)
    (progress : Progress) (state : σ) (commands : List Command) :
    resume second total step progress (view state) commands =
      (resume first total step progress state commands).mapState view := by
  induction commands generalizing step progress state with
  | nil => rfl
  | cons command rest ih =>
      rcases advanced : advance first step progress command state with ⟨answer, after⟩
      cases answer with
      | error failure =>
          simp [resume, advance_simulates simulates, advanced, Outcome.announce, Outcome.mapState]
      | ok next =>
          simp [resume, advance_simulates simulates, advanced, ih, Outcome.announce,
            Outcome.mapState]

/-- A build on one backend, seen through a view, is the build on the other. -/
theorem run_simulates (simulates : first.Simulates second view) (recipe : Recipe) (state : σ) :
    run second recipe (view state) = (run first recipe state).mapState view :=
  resume_simulates simulates recipe.length 1 .initial state recipe.commands

end Simulation

/-- Tracing a backend changes nothing about a build but the calls that it lists. -/
theorem run_traced (backend : Backend σ) (recipe : Recipe) (asked : List Action) (state : σ) :
    run backend recipe state = (run backend.traced recipe (asked, state)).mapState Prod.snd :=
  run_simulates (Backend.simulates_traced backend) recipe (asked, state)

end Build

end GuestImage
