import GuestImage.Build.Backend

/-!
# Answers of a backend

A backend is a function of its state and of one action. A list of actions therefore fixes the list
of its answers and its state in the end, whoever asks. Nothing here looks at the answers: a build
that stops at a failure asks for a prefix of the actions and is given a prefix of the answers.
-/

namespace GuestImage

/-- The first failure in a list of answers, and how many answers come before it. -/
def FirstFailure (answers : List (Except Failure Unit)) (before : Nat)
    (failure : Failure) : Prop :=
  answers[before]? = some (.error failure) ∧
    ∀ earlier < before, answers[earlier]? = some (.ok ())

/-- No answer is a failure. -/
def Succeeds (answers : List (Except Failure Unit)) : Prop :=
  ∀ answer ∈ answers, answer = .ok ()

theorem not_firstFailure_nil {before : Nat} {failure : Failure} :
    ¬FirstFailure [] before failure := by
  rintro ⟨fails, -⟩
  simp at fails

theorem firstFailure_cons_zero {answer : Except Failure Unit}
    {answers : List (Except Failure Unit)} {failure : Failure} :
    FirstFailure (answer :: answers) 0 failure ↔ answer = .error failure := by
  simp [FirstFailure]

theorem firstFailure_cons_succ {answer : Except Failure Unit}
    {answers : List (Except Failure Unit)} {before : Nat} {failure : Failure} :
    FirstFailure (answer :: answers) (before + 1) failure ↔
      answer = .ok () ∧ FirstFailure answers before failure := by
  constructor
  · rintro ⟨fails, succeed⟩
    refine ⟨Option.some.inj (succeed 0 (Nat.succ_pos before)), fails, ?_⟩
    intro earlier bound
    exact succeed (earlier + 1) (Nat.succ_lt_succ bound)
  · rintro ⟨rfl, fails, succeed⟩
    refine ⟨fails, ?_⟩
    intro earlier bound
    cases earlier with
    | zero => rfl
    | succ earlier => exact succeed earlier (Nat.lt_of_succ_lt_succ bound)

/-- The first failure stays the first, whatever is answered later. -/
theorem FirstFailure.append {answers : List (Except Failure Unit)} {before : Nat}
    {failure : Failure} (fails : FirstFailure answers before failure)
    (later : List (Except Failure Unit)) : FirstFailure (answers ++ later) before failure := by
  have kept : ∀ {place : Nat} {answer : Except Failure Unit},
      answers[place]? = some answer → (answers ++ later)[place]? = some answer := by
    intro place answer found
    rw [List.getElem?_append_left (List.getElem?_eq_some_iff.mp found).1]
    exact found
  constructor
  · exact kept fails.1
  · intro earlier bound
    exact kept (fails.2 earlier bound)

/-- No answer after the first failure is needed to tell that it is the first. -/
theorem FirstFailure.take {answers : List (Except Failure Unit)} {before : Nat}
    {failure : Failure} (fails : FirstFailure answers before failure) :
    FirstFailure (answers.take (before + 1)) before failure := by
  constructor
  · rw [List.getElem?_take_of_lt (Nat.lt_succ_self before)]
    exact fails.1
  · intro earlier bound
    rw [List.getElem?_take_of_lt (Nat.lt_succ_of_lt bound)]
    exact fails.2 earlier bound

theorem FirstFailure.lt_length {answers : List (Except Failure Unit)} {before : Nat}
    {failure : Failure} (fails : FirstFailure answers before failure) :
    before < answers.length :=
  (List.getElem?_eq_some_iff.mp fails.1).1

theorem FirstFailure.mem {answers : List (Except Failure Unit)} {before : Nat}
    {failure : Failure} (fails : FirstFailure answers before failure) :
    .error failure ∈ answers :=
  List.mem_of_getElem? fails.1

/-- Either no answer is a failure, or one of them is the first. -/
theorem succeeds_or_firstFailure (answers : List (Except Failure Unit)) :
    Succeeds answers ∨ ∃ before failure, FirstFailure answers before failure := by
  induction answers with
  | nil =>
      left
      intro answer member
      cases member
  | cons answer answers ih =>
      cases answer with
      | error failure => exact .inr ⟨0, failure, firstFailure_cons_zero.mpr rfl⟩
      | ok =>
          rcases ih with succeed | ⟨before, failure, fails⟩
          · left
            intro answer member
            rcases List.mem_cons.mp member with rfl | later
            · rfl
            · exact succeed answer later
          · exact .inr ⟨before + 1, failure, firstFailure_cons_succ.mpr ⟨rfl, fails⟩⟩

namespace Backend

universe u

variable {σ : Type u}

/-- The state of a backend once it was asked for some actions, whatever it answered. -/
def after (backend : Backend σ) (state : σ) : (actions : List Action) → σ
  | [] => state
  | action :: rest => backend.after (backend state action).2 rest

/-- What a backend answers to some actions, one after the other. -/
def answers (backend : Backend σ) (state : σ) :
    (actions : List Action) → List (Except Failure Unit)
  | [] => []
  | action :: rest => (backend state action).1 :: backend.answers (backend state action).2 rest

@[simp] theorem length_answers (backend : Backend σ) (state : σ) (actions : List Action) :
    (backend.answers state actions).length = actions.length := by
  induction actions generalizing state with
  | nil => rfl
  | cons action rest ih => simp [answers, ih]

theorem answers_append (backend : Backend σ) (state : σ) (first second : List Action) :
    backend.answers state (first ++ second) =
      backend.answers state first ++ backend.answers (backend.after state first) second := by
  induction first generalizing state with
  | nil => rfl
  | cons action rest ih => simp [answers, after, ih]

theorem answers_take (backend : Backend σ) (state : σ) (actions : List Action) (count : Nat) :
    backend.answers state (actions.take count) = (backend.answers state actions).take count := by
  induction actions generalizing state count with
  | nil => simp [answers]
  | cons action rest ih =>
      cases count with
      | zero => rfl
      | succ count => simp [answers, ih]

/-! ## Two backends of the model -/

/-- The plan backend never fails. -/
theorem succeeds_plan (recorded actions : List Action) :
    Succeeds (Backend.plan.answers recorded actions) := by
  induction actions generalizing recorded with
  | nil =>
      intro answer member
      cases member
  | cons action rest ih =>
      intro answer member
      rcases List.mem_cons.mp member with rfl | later
      · rfl
      · exact ih (recorded ++ [action]) answer later

theorem after_plan (recorded actions : List Action) :
    Backend.plan.after recorded actions = recorded ++ actions := by
  induction actions generalizing recorded with
  | nil => simp [after]
  | cons action rest ih => simp [after, plan, ih]

/-- Tracing a backend changes none of its answers. -/
theorem answers_traced (backend : Backend σ) (asked : List Action) (state : σ)
    (actions : List Action) :
    backend.traced.answers (asked, state) actions = backend.answers state actions := by
  induction actions generalizing asked state with
  | nil => rfl
  | cons action rest ih => simp [answers, traced, ih]

theorem after_traced (backend : Backend σ) (asked : List Action) (state : σ)
    (actions : List Action) :
    backend.traced.after (asked, state) actions =
      (asked ++ actions, backend.after state actions) := by
  induction actions generalizing asked state with
  | nil => simp [after]
  | cons action rest ih => simp [after, traced, ih]

end Backend

end GuestImage
