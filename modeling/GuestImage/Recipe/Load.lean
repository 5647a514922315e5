import GuestImage.Failure
import GuestImage.Files
import GuestImage.Recipe.Basic

/-!
# Loading recipes

A recipe is read from the text of a file.
-/

namespace GuestImage.Recipe

/-- The recipe of a text, or the failure that says what is wrong with it. -/
def ofText (text : String) : Except Failure Recipe :=
  match parse text with
  | .ok recipe => .ok recipe
  | .error cause => .error (.recipe cause)

theorem ofText_eq_ok_iff {text : String} {recipe : Recipe} :
    ofText text = .ok recipe ↔ parse text = .ok recipe := by
  rw [ofText]
  cases parse text <;> simp

/-- The recipe in a file. -/
def load {m : Type → Type} [Monad m] (files : Files m) (path : String) :
    m (Except Failure Recipe) := do
  match ← files.readText path with
  | .error error =>
      return .error (.file s!"Failed to read Forgefile at {path}: {error.message}")
  | .ok text => return ofText text

end GuestImage.Recipe
