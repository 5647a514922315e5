import GuestImage.Build.Backend
import GuestImage.Build.Workdir
import GuestImage.StepKey

/-!
# Builds

A build hands the commands of a recipe to a backend, strictly in order, and stops at the first
failure. It keeps the working directory, which relative commands depend on, and the key of the last
step.
-/

namespace GuestImage.Build

/-- What a build has gathered so far. -/
structure Progress where
  origin? : Option BaseImage
  workdir : String
  entrypoint? : Option String
  cacheKey? : Option String
  deriving DecidableEq, Repr

/-- A build before its first command. -/
def Progress.initial : Progress where
  origin? := none
  workdir := Workdir.initial
  entrypoint? := none
  cacheKey? := none

/-- The result of a build in which no step failed. -/
structure Summary where
  origin? : Option BaseImage
  steps : Nat
  workdir : String
  entrypoint? : Option String
  /-- The key of the last step. -/
  cacheKey? : Option String
  deriving DecidableEq, Repr

/-- What a command asks of the backend, and the progress once it is done. Only an origin can be
refused before the backend is asked. -/
def prepare (progress : Progress) (command : Command) : Except Failure (Action × Progress) :=
  let key := StepKey.of progress.cacheKey? command
  let progress := { progress with cacheKey? := some key }
  match command.kind with
  | .origin =>
      match BaseImage.parse command.value with
      | .error rejection => .error (.ofRejection rejection)
      | .ok image => .ok (.fetchOrigin image, { progress with origin? := some image })
  | .run => .ok (.run command.value progress.workdir, progress)
  | .copy => .ok (.copy command.value progress.workdir, progress)
  | .workdir =>
      let workdir := Workdir.resolve progress.workdir command.value
      .ok (.setWorkdir workdir, { progress with workdir := workdir })
  | .entrypoint =>
      .ok (.setEntrypoint command.value, { progress with entrypoint? := some command.value })

/-- The line that announces a step. -/
def stepLine (step total : Nat) (command : Command) : String :=
  s!"Step {step}/{total}: {command.text}\n"

universe u

variable {σ : Type u}

/-- What a build leaves behind: its result, the lines that announced its steps, and the state of the
backend. -/
structure Outcome (σ : Type u) where
  result : Except Failure Summary
  announced : List String
  state : σ

/-- Put one more announcement in front of an outcome. -/
def Outcome.announce (line : String) (outcome : Outcome σ) : Outcome σ :=
  { outcome with announced := line :: outcome.announced }

/-- Carry out one command: the progress after it, or the failure, and the state of the backend. -/
def advance (backend : Backend σ) (step : Nat) (progress : Progress) (command : Command)
    (state : σ) : Except Failure Progress × σ :=
  match prepare progress command with
  | .error failure => (.error failure, state)
  | .ok (action, prepared) =>
      match backend state action with
      | (.error failure, after) => (.error (failure.atStep step), after)
      | (.ok (), after) => (.ok prepared, after)

/-- Carry out the commands from the given step on. -/
def resume (backend : Backend σ) (total step : Nat) (progress : Progress) (state : σ) :
    (commands : List Command) → Outcome σ
  | [] =>
      ⟨.ok ⟨progress.origin?, total, progress.workdir, progress.entrypoint?, progress.cacheKey?⟩,
        [], state⟩
  | command :: rest =>
      .announce (stepLine step total command) <|
        match advance backend step progress command state with
        | (.error failure, after) => ⟨.error failure, [], after⟩
        | (.ok advanced, after) => resume backend total (step + 1) advanced after rest

/-- Build a recipe on a backend. -/
def run (backend : Backend σ) (recipe : Recipe) (state : σ) : Outcome σ :=
  resume backend recipe.length 1 .initial state recipe.commands

/-- What a build prints: its announcements, unless it is quiet. -/
def Outcome.printed (quiet : Bool) (outcome : Outcome σ) : String :=
  if quiet then "" else String.join outcome.announced

/-- Plan a recipe on top of the actions recorded before. -/
def plan (recipe : Recipe) (actions : List Action) : Outcome (List Action) :=
  run .plan recipe actions

end GuestImage.Build
