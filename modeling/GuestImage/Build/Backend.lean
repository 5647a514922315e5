import GuestImage.Failure

/-!
# Build backends

A backend carries out the actions of a build, one call at a time, and answers each with success or
a failure. The plan backend only records the actions, which is what a dry run shows.
-/

namespace GuestImage

/-- One call to a backend. -/
inductive Action where
  /-- Fetch the base image. -/
  | fetchOrigin (image : BaseImage)
  /-- Run a command in a working directory of the guest. -/
  | run (command workdir : String)
  /-- Stage files, relative to a working directory of the guest. -/
  | copy (spec workdir : String)
  /-- Set the working directory of the image. -/
  | setWorkdir (path : String)
  /-- Set the boot command of the image. -/
  | setEntrypoint (command : String)
  deriving DecidableEq, Repr

namespace Action

/-- The kinds of call, without their arguments. -/
inductive Call where
  | fetchOrigin
  | run
  | copy
  | setWorkdir
  | setEntrypoint
  deriving DecidableEq, Repr

/-- Which call an action is. -/
def call : Action → Call
  | fetchOrigin _ => .fetchOrigin
  | run _ _ => .run
  | copy _ _ => .copy
  | setWorkdir _ => .setWorkdir
  | setEntrypoint _ => .setEntrypoint

/-- The main argument of a call. -/
def argument : Action → String
  | fetchOrigin image => image.text
  | run command _ => command
  | copy spec _ => spec
  | setWorkdir path => path
  | setEntrypoint command => command

end Action

universe u

/-- A backend with states `σ`: how it answers an action, and its state after it. -/
def Backend (σ : Type u) : Type u :=
  σ → Action → Except Failure Unit × σ

namespace Backend

variable {σ : Type u}

/-- Record every action, in order, and never fail. -/
def plan : Backend (List Action) :=
  fun actions action => (.ok (), actions ++ [action])

/-- A backend that also lists the actions it was asked for, in order, whatever came of them. -/
def traced (inner : Backend σ) : Backend (List Action × σ) :=
  fun (asked, state) action =>
    let (outcome, after) := inner state action
    (outcome, (asked ++ [action], after))

/-- A rule that makes one call fail: the `nth` one (from 1) of the given kind, with the given
argument if there is one. -/
structure Injection where
  call : Action.Call
  argument? : Option String
  nth : Nat
  failure : Failure
  deriving DecidableEq, Repr

/-- Whether a rule counts an action. -/
def Injection.counts (injection : Injection) (action : Action) : Bool :=
  action.call = injection.call &&
    injection.argument?.all (· == action.argument)

/-- A backend whose calls go through unless a rule makes them fail. The number counts the calls
that matched the rule; a call that fails does not reach the inner backend. -/
def failing (injection : Injection) (inner : Backend σ) : Backend (Nat × σ) :=
  fun (count, state) action =>
    if injection.counts action then
      if count + 1 = injection.nth then
        (.error injection.failure, (count + 1, state))
      else
        let (outcome, state) := inner state action
        (outcome, (count + 1, state))
    else
      let (outcome, state) := inner state action
      (outcome, (count, state))

end Backend

end GuestImage
