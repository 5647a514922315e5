import GuestImage.Recipe.Basic
import GuestImage.Sha256
import GuestImage.Text.Encoding

/-!
# Step keys

Every step of a recipe has a content-addressed key: the digest of the key before it, the kind of
the command, its fingerprint and its argument. An edit therefore changes the key of its own step
and of every later one, and no earlier key.
-/

namespace GuestImage.StepKey

/-- What stands before the digits of every key. -/
def algorithm : String := "sha256:"

/-- The fingerprint as four bytes, the most significant first. -/
def fingerprintBytes (fingerprint : Int32) : List UInt8 :=
  Sha256.bytesOfWord fingerprint.toUInt32

/-- The bytes that are digested for a command on top of the key before it. A zero byte separates
that key, which may be absent, from the command. -/
def message (parent : Option String) (command : Command) : List UInt8 :=
  Text.bytes (parent.getD "") ++ 0 :: Text.bytes command.kind.name ++
    fingerprintBytes command.fingerprint ++ Text.bytes command.value

/-- The key of the state after a command, on top of the key before it. -/
def of (parent : Option String) (command : Command) : String :=
  algorithm ++ Text.hex (Sha256.digest (message parent command))

/-- The keys of consecutive commands, on top of the key before the first. -/
def chain (parent : Option String) : (commands : List Command) → List String
  | [] => []
  | command :: rest =>
      let key := of parent command
      key :: chain (some key) rest

/-- The messages that are digested for consecutive commands, on top of the key before the first. -/
def messages (parent : Option String) : (commands : List Command) → List (List UInt8)
  | [] => []
  | command :: rest => message parent command :: messages (some (of parent command)) rest

/-- The keys of all steps of a recipe, in order. -/
def all (recipe : Recipe) : List String :=
  chain none recipe.commands

/-- The name of the directory that caches a step: the key with every colon made an underscore. -/
def directoryName (key : String) : String :=
  key.map fun letter => if letter = ':' then '_' else letter

/-- How many digits of a key are shown. -/
def shownDigits : Nat := 12

/-- A key cut short for display. What stands before the first colon is shown whole. -/
def short (key : String) : String :=
  match key.toList.dropWhile (· != ':') with
  | [] => String.ofList (key.toList.take shownDigits)
  | colon :: digits =>
      String.ofList (key.toList.takeWhile (· != ':') ++ colon :: digits.take shownDigits)

/-- Every key shows the digest of its message. -/
theorem chain_eq_map_messages (parent : Option String) (commands : List Command) :
    chain parent commands =
      (messages parent commands).map fun digested =>
        algorithm ++ Text.hex (Sha256.digest digested) := by
  induction commands generalizing parent with
  | nil => rfl
  | cons command rest ih => simp [chain, messages, ih, of]

@[simp] theorem length_chain (parent : Option String) (commands : List Command) :
    (chain parent commands).length = commands.length := by
  induction commands generalizing parent with
  | nil => rfl
  | cons command rest ih => simp [chain, ih]

/-- A key stands on the last key before it. -/
theorem chain_concat (parent : Option String) (done : List Command) (command : Command) :
    chain parent (done ++ [command]) =
      chain parent done ++ [of ((chain parent done).getLast?.or parent) command] := by
  induction done generalizing parent with
  | nil => rfl
  | cons first rest ih =>
      rw [List.cons_append, chain, chain, ih, List.getLast?_cons]
      cases (chain (some (of parent first)) rest).getLast? <;> rfl

end GuestImage.StepKey
