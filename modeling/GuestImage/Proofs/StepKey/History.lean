import GuestImage.Proofs.Recipe.Acceptance
import GuestImage.Proofs.StepKey.Message

/-!
# Step keys identify histories

The key of a step depends on the kinds and arguments of the commands up to it and on nothing else,
and two equal keys come from equal histories unless two different messages of them have the same
digest.
-/

namespace GuestImage.StepKey

/-- What a key depends on: the kinds and arguments of the first commands of a recipe. -/
def history (recipe : Recipe) (steps : Nat) : List (CommandKind × String) :=
  (recipe.commands.take steps).map fun command => (command.kind, command.value)

/-- The messages that are digested for the keys of the first steps of a recipe. -/
def digested (recipe : Recipe) (steps : Nat) : List (List UInt8) :=
  (messages none recipe.commands).take steps

/-- Two different messages with the same digest. -/
def Collide (first second : List (List UInt8)) : Prop :=
  ∃ left ∈ first, ∃ right ∈ second, left ≠ right ∧ Sha256.digest left = Sha256.digest right

/-! ## Keys and messages step by step -/

/-- The key that a step stands on. -/
def parentAt (parent : Option String) (keys : List String) : (index : Nat) → Option String
  | 0 => parent
  | index + 1 => keys[index]?

theorem getElem?_messages {parent : Option String} {commands : List Command} {index : Nat}
    {command : Command} (found : commands[index]? = some command) :
    (messages parent commands)[index]? =
      some (message (parentAt parent (chain parent commands) index) command) := by
  induction commands generalizing parent index with
  | nil => simp at found
  | cons first rest ih =>
      cases index with
      | zero =>
          obtain rfl : first = command := by simpa using found
          rfl
      | succ index =>
          have later := @ih (some (of parent first)) index (by simpa using found)
          cases index with
          | zero => exact later
          | succ index => exact later

theorem getElem?_chain {parent : Option String} {commands : List Command} {index : Nat}
    {command : Command} (found : commands[index]? = some command) :
    (chain parent commands)[index]? =
      some (of (parentAt parent (chain parent commands) index) command) := by
  have shown := congrArg (·[index]?) (chain_eq_map_messages parent commands)
  simp only [List.getElem?_map, getElem?_messages found] at shown
  exact shown

theorem isParent_parentAt (commands : List Command) (index : Nat) :
    IsParent (parentAt none (chain none commands) index) := by
  intro key present
  cases index with
  | zero => cases present
  | succ index => exact isKey_of_mem_chain (List.mem_of_getElem? present)

theorem digest_eq_of_eq {firstParent secondParent : Option String} {first second : Command}
    (same : of firstParent first = of secondParent second) :
    Sha256.digest (message firstParent first) = Sha256.digest (message secondParent second) := by
  have letters := congrArg String.toList same
  simp only [of, String.toList_append] at letters
  exact Text.hex_injective (String.toList_inj.mp (List.append_cancel_left letters))

/-! ## Histories -/

theorem history_succ {recipe : Recipe} {index : Nat} {command : Command}
    (found : recipe.commands[index]? = some command) :
    history recipe (index + 1) = history recipe index ++ [(command.kind, command.value)] := by
  simp [history, List.take_add_one, found]

theorem Collide.mono {first first' second second' : List (List UInt8)}
    (collide : Collide first second) (left : first ⊆ first') (right : second ⊆ second') :
    Collide first' second' := by
  rcases collide with ⟨one, oneMem, other, otherMem, different⟩
  exact ⟨one, left oneMem, other, right otherMem, different⟩

theorem digested_subset (recipe : Recipe) (steps : Nat) :
    digested recipe steps ⊆ digested recipe (steps + 1) :=
  (List.take_prefix_take_left (Nat.le_succ steps)).subset

theorem message_mem_digested {recipe : Recipe} {index : Nat} {command : Command}
    (found : recipe.commands[index]? = some command) :
    message (parentAt none (all recipe) index) command ∈ digested recipe (index + 1) := by
  have kept : (digested recipe (index + 1))[index]? =
      some (message (parentAt none (all recipe) index) command) := by
    rw [digested, List.getElem?_take_of_lt (Nat.lt_succ_self index)]
    exact getElem?_messages found
  exact List.mem_of_getElem? kept

/-- Equal keys come from one message, which is read back, or their messages collide. -/
theorem step_eq_or_collide {first second : Recipe} {i j : Nat} {left right : Command}
    (foundLeft : first.commands[i]? = some left) (foundRight : second.commands[j]? = some right)
    (same : (all first)[i]? = (all second)[j]?) :
    (parentAt none (all first) i = parentAt none (all second) j ∧ left.kind = right.kind ∧
        left.value = right.value) ∨
      Collide (digested first (i + 1)) (digested second (j + 1)) := by
  rw [all, all, getElem?_chain foundLeft, getElem?_chain foundRight, Option.some.injEq] at same
  by_cases read : message (parentAt none (all first) i) left =
      message (parentAt none (all second) j) right
  · left
    exact message_injective (isParent_parentAt _ _) (isParent_parentAt _ _) read
  · right
    exact ⟨_, message_mem_digested foundLeft, _, message_mem_digested foundRight, read,
      digest_eq_of_eq same⟩

theorem exists_getElem?_all {recipe : Recipe} {index : Nat} (valid : index < recipe.length) :
    ∃ key, (all recipe)[index]? = some key := by
  have inside : index < (all recipe).length := by
    rw [all, length_chain]
    exact valid
  exact ⟨_, List.getElem?_eq_getElem inside⟩

/-- Only the first step stands on no key. -/
theorem parentAt_succ_ne_none {recipe : Recipe} {index : Nat}
    (valid : index + 1 < recipe.length) : parentAt none (all recipe) (index + 1) ≠ none := by
  rcases exists_getElem?_all (Nat.lt_of_succ_lt valid) with ⟨key, present⟩
  rw [parentAt, present]
  exact Option.some_ne_none key

/-- Equal keys come from equal histories, or two messages collide. The induction goes down both
chains at once, for equal messages stand on equal keys. -/
theorem history_eq_or_collide {first second : Recipe} {i j : Nat} (validFirst : i < first.length)
    (validSecond : j < second.length) (same : (all first)[i]? = (all second)[j]?) :
    (i = j ∧ history first (i + 1) = history second (j + 1)) ∨
      Collide (digested first (i + 1)) (digested second (j + 1)) := by
  have foundLeft := List.getElem?_eq_getElem validFirst
  have foundRight := List.getElem?_eq_getElem validSecond
  induction i generalizing j with
  | zero =>
      rcases step_eq_or_collide foundLeft foundRight same with ⟨parents, kinds, values⟩ | collide
      · left
        cases j with
        | zero =>
            refine ⟨rfl, ?_⟩
            rw [history_succ foundLeft, history_succ foundRight, kinds, values]
            rfl
        | succ j => exact absurd parents.symm (parentAt_succ_ne_none validSecond)
      · exact .inr collide
  | succ i ih =>
      rcases step_eq_or_collide foundLeft foundRight same with ⟨parents, kinds, values⟩ | collide
      · have validParent := Nat.lt_of_succ_lt validFirst
        cases j with
        | zero => exact absurd parents (parentAt_succ_ne_none validFirst)
        | succ j =>
            have validOther := Nat.lt_of_succ_lt validSecond
            rcases ih validParent validOther parents (List.getElem?_eq_getElem validParent)
              (List.getElem?_eq_getElem validOther) with ⟨rfl, earlier⟩ | collide
            · left
              refine ⟨rfl, ?_⟩
              rw [history_succ foundLeft, history_succ foundRight, earlier, kinds, values]
            · right
              exact collide.mono (digested_subset _ _) (digested_subset _ _)
      · exact .inr collide

/-! ## Equal histories -/

theorem chain_take (parent : Option String) (commands : List Command) (steps : Nat) :
    chain parent (commands.take steps) = (chain parent commands).take steps := by
  induction commands generalizing parent steps with
  | nil => simp [chain]
  | cons command rest ih =>
      cases steps with
      | zero => rfl
      | succ steps => simp [chain, ih]

theorem getLast?_chain_take {parent : Option String} {commands : List Command} {index : Nat}
    {key : String} (shown : (chain parent commands)[index]? = some key) :
    (chain parent (commands.take (index + 1))).getLast? = some key := by
  rw [chain_take, List.take_add_one, shown]
  simp

/-- A key depends on the kind and the argument of a command only. -/
theorem of_congr (parent : Option String) {first second : Command}
    (madeFirst : first.Fingerprinted) (madeSecond : second.Fingerprinted)
    (kinds : first.kind = second.kind) (values : first.value = second.value) :
    of parent first = of parent second := by
  have fingerprints : first.fingerprint = second.fingerprint := by
    rw [madeFirst, madeSecond, kinds, values]
  rw [of, of, message, message, kinds, fingerprints, values]

theorem chain_congr {parent : Option String} {first second : List Command}
    (madeFirst : ∀ command ∈ first, command.Fingerprinted)
    (madeSecond : ∀ command ∈ second, command.Fingerprinted)
    (same : (first.map fun command => (command.kind, command.value)) =
      second.map fun command => (command.kind, command.value)) :
    chain parent first = chain parent second := by
  induction first generalizing parent second with
  | nil =>
      rw [List.map_nil, eq_comm, List.map_eq_nil_iff] at same
      rw [same]
  | cons command first ih =>
      cases second with
      | nil => cases same
      | cons other second =>
          simp only [List.map_cons, List.cons.injEq, Prod.mk.injEq] at same
          rcases same with ⟨⟨kinds, values⟩, rest⟩
          rcases List.forall_mem_cons.mp madeFirst with ⟨madeCommand, madeFirst⟩
          rcases List.forall_mem_cons.mp madeSecond with ⟨madeOther, madeSecond⟩
          rw [chain, chain, of_congr parent madeCommand madeOther kinds values]
          exact congrArg _ (ih madeFirst madeSecond rest)

/-- Recipes with the same history have the same keys up to it. -/
theorem getElem?_all_congr {first second : Recipe} {steps index : Nat}
    (madeFirst : ∀ command ∈ first.commands, command.Fingerprinted)
    (madeSecond : ∀ command ∈ second.commands, command.Fingerprinted)
    (same : history first steps = history second steps) (within : index < steps) :
    (all first)[index]? = (all second)[index]? := by
  have keys : (all first).take steps = (all second).take steps := by
    rw [all, all, ← chain_take, ← chain_take]
    apply chain_congr _ _ same
    · intro command member
      exact madeFirst command (List.mem_of_mem_take member)
    · intro command member
      exact madeSecond command (List.mem_of_mem_take member)
  rw [← List.getElem?_take_of_lt within, keys, List.getElem?_take_of_lt within]

theorem history_take {first second : Recipe} {steps fewer : Nat}
    (same : history first steps = history second steps) (le : fewer ≤ steps) :
    history first fewer = history second fewer := by
  have shorter (recipe : Recipe) : history recipe fewer = (history recipe steps).take fewer := by
    rw [history, history, List.map_take, List.map_take, List.take_take, Nat.min_eq_left le]
  rw [shorter, shorter, same]

/-- The keys of recipes that were read identify the histories of their steps. All have the form of
a key; steps with the same history have the same key; and steps with the same key have the same
history, unless two different messages that led to them have the same digest. So recipes that differ
first in one step have the same keys before it, and different keys from it on, unless messages
collide. -/
theorem keys_identify_histories {firstText secondText : String} {first second : Recipe}
    (readFirst : Recipe.parse firstText = .ok first)
    (readSecond : Recipe.parse secondText = .ok second) :
    (∀ key ∈ all first, IsKey key) ∧
      (∀ i, i < first.length → i < second.length →
        history first (i + 1) = history second (i + 1) → (all first)[i]? = (all second)[i]?) ∧
      (∀ i j, i < first.length → j < second.length → (all first)[i]? = (all second)[j]? →
        (i = j ∧ history first (i + 1) = history second (j + 1)) ∨
          Collide (digested first (i + 1)) (digested second (j + 1))) ∧
      ∀ m, history first m = history second m →
        history first (m + 1) ≠ history second (m + 1) →
          (∀ i < m, (all first)[i]? = (all second)[i]?) ∧
            ∀ i, m ≤ i → i < first.length → i < second.length →
              (all first)[i]? ≠ (all second)[i]? ∨
                Collide (digested first (i + 1)) (digested second (i + 1)) := by
  have madeFirst := Recipe.fingerprinted_of_parse readFirst
  have madeSecond := Recipe.fingerprinted_of_parse readSecond
  refine ⟨fun key member => isKey_of_mem_chain member, ?_, ?_, ?_⟩
  · intro i _ _ same
    exact getElem?_all_congr madeFirst madeSecond same (Nat.lt_succ_self i)
  · intro i j validFirst validSecond same
    exact history_eq_or_collide validFirst validSecond same
  · intro m same different
    constructor
    · intro i before
      exact getElem?_all_congr madeFirst madeSecond same before
    · intro i later validFirst validSecond
      by_cases equal : (all first)[i]? = (all second)[i]?
      · right
        rcases history_eq_or_collide validFirst validSecond equal with ⟨-, histories⟩ | collide
        · exact absurd (history_take histories (Nat.succ_le_succ later)) different
        · exact collide
      · exact .inl equal

/-- Neither the token of a command nor its line matters to its key. -/
theorem keys_identify_histories_alias :
    Recipe.parse "FROM a\nRUN b" = .ok ⟨[.of .origin "a" 1, .of .run "b" 2]⟩ ∧
      Recipe.parse "\nFROM a\nEXEC b" = .ok ⟨[.of .origin "a" 2, .of .run "b" 3]⟩ ∧
      (all ⟨[.of .origin "a" 1, .of .run "b" 2]⟩)[1]? =
        (all ⟨[.of .origin "a" 2, .of .run "b" 3]⟩)[1]? := by
  have spellsFirst : Recipe.Spells [.command 0 "FROM".toList 1 [.plain 'a'] none,
      .command 0 "RUN".toList 1 [.plain 'b'] none] "FROM a\nRUN b".toList := by decide
  have spellsSecond : Recipe.Spells [.blank 0, .command 0 "FROM".toList 1 [.plain 'a'] none,
      .command 0 "EXEC".toList 1 [.plain 'b'] none] "\nFROM a\nEXEC b".toList := by decide
  have readFirst := Recipe.parse_of_spells spellsFirst (by decide)
  have readSecond := Recipe.parse_of_spells spellsSecond (by decide)
  refine ⟨readFirst, readSecond, ?_⟩
  exact (keys_identify_histories readFirst readSecond).2.1 1 (by decide) (by decide) (by decide)

end GuestImage.StepKey
