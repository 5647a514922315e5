import GuestImage.Proofs.Json.Lexing

/-!
# Reading a written value back

The tokens of a text make up one value at most. For a text that was written it is the value that was
written, so that a report says what its fields hold.
-/

namespace GuestImage.Json

/-- The integer that a numeral spells, if it has neither fraction nor exponent. -/
def Numeral.plain? (numeral : Numeral) : Option Int :=
  let size : Int := Nat.ofDigitChars 10 numeral.whole 0
  if numeral.fraction.isEmpty && numeral.exponent?.isNone then
    some (if numeral.negative then -size else size)
  else none

/-- The value that a scalar spells. -/
def Value.ofSpelling? : Spelling → Option Value
  | .null => some .null
  | .boolean _ => none
  | .number numeral => numeral.plain?.map .number
  | .string parts => (characters? parts).map fun letters => .string (String.ofList letters)

/-- An array or an object in which a value is still to come, with what stands before the value. -/
inductive Unfinished where
  | array (before : List Value)
  | object (before : List (String × Value)) (name : String)

/-- What was read last, or is to come next. -/
inductive Stage where
  /-- A value is to come, or the end of an array without items. -/
  | value
  | complete (value : Value)
  /-- The name of a field is to come, or the end of an object without fields. -/
  | name (before : List (String × Value))
  | colon (before : List (String × Value)) (name : String)

/-- How far a value is read: the arrays and objects that are still open, the inmost first. -/
structure Assembly where
  opened : List Unfinished
  stage : Stage

namespace Assembly

/-- Read one more token. -/
def step : Assembly → Token → Option Assembly
  | ⟨opened, .value⟩, .scalar spelling =>
      (Value.ofSpelling? spelling).map fun value => ⟨opened, .complete value⟩
  | ⟨opened, .value⟩, .openArray => some ⟨.array [] :: opened, .value⟩
  | ⟨opened, .value⟩, .openObject => some ⟨opened, .name []⟩
  | ⟨.array [] :: opened, .value⟩, .closeArray => some ⟨opened, .complete (.array [])⟩
  | ⟨opened, .name []⟩, .closeObject => some ⟨opened, .complete (.object [])⟩
  | ⟨opened, .name before⟩, .scalar (.string parts) =>
      (characters? parts).map fun name => ⟨opened, .colon before (String.ofList name)⟩
  | ⟨opened, .colon before name⟩, .colon => some ⟨.object before name :: opened, .value⟩
  | ⟨.array before :: opened, .complete value⟩, .comma =>
      some ⟨.array (before ++ [value]) :: opened, .value⟩
  | ⟨.array before :: opened, .complete value⟩, .closeArray =>
      some ⟨opened, .complete (.array (before ++ [value]))⟩
  | ⟨.object before name :: opened, .complete value⟩, .comma =>
      some ⟨opened, .name (before ++ [(name, value)])⟩
  | ⟨.object before name :: opened, .complete value⟩, .closeObject =>
      some ⟨opened, .complete (.object (before ++ [(name, value)]))⟩
  | _, _ => none

/-- The value, if it is complete and nothing is open. -/
def value? : Assembly → Option Value
  | ⟨[], .complete value⟩ => some value
  | _ => none

end Assembly

/-- The value that a text stands for. -/
def Value.ofText? (text : String) : Option Value := do
  let placed ← Json.tokens text.toList.length text.toList
  let assembly ← (placed.map (·.1)).foldlM Assembly.step ⟨[], .value⟩
  assembly.value?

/-! ## Scalars -/

theorem Numeral.plain?_ofInt (value : Int) : (Numeral.ofInt value).plain? = some value := by
  simp only [plain?, ofInt, Nat.ofDigitChars_ten_toDigits, List.isEmpty_nil, Option.isNone_none,
    Bool.and_self, ↓reduceIte, decide_eq_true_eq, Option.some.injEq]
  omega

theorem characters?_ofString (value : String) :
    characters? (value.toList.map partOf) = some value.toList :=
  characters?_map_partOf value.toList

/-! ## Values -/

/-- The tokens of a value are put together to that value, within whatever is open. -/
def Assembles (value : Value) : Prop :=
  ∀ opened, value.tokens.foldlM Assembly.step ⟨opened, .value⟩ = some ⟨opened, .complete value⟩

section Assembles

variable {value : Value} {opened : List Unfinished}

theorem Assembles.foldlM_append (assembles : Assembles value) (rest : List Token) :
    (value.tokens ++ rest).foldlM Assembly.step ⟨opened, .value⟩ =
      rest.foldlM Assembly.step ⟨opened, .complete value⟩ := by
  rw [List.foldlM_append, assembles]
  rfl

theorem foldlM_name (name : String) (before : List (String × Value)) (rest : List Token) :
    (Token.scalar (.ofString name) :: .colon :: rest).foldlM Assembly.step ⟨opened, .name before⟩ =
      rest.foldlM Assembly.step ⟨.object before name :: opened, .value⟩ := by
  simp [Assembly.step, Spelling.ofString, characters?_ofString]

theorem foldlM_items {item : Value} {items : List Value}
    (each : ∀ value ∈ item :: items, Assembles value) (before : List Value) :
    (List.intercalate [Token.comma] (itemTokens (item :: items)) ++ [Token.closeArray]).foldlM
        Assembly.step ⟨.array before :: opened, .value⟩ =
      some ⟨opened, .complete (.array (before ++ item :: items))⟩ := by
  rcases List.forall_mem_cons.mp each with ⟨first, others⟩
  induction items generalizing item before with
  | nil =>
      rw [itemTokens, itemTokens, List.intercalate_singleton, first.foldlM_append]
      rfl
  | cons next items ih =>
      rcases List.forall_mem_cons.mp others with ⟨second, later⟩
      have goesOn := ih others (before ++ [item]) second later
      rw [List.append_assoc, List.singleton_append] at goesOn
      rw [itemTokens, itemTokens, List.intercalate_cons_cons, List.append_assoc, List.append_assoc,
        first.foldlM_append, ← goesOn]
      rfl

theorem foldlM_fields {name : String} {value : Value} {fields : List (String × Value)}
    (each : ∀ field ∈ (name, value) :: fields, Assembles field.2)
    (before : List (String × Value)) :
    (List.intercalate [Token.comma] (fieldTokens ((name, value) :: fields)) ++
        [Token.closeObject]).foldlM Assembly.step ⟨opened, .name before⟩ =
      some ⟨opened, .complete (.object (before ++ (name, value) :: fields))⟩ := by
  rcases List.forall_mem_cons.mp each with ⟨first, others⟩
  induction fields generalizing name value before with
  | nil =>
      rw [fieldTokens, fieldTokens, List.intercalate_singleton, List.cons_append, List.cons_append,
        foldlM_name, first.foldlM_append]
      rfl
  | cons next fields ih =>
      rcases next with ⟨nextName, nextValue⟩
      rcases List.forall_mem_cons.mp others with ⟨second, later⟩
      have goesOn := ih others (before ++ [(name, value)]) second later
      rw [List.append_assoc, List.singleton_append] at goesOn
      rw [fieldTokens, fieldTokens, List.intercalate_cons_cons, List.append_assoc,
        List.append_assoc, List.cons_append, List.cons_append, foldlM_name, first.foldlM_append,
        ← goesOn]
      rfl

end Assembles

mutual

theorem Value.assembles (value : Value) : Assembles value := by
  intro opened
  cases value with
  | null => rfl
  | number value => simp [Value.tokens, Assembly.step, Value.ofSpelling?, Numeral.plain?_ofInt]
  | string value =>
      simp [Value.tokens, Assembly.step, Value.ofSpelling?, Spelling.ofString,
        characters?_ofString]
  | array items =>
      cases items with
      | nil => rfl
      | cons item items => exact foldlM_items (assembles_items (item :: items)) []
  | object fields =>
      cases fields with
      | nil => rfl
      | cons field fields => exact foldlM_fields (assembles_fields (field :: fields)) []

theorem assembles_items (items : List Value) : ∀ item ∈ items, Assembles item := by
  cases items with
  | nil => exact List.forall_mem_nil _
  | cons item items => exact List.forall_mem_cons.mpr ⟨item.assembles, assembles_items items⟩

theorem assembles_fields (fields : List (String × Value)) :
    ∀ field ∈ fields, Assembles field.2 := by
  cases fields with
  | nil => exact List.forall_mem_nil _
  | cons field fields =>
      rcases field with ⟨name, value⟩
      exact List.forall_mem_cons.mpr ⟨value.assembles, assembles_fields fields⟩

end

/-- A value is read back from the text that was written for it. -/
theorem Value.ofText?_text (value : Value) : ofText? value.text = some value := by
  rcases value.tokens_text with ⟨placed, cut, same⟩
  simp only [ofText?, cut, same, value.assembles [], Option.bind_eq_bind, Option.bind_some,
    Assembly.value?]

end GuestImage.Json
