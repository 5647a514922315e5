import GuestImage.Proofs.NameTable
import GuestImage.Proofs.Yaml.Numeral
import GuestImage.Settings.Decode

/-!
# Entries of a settings file

What one entry of a mapping says, with its aliases followed and its places forgotten: the text of
its key, and what its value can be read as. Reading an entry depends on this alone. The main
statement is `readEntry_eq_ok_iff`, which says what an entry adds to the fields read before it.
-/

namespace GuestImage.Settings

open Yaml (Node Datum Mark)

/-! ## Values of fields -/

/-- A value for one field. -/
inductive Setting where
  | definitionFile (name : String)
  | cacheDir (path : SystemPath)
  | diskSizeMb (size : Nat)
  | logLevel (level : LogLevel)
  deriving DecidableEq, Repr

/-- The field that a value is for. -/
def Setting.field : Setting → Field
  | definitionFile _ => .definitionFile
  | cacheDir _ => .cacheDir
  | diskSizeMb _ => .diskSizeMb
  | logLevel _ => .logLevel

/-- The value of a field. -/
def get (settings : Settings) : Field → Setting
  | .definitionFile => .definitionFile settings.definitionFile
  | .cacheDir => .cacheDir settings.cacheDir
  | .diskSizeMb => .diskSizeMb settings.diskSizeMb
  | .logLevel => .logLevel settings.logLevel

@[simp] theorem field_get (settings : Settings) (field : Field) :
    (settings.get field).field = field := by
  cases field <;> rfl

theorem Field.ofKey?_key (field : Field) : ofKey? field.key = some field := by
  cases field <;> rfl

theorem Field.key_injective {first second : Field} (same : first.key = second.key) :
    first = second := by
  have found := congrArg ofKey? same
  rw [ofKey?_key, ofKey?_key] at found
  exact Option.some.inj found

theorem Field.key_eq_of_ofKey? {key : String} {field : Field} (found : ofKey? key = some field) :
    field.key = key := by
  simpa using List.find?_some found

namespace Overrides

/-- The value that a field is given, if any. -/
def get? (overrides : Overrides) : Field → Option Setting
  | .definitionFile => overrides.definitionFile?.map .definitionFile
  | .cacheDir => overrides.cacheDir?.map .cacheDir
  | .diskSizeMb => overrides.diskSizeMb?.map .diskSizeMb
  | .logLevel => overrides.logLevel?.map .logLevel

/-- Give a field a value. -/
def put (overrides : Overrides) : Setting → Overrides
  | .definitionFile name => { overrides with definitionFile? := some name }
  | .cacheDir path => { overrides with cacheDir? := some path }
  | .diskSizeMb size => { overrides with diskSizeMb? := some size }
  | .logLevel level => { overrides with logLevel? := some level }

@[simp] theorem get?_empty (field : Field) : empty.get? field = none := by
  cases field <;> rfl

@[simp] theorem get?_put_self (overrides : Overrides) (setting : Setting) :
    (overrides.put setting).get? setting.field = some setting := by
  cases setting <;> rfl

theorem get?_put_of_ne (overrides : Overrides) {setting : Setting} {field : Field}
    (other : field ≠ setting.field) :
    (overrides.put setting).get? field = overrides.get? field := by
  cases setting <;> cases field <;> first | rfl | exact absurd rfl other

theorem gives_eq_isSome (overrides : Overrides) (field : Field) :
    overrides.gives field = (overrides.get? field).isSome := by
  cases field <;> simp [gives, get?]

theorem get_apply (overrides : Overrides) (settings : Settings) (field : Field) :
    (overrides.apply settings).get field = (overrides.get? field).getD (settings.get field) := by
  rcases overrides with ⟨definitionFile?, cacheDir?, diskSizeMb?, logLevel?⟩
  cases field with
  | definitionFile => cases definitionFile? <;> rfl
  | cacheDir => cases cacheDir? <;> rfl
  | diskSizeMb => cases diskSizeMb? <;> rfl
  | logLevel => cases logLevel? <;> rfl

end Overrides

/-! ## What an entry says -/

/-- What the value of an entry is. -/
inductive Value where
  /-- A scalar: whether it may stand for a number, as it is neither quoted nor folded, and its
  text. -/
  | scalar (mayBeNumber : Bool) (text : String)
  /-- A sequence, a mapping, or an alias that leads nowhere. -/
  | other
  deriving DecidableEq, Repr

/-- What a node is as a value. -/
def Value.of : Node → Value
  | .scalar properties style text => .scalar (mayBeInteger properties style) text
  | .reference .. | .sequence .. | .mapping .. => .other

/-- The text of a scalar, whatever it stands for. -/
def Value.text? : Value → Option String
  | scalar _ text => some text
  | other => none

/-- A value can be read as this setting. Every scalar can be read as a text, also one that stands
for a number, a boolean or null; a size is written without a minus sign, and 32 bits hold it. -/
inductive Value.Gives (value : Value) : Setting → Prop where
  | definitionFile {name : String} (text : value.text? = some name) :
      Gives value (.definitionFile name)
  | cacheDir {path : String} (text : value.text? = some path) :
      Gives value (.cacheDir (.ofString path))
  | diskSizeMb {text : String} {size : Nat} (scalar : value = .scalar true text)
      (numeral : Yaml.Numeral text.toList size) (fits : size < UInt32.size) :
      Gives value (.diskSizeMb size)
  | logLevel {level : LogLevel} (text : value.text? = some level.name) :
      Gives value (.logLevel level)

/-- A value can be read as a setting of the field. -/
def Value.HasType (value : Value) (field : Field) : Prop :=
  ∃ setting : Setting, setting.field = field ∧ value.Gives setting

/-- What an entry of a mapping says. -/
structure Entry where
  /-- The text of the key, if it is a scalar. -/
  key? : Option String
  value : Value
  deriving DecidableEq, Repr

namespace Entry

/-- What an entry says in a document. -/
def of (root : Node) (entry : Node × Node) : Entry where
  key? := (Node.follow root entry.1).bind fun key => (Value.of key).text?
  value := ((Node.follow root entry.2).map Value.of).getD .other

/-- The key is a scalar, whether it is known or not, and if it is that of a field, the value can be
read as a setting of the field. -/
structure Fits (entry : Entry) : Prop where
  key_ne_none : entry.key? ≠ none
  hasType : ∀ field : Field, entry.key? = some field.key → entry.value.HasType field

/-- What an entry adds to the fields that the entries before it gave: nothing if its key is that of
no field, and else the value of a field that had none. -/
inductive Adds (entry : Entry) (overrides : Overrides) : Overrides → Prop where
  | passed {key : String} (key_eq : entry.key? = some key)
      (unknown : ∀ field : Field, field.key ≠ key) : Adds entry overrides overrides
  | put {setting : Setting} (key_eq : entry.key? = some setting.field.key)
      (absent : overrides.get? setting.field = none) (given : entry.value.Gives setting) :
      Adds entry overrides (overrides.put setting)

end Entry

theorem parse_level_eq_ok_iff {name : String} {level : LogLevel} :
    LogLevel.table.parse name = .ok level ↔ level.name = name := by
  have wf : LogLevel.table.WF := NameTable.fault?_eq_none_iff.mp (by decide)
  have member : level ∈ LogLevel.table.variants := by cases level <;> decide
  exact wf.inverts.parse_ok_iff name level member

/-! ## Reading a value -/

theorem Value.Gives.inj {value : Value} {first second : Setting} (givesFirst : value.Gives first)
    (givesSecond : value.Gives second) (same : first.field = second.field) : first = second := by
  cases givesFirst with
  | definitionFile text =>
      cases givesSecond with
      | definitionFile other => rw [Option.some.inj (text.symm.trans other)]
      | _ => cases same
  | cacheDir text =>
      cases givesSecond with
      | cacheDir other => rw [Option.some.inj (text.symm.trans other)]
      | _ => cases same
  | diskSizeMb scalar numeral =>
      cases givesSecond with
      | diskSizeMb otherScalar other =>
          cases scalar.symm.trans otherScalar
          have read := Datum.natural?_eq_some_iff.mpr numeral
          rw [Datum.natural?_eq_some_iff.mpr other, Option.some.injEq] at read
          rw [read]
      | _ => cases same
  | @logLevel level text =>
      cases givesSecond with
      | @logLevel otherLevel other =>
          have named : level.name = otherLevel.name := Option.some.inj (text.symm.trans other)
          have parsed := parse_level_eq_ok_iff.mpr named
          rw [parse_level_eq_ok_iff.mpr rfl] at parsed
          rw [Except.ok.inj parsed]
      | _ => cases same

theorem bind_eq_ok_iff {ε α β : Type} {read : Except ε α} {next : α → Except ε β} {result : β} :
    read >>= next = .ok result ↔ ∃ value, read = .ok value ∧ next value = .ok result := by
  cases read with
  | error error => simp [bind, Except.bind]
  | ok value => simp [bind, Except.bind]

theorem textFrom_eq_ok_iff {field? : Option String} {expected text : String} {node : Node} :
    textFrom field? expected node = .ok text ↔ (Value.of node).text? = some text := by
  cases node <;> simp [textFrom, Value.of, Value.text?]

theorem gives_diskSizeMb_iff {properties : Yaml.Properties} {style : Yaml.Style} {text : String}
    {size : Nat} :
    (Value.of (.scalar properties style text)).Gives (.diskSizeMb size) ↔
      (if mayBeInteger properties style then Datum.natural? text.toList else none) = some size ∧
        size < UInt32.size := by
  constructor
  · intro given
    cases given with
    | diskSizeMb scalar numeral fits =>
        rw [Value.of, Value.scalar.injEq] at scalar
        rcases scalar with ⟨plain, rfl⟩
        rw [if_pos plain]
        exact ⟨Datum.natural?_eq_some_iff.mpr numeral, fits⟩
  · rintro ⟨number, fits⟩
    split at number
    case isTrue plain =>
      have scalar : Value.of (.scalar properties style text) = .scalar true text := by
        rw [Value.of, plain]
      exact .diskSizeMb scalar (Datum.natural?_eq_some_iff.mp number) fits
    case isFalse => cases number

/-- A size of 32 bits is one of 64 bits, which is asked for first. -/
theorem sizeFrom_eq_ok_iff {field? : Option String} {size : Nat} {node : Node} :
    sizeFrom field? node = .ok size ↔ (Value.of node).Gives (.diskSizeMb size) := by
  cases node with
  | scalar properties style text =>
      rw [gives_diskSizeMb_iff, sizeFrom]
      generalize (if mayBeInteger properties style = true then Datum.natural? text.toList
        else none) = number?
      cases number? with
      | none => simp [wrongType]
      | some number =>
          by_cases small : number < UInt32.size
          · have wide : number < UInt64.size := Nat.lt_trans small (by decide)
            simp only [Option.filter_some, wide, decide_true, ↓reduceIte, small, Except.ok.injEq,
              Option.some.injEq]
            exact ⟨fun same => ⟨same, same ▸ small⟩, And.left⟩
          · refine iff_of_false ?_ ?_
            · by_cases wide : number < UInt64.size <;> simp [Option.filter_some, wide, small]
            · rintro ⟨same, fits⟩
              exact small (Option.some.inj same ▸ fits)
  | reference | sequence | mapping =>
      refine iff_of_false (by simp [sizeFrom, wrongType]) ?_
      rintro ⟨⟩
      contradiction

theorem levelFrom_eq_ok_iff {field? : Option String} {mapping : Mark} {level : LogLevel}
    {node : Node} :
    levelFrom field? mapping node = .ok level ↔ (Value.of node).text? = some level.name := by
  rw [levelFrom, bind_eq_ok_iff]
  simp only [textFrom_eq_ok_iff]
  constructor
  · rintro ⟨name, text, parsed⟩
    split at parsed
    case h_1 found =>
      cases parsed
      rw [text, parse_level_eq_ok_iff.mp found]
    case h_2 => cases parsed
  · intro text
    refine ⟨level.name, text, ?_⟩
    rw [parse_level_eq_ok_iff.mpr rfl]
    rfl

/-- Read the value of a field. -/
def readSetting (field : Field) (name? : Option String) (mapping : Mark) (node : Node) :
    Except Decode.Error Setting :=
  match field with
  | .definitionFile => .definitionFile <$> textFrom name? pathText node
  | .cacheDir => (fun path => .cacheDir (.ofString path)) <$> textFrom name? pathText node
  | .diskSizeMb => .diskSizeMb <$> sizeFrom name? node
  | .logLevel => .logLevel <$> levelFrom name? mapping node

theorem map_eq_ok_iff {ε α β : Type} {read : Except ε α} {image : α → β} {result : β} :
    image <$> read = .ok result ↔ ∃ value, read = .ok value ∧ image value = result := by
  cases read <;> simp [Functor.map, Except.map]

theorem readSetting_eq_ok_iff {field : Field} {name? : Option String} {mapping : Mark}
    {node : Node} {setting : Setting} :
    readSetting field name? mapping node = .ok setting ↔
      setting.field = field ∧ (Value.of node).Gives setting := by
  constructor
  · intro read
    cases field with
    | definitionFile =>
        rcases map_eq_ok_iff.mp read with ⟨name, text, rfl⟩
        exact ⟨rfl, .definitionFile (textFrom_eq_ok_iff.mp text)⟩
    | cacheDir =>
        rcases map_eq_ok_iff.mp read with ⟨path, text, rfl⟩
        exact ⟨rfl, .cacheDir (textFrom_eq_ok_iff.mp text)⟩
    | diskSizeMb =>
        rcases map_eq_ok_iff.mp read with ⟨size, number, rfl⟩
        exact ⟨rfl, sizeFrom_eq_ok_iff.mp number⟩
    | logLevel =>
        rcases map_eq_ok_iff.mp read with ⟨level, named, rfl⟩
        exact ⟨rfl, .logLevel (levelFrom_eq_ok_iff.mp named)⟩
  · rintro ⟨rfl, given⟩
    cases given with
    | definitionFile text => exact map_eq_ok_iff.mpr ⟨_, textFrom_eq_ok_iff.mpr text, rfl⟩
    | cacheDir text => exact map_eq_ok_iff.mpr ⟨_, textFrom_eq_ok_iff.mpr text, rfl⟩
    | diskSizeMb scalar numeral fits =>
        exact map_eq_ok_iff.mpr
          ⟨_, sizeFrom_eq_ok_iff.mpr (.diskSizeMb scalar numeral fits), rfl⟩
    | logLevel text => exact map_eq_ok_iff.mpr ⟨_, levelFrom_eq_ok_iff.mpr text, rfl⟩

theorem follow_eq_ok_iff {root node target : Node} :
    follow root node = .ok target ↔ Node.follow root node = some target := by
  rw [follow]
  cases Node.follow root node <;> simp

/-! ## Reading an entry -/

theorem set_eq_readSetting {overrides : Overrides} {field : Field}
    (absent : overrides.get? field = none) (name? : Option String) (mapping : Mark) (node : Node) :
    overrides.set field name? mapping node =
      overrides.put <$> readSetting field name? mapping node := by
  have free : overrides.gives field = false := by
    rw [Overrides.gives_eq_isSome, absent]
    rfl
  unfold Overrides.set
  rw [free]
  cases field with
  | definitionFile | cacheDir =>
      rw [readSetting]
      cases textFrom name? pathText node <;> rfl
  | diskSizeMb =>
      rw [readSetting]
      cases sizeFrom name? node <;> rfl
  | logLevel =>
      rw [readSetting]
      cases levelFrom name? mapping node <;> rfl

theorem set_eq_ok_iff {overrides next : Overrides} {field : Field} {name? : Option String}
    {mapping : Mark} {node : Node} :
    overrides.set field name? mapping node = .ok next ↔
      overrides.get? field = none ∧
        ∃ setting : Setting, setting.field = field ∧ (Value.of node).Gives setting ∧
          overrides.put setting = next := by
  cases given : overrides.get? field with
  | some setting =>
      have full : overrides.gives field = true := by
        rw [Overrides.gives_eq_isSome, given]
        rfl
      refine iff_of_false ?_ (by simp)
      unfold Overrides.set
      rw [full]
      intro set
      cases set
  | none =>
      rw [set_eq_readSetting given, map_eq_ok_iff]
      simp only [readSetting_eq_ok_iff, and_assoc, true_and]

theorem Entry.key?_of_eq_some_iff {root : Node} {entry : Node × Node} {text : String} :
    (Entry.of root entry).key? = some text ↔
      ∃ key, Node.follow root entry.1 = some key ∧ (Value.of key).text? = some text :=
  Option.bind_eq_some_iff

/-- An alias that leads nowhere gives nothing. -/
theorem Entry.value_of_gives_iff {root : Node} {entry : Node × Node} {setting : Setting} :
    (Entry.of root entry).value.Gives setting ↔
      ∃ target, Node.follow root entry.2 = some target ∧ (Value.of target).Gives setting := by
  rw [Entry.of]
  cases followed : Node.follow root entry.2 with
  | none =>
      refine iff_of_false ?_ (by simp)
      intro given
      cases given <;> contradiction
  | some target => simp

/-- Reading an entry succeeds with exactly what the entry adds. -/
theorem readEntry_eq_ok_iff {root : Node} {overrides next : Overrides} {entry : Node × Node} :
    readEntry root overrides entry = .ok next ↔ (Entry.of root entry).Adds overrides next := by
  rw [readEntry]
  simp only [bind_eq_ok_iff, textFrom_eq_ok_iff, follow_eq_ok_iff]
  constructor
  · rintro ⟨key, followed, text, key_text, read⟩
    have key_eq := Entry.key?_of_eq_some_iff.mpr ⟨key, followed, key_text⟩
    cases known : Field.ofKey? text with
    | none =>
        rw [known] at read
        obtain rfl : overrides = next := Except.ok.inj read
        refine .passed key_eq ?_
        rintro field rfl
        rw [Field.ofKey?_key] at known
        cases known
    | some field =>
        rw [known] at read
        rcases bind_eq_ok_iff.mp read with ⟨value, target, set⟩
        rcases set_eq_ok_iff.mp set with ⟨absent, setting, rfl, given, rfl⟩
        rw [← Field.key_eq_of_ofKey? known] at key_eq
        exact .put key_eq absent
          (Entry.value_of_gives_iff.mpr ⟨value, follow_eq_ok_iff.mp target, given⟩)
  · intro added
    cases added with
    | passed key_eq unknown =>
        rcases Entry.key?_of_eq_some_iff.mp key_eq with ⟨key, followed, key_text⟩
        refine ⟨key, followed, _, key_text, ?_⟩
        cases known : Field.ofKey? _ with
        | none => rfl
        | some field => exact absurd (Field.key_eq_of_ofKey? known) (unknown field)
    | @put setting key_eq absent given =>
        rcases Entry.key?_of_eq_some_iff.mp key_eq with ⟨key, followed, key_text⟩
        rcases Entry.value_of_gives_iff.mp given with ⟨value, target, given⟩
        refine ⟨key, followed, _, key_text, ?_⟩
        rw [Field.ofKey?_key]
        exact bind_eq_ok_iff.mpr ⟨value, follow_eq_ok_iff.mpr target,
          set_eq_ok_iff.mpr ⟨absent, setting, rfl, given, rfl⟩⟩

end GuestImage.Settings
