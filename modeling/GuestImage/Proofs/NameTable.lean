import GuestImage.Settings.LogLevel
import Mathlib.Data.List.Nodup

/-!
# Checked tables

The check of a table finds the fault at the smallest position that has one, and nothing exactly in
a well-formed table. In such a table the lookups by name and by ordinal invert names and ordinals;
a lookup by name finds the first variant of that name in any table.
-/

namespace GuestImage.NameTable

universe u

variable {α : Type u} {table : NameTable α}

/-- What is wrong with the variant at a position. A wrong ordinal hides an empty name, and both
hide that an earlier variant has the name. -/
inductive FaultAt (table : NameTable α) (position : Nat) (value : α) : Fault → Prop where
  | misplaced (ordinal : table.ordinal value ≠ position) :
      FaultAt table position value
        (.misplaced (table.name value) (table.ordinal value) position)
  | unnamed (ordinal : table.ordinal value = position) (name : table.name value = "") :
      FaultAt table position value (.unnamed position)
  | duplicate (ordinal : table.ordinal value = position) (name : table.name value ≠ "")
      (taken : table.name value ∈ table.names.take position) :
      FaultAt table position value (.duplicate (table.name value))

/-- The fault at the smallest position that has one. -/
def FirstFault (table : NameTable α) (fault : Fault) : Prop :=
  ∃ position value, table.variants[position]? = some value ∧ FaultAt table position value fault ∧
    ∀ before < position, ∀ other, table.variants[before]? = some other →
      ∀ hidden, ¬FaultAt table before other hidden

/-- The reason that is given for what is wrong with the variant at a position. -/
inductive ReasonAt (table : NameTable α) (position : Nat) (value : α) : String → Prop where
  | misplaced {ordinal : Nat} (ordinal_eq : table.ordinal value = ordinal)
      (other : ordinal ≠ position) :
      ReasonAt table position value
        s!"variant '{table.name value}' has ordinal {ordinal} but sits at position {position}"
  | unnamed (ordinal : table.ordinal value = position) (name : table.name value = "") :
      ReasonAt table position value s!"variant at position {position} has an empty name"
  | duplicate (ordinal : table.ordinal value = position) (name : table.name value ≠ "")
      (taken : table.name value ∈ table.names.take position) :
      ReasonAt table position value s!"duplicate variant name '{table.name value}'"

/-- The reason that is given for the smallest position that has a fault. -/
def FirstReason (table : NameTable α) (reason : String) : Prop :=
  ∃ position value, table.variants[position]? = some value ∧
    ReasonAt table position value reason ∧
    ∀ before < position, ∀ other, table.variants[before]? = some other →
      ∀ hidden, ¬ReasonAt table before other hidden

/-- The first variant of a table that has a name. -/
def FirstNamed (table : NameTable α) (name : String) (value : α) : Prop :=
  ∃ position : Nat, table.variants[position]? = some value ∧ table.name value = name ∧
    ∀ before < position, ∀ other, table.variants[before]? = some other → table.name other ≠ name

/-- Lookups that invert the names and the ordinals of the variants of a table. -/
structure Inverts (table : NameTable α) : Prop where
  ofName?_iff : ∀ name, ∀ value ∈ table.variants,
    table.ofName? name = some value ↔ table.name value = name
  ofOrdinal?_iff : ∀ ordinal, ∀ value ∈ table.variants,
    table.ofOrdinal? ordinal = some value ↔ table.ordinal value = ordinal
  parse_ok_iff : ∀ name, ∀ value ∈ table.variants,
    table.parse name = .ok value ↔ table.name value = name

/-! ## The check -/

theorem faultAt?_eq_some_iff {position : Nat} {value : α} {fault : Fault}
    (found : table.variants[position]? = some value) :
    table.faultAt? (table.variants.take position) value = some fault ↔
      FaultAt table position value fault := by
  have inside := (List.getElem?_eq_some_iff.mp found).1
  have length : (table.variants.take position).length = position :=
    List.length_take_of_le (Nat.le_of_lt inside)
  rw [faultAt?, length, List.map_take, ← names]
  constructor
  · intro faulty
    split at faulty
    case isTrue ordinal =>
      cases faulty
      exact .misplaced ordinal
    case isFalse ordinal =>
      rw [ne_eq, Decidable.not_not] at ordinal
      split at faulty
      case isTrue name =>
        cases faulty
        exact .unnamed ordinal name
      case isFalse name =>
        split at faulty
        case isTrue taken =>
          cases faulty
          exact .duplicate ordinal name (List.contains_iff_mem.mp taken)
        case isFalse =>
          cases faulty
  · intro faulty
    cases faulty with
    | misplaced ordinal => rw [if_pos ordinal]
    | unnamed ordinal name => rw [if_neg (not_not_intro ordinal), if_pos name]
    | duplicate ordinal name taken =>
        rw [if_neg (not_not_intro ordinal), if_neg name, if_pos (List.contains_iff_mem.mpr taken)]

/-- A variant is checked against the ones before it, those of `earlier` included. -/
theorem faultAfter?_eq_some_iff {earlier rest : List α} {fault : Fault} :
    table.faultAfter? earlier rest = some fault ↔
      ∃ position value, rest[position]? = some value ∧
        table.faultAt? (earlier ++ rest.take position) value = some fault ∧
        ∀ before < position, ∀ other, rest[before]? = some other →
          table.faultAt? (earlier ++ rest.take before) other = none := by
  -- A step moves one variant to `earlier`, so what follows is found one position further on.
  induction rest generalizing earlier with
  | nil => simp [faultAfter?]
  | cons first rest ih =>
      rw [faultAfter?]
      cases own : table.faultAt? earlier first with
      | some shown =>
          constructor
          · rintro ⟨⟩
            refine ⟨0, first, rfl, by simpa using own, ?_⟩
            intro before lt
            cases lt
          · rintro ⟨position, value, found, faulty, sound⟩
            cases position with
            | zero =>
                obtain rfl : first = value := by simpa using found
                simpa [own] using faulty
            | succ position =>
                have none := sound 0 (Nat.succ_pos position) first rfl
                simp [own] at none
      | none =>
          dsimp only
          rw [ih]
          constructor
          · rintro ⟨position, value, found, faulty, sound⟩
            refine ⟨position + 1, value, found, by simpa using faulty, ?_⟩
            intro before lt other there
            cases before with
            | zero =>
                obtain rfl : first = other := by simpa using there
                simpa using own
            | succ before =>
                simpa using sound before (Nat.lt_of_succ_lt_succ lt) other there
          · rintro ⟨position, value, found, faulty, sound⟩
            cases position with
            | zero =>
                obtain rfl : first = value := by simpa using found
                simp [own] at faulty
            | succ position =>
                refine ⟨position, value, found, by simpa using faulty, ?_⟩
                intro before lt other there
                simpa using sound (before + 1) (Nat.succ_lt_succ lt) other there

theorem faultAfter?_eq_none_iff {earlier rest : List α} :
    table.faultAfter? earlier rest = none ↔
      ∀ position value, rest[position]? = some value →
        table.faultAt? (earlier ++ rest.take position) value = none := by
  induction rest generalizing earlier with
  | nil => simp [faultAfter?]
  | cons first rest ih =>
      rw [faultAfter?]
      cases own : table.faultAt? earlier first with
      | some shown =>
          refine iff_of_false (Option.some_ne_none shown) fun sound => ?_
          have none := sound 0 first rfl
          simp [own] at none
      | none =>
          dsimp only
          rw [ih]
          constructor
          · intro sound position value found
            cases position with
            | zero =>
                obtain rfl : first = value := by simpa using found
                simpa using own
            | succ position => simpa using sound position value found
          · intro sound position value found
            simpa using sound (position + 1) value found

theorem faultAt?_eq_none_iff {position : Nat} {value : α}
    (found : table.variants[position]? = some value) :
    table.faultAt? (table.variants.take position) value = none ↔
      ∀ fault, ¬FaultAt table position value fault := by
  simp only [Option.eq_none_iff_forall_ne_some, ne_eq, faultAt?_eq_some_iff found]

theorem fault?_eq_some_iff {fault : Fault} :
    table.fault? = some fault ↔ FirstFault table fault := by
  rw [fault?, faultAfter?_eq_some_iff, FirstFault]
  refine exists_congr fun position => exists_congr fun value => and_congr_right fun found => ?_
  rw [List.nil_append, faultAt?_eq_some_iff found]
  refine and_congr_right fun _ => forall_congr' fun before => forall_congr' fun _ =>
    forall_congr' fun other => forall_congr' fun there => ?_
  rw [List.nil_append, faultAt?_eq_none_iff there]

/-! ## Reasons -/

theorem reasonAt_iff {position : Nat} {value : α} {reason : String} :
    ReasonAt table position value reason ↔
      ∃ fault, FaultAt table position value fault ∧ fault.message = reason := by
  constructor
  · intro given
    cases given with
    | misplaced ordinal_eq other =>
        subst ordinal_eq
        exact ⟨.misplaced _ _ _, .misplaced other, rfl⟩
    | unnamed ordinal name => exact ⟨.unnamed _, .unnamed ordinal name, rfl⟩
    | duplicate ordinal name taken => exact ⟨.duplicate _, .duplicate ordinal name taken, rfl⟩
  · rintro ⟨fault, faulty, rfl⟩
    cases faulty with
    | misplaced ordinal => exact .misplaced rfl ordinal
    | unnamed ordinal name => exact .unnamed ordinal name
    | duplicate ordinal name taken => exact .duplicate ordinal name taken

/-- The check names the reason of the fault that it finds. -/
theorem message_fault?_eq_some_iff {reason : String} :
    table.fault?.map Fault.message = some reason ↔ FirstReason table reason := by
  have sound (position : Nat) (value : α) :
      (∀ hidden, ¬ReasonAt table position value hidden) ↔
        ∀ hidden, ¬FaultAt table position value hidden := by
    simp only [reasonAt_iff]
    constructor
    · intro none fault faulty
      exact none _ ⟨fault, faulty, rfl⟩
    · rintro none reason ⟨fault, faulty, -⟩
      exact none fault faulty
  simp only [Option.map_eq_some_iff, fault?_eq_some_iff, FirstFault, FirstReason, sound]
  constructor
  · rintro ⟨fault, ⟨position, value, found, faulty, first⟩, rfl⟩
    exact ⟨position, value, found, reasonAt_iff.mpr ⟨fault, faulty, rfl⟩, first⟩
  · rintro ⟨position, value, found, given, first⟩
    rcases reasonAt_iff.mp given with ⟨fault, faulty, same⟩
    exact ⟨fault, ⟨position, value, found, faulty, first⟩, same⟩

/-! ## Well-formed tables -/

theorem getElem?_names {position : Nat} {value : α}
    (found : table.variants[position]? = some value) :
    table.names[position]? = some (table.name value) := by
  rw [names, List.getElem?_map, found]
  rfl

/-- Variants of one name stand at one position. -/
theorem WF.position_eq (wf : table.WF) {first second : Nat} {left right : α}
    (foundLeft : table.variants[first]? = some left)
    (foundRight : table.variants[second]? = some right)
    (same : table.name left = table.name right) : first = second := by
  have named := getElem?_names foundLeft
  apply (List.getElem?_inj (List.getElem?_eq_some_iff.mp named).1 wf.names_nodup).mp
  rw [named, getElem?_names foundRight, same]

theorem exists_of_mem_take_names {position : Nat} {name : String}
    (taken : name ∈ table.names.take position) :
    ∃ before < position, ∃ other, table.variants[before]? = some other ∧
      table.name other = name := by
  rw [names, ← List.map_take] at taken
  rcases List.mem_map.mp taken with ⟨other, member, named⟩
  rcases List.mem_take_iff_getElem.mp member with ⟨before, lt, rfl⟩
  rcases Nat.lt_min.mp lt with ⟨lt, inside⟩
  exact ⟨before, lt, _, List.getElem?_eq_getElem inside, named⟩

theorem WF.not_faultAt (wf : table.WF) {position : Nat} {value : α}
    (found : table.variants[position]? = some value) {fault : Fault} :
    ¬FaultAt table position value fault := by
  intro faulty
  cases faulty with
  | misplaced ordinal => exact ordinal (wf.ordinal_eq position value found)
  | unnamed _ name => exact wf.name_ne_empty value (List.mem_of_getElem? found) name
  | duplicate _ _ taken =>
      rcases exists_of_mem_take_names taken with ⟨before, lt, other, there, same⟩
      exact Nat.ne_of_lt lt (wf.position_eq there found same)

theorem wf_of_not_faultAt
    (sound : ∀ position value, table.variants[position]? = some value →
      ∀ fault, ¬FaultAt table position value fault) : table.WF := by
  have ordinal_eq (position : Nat) (value : α)
      (found : table.variants[position]? = some value) : table.ordinal value = position :=
    Decidable.not_not.mp fun ordinal => sound position value found _ (.misplaced ordinal)
  have name_ne_empty (position : Nat) (value : α)
      (found : table.variants[position]? = some value) : table.name value ≠ "" :=
    fun name => sound position value found _ (.unnamed (ordinal_eq position value found) name)
  constructor
  case ordinal_eq => exact ordinal_eq
  case name_ne_empty =>
    intro value member
    rcases List.getElem?_of_mem member with ⟨position, found⟩
    exact name_ne_empty position value found
  case names_nodup =>
    rw [List.nodup_iff_getElem?_ne_getElem?]
    intro before position lt inside same
    rw [names, List.length_map] at inside
    have found := List.getElem?_eq_getElem inside
    apply sound position _ found
    apply FaultAt.duplicate (ordinal_eq position _ found) (name_ne_empty position _ found)
    rw [getElem?_names found] at same
    rw [← List.getElem?_take_of_lt lt] at same
    exact List.mem_of_getElem? same

theorem fault?_eq_none_iff : table.fault? = none ↔ table.WF := by
  rw [fault?, faultAfter?_eq_none_iff]
  constructor
  · intro sound
    apply wf_of_not_faultAt
    intro position value found
    exact (faultAt?_eq_none_iff found).mp (sound position value found)
  · intro wf position value found
    exact (faultAt?_eq_none_iff found).mpr fun _ => wf.not_faultAt found

/-! ## Lookups -/

theorem ofName?_eq_some_iff {name : String} {value : α} :
    table.ofName? name = some value ↔ FirstNamed table name value := by
  simp only [ofName?, FirstNamed, List.find?_eq_some_iff_getElem, beq_iff_eq, Bool.not_eq_true',
    beq_eq_false_iff_ne]
  constructor
  · rintro ⟨named, position, inside, rfl, others⟩
    refine ⟨position, List.getElem?_eq_getElem inside, named, ?_⟩
    intro before lt other there
    rcases List.getElem?_eq_some_iff.mp there with ⟨_, rfl⟩
    exact others before lt
  · rintro ⟨position, found, named, others⟩
    rcases List.getElem?_eq_some_iff.mp found with ⟨inside, rfl⟩
    refine ⟨named, position, inside, rfl, ?_⟩
    intro before lt
    exact others before lt _ (List.getElem?_eq_getElem _)

theorem ofName?_eq_none_iff {name : String} :
    table.ofName? name = none ↔ ∀ value ∈ table.variants, table.name value ≠ name := by
  simp [ofName?]

theorem parse_ok_iff_found {name : String} {value : α} :
    table.parse name = .ok value ↔ table.ofName? name = some value := by
  rw [parse]
  cases table.ofName? name <;> simp

theorem parse_error_iff_absent {name : String} {unknown : UnknownName} :
    table.parse name = .error unknown ↔
      (∀ value ∈ table.variants, table.name value ≠ name) ∧
        unknown = ⟨table.typeName, name, table.names⟩ := by
  rw [parse, ← ofName?_eq_none_iff]
  cases table.ofName? name with
  | none => simp [NameTable.unknown, eq_comm]
  | some value => simp

theorem WF.ofName?_name (wf : table.WF) {value : α} (member : value ∈ table.variants) :
    table.ofName? (table.name value) = some value := by
  rcases List.getElem?_of_mem member with ⟨position, found⟩
  refine ofName?_eq_some_iff.mpr ⟨position, found, rfl, ?_⟩
  intro before lt other there same
  exact absurd (wf.position_eq there found same) (Nat.ne_of_lt lt)

theorem WF.ofOrdinal?_ordinal (wf : table.WF) {value : α} (member : value ∈ table.variants) :
    table.ofOrdinal? (table.ordinal value) = some value := by
  rcases List.getElem?_of_mem member with ⟨position, found⟩
  rw [wf.ordinal_eq position value found]
  exact found

theorem WF.inverts (wf : table.WF) : Inverts table := by
  have ofName?_iff (name : String) (value : α) (member : value ∈ table.variants) :
      table.ofName? name = some value ↔ table.name value = name := by
    constructor
    · intro found
      rcases ofName?_eq_some_iff.mp found with ⟨_, _, named, _⟩
      exact named
    · rintro rfl
      exact wf.ofName?_name member
  constructor
  case ofName?_iff => exact ofName?_iff
  case ofOrdinal?_iff =>
    intro ordinal value member
    constructor
    · intro found
      exact wf.ordinal_eq ordinal value found
    · rintro rfl
      exact wf.ofOrdinal?_ordinal member
  case parse_ok_iff =>
    intro name value member
    rw [parse_ok_iff_found, ofName?_iff name value member]

/-- The check is sound and complete: it finds nothing exactly in a well-formed table, and else the
first fault, with the reason that is given for it. In a table without fault the lookups invert names
and ordinals. In every table a name is refused exactly if no variant has it, with all names of the
table, and a name that is found leads to the first variant that has it. -/
theorem firstFault_exact (table : NameTable α) :
    (table.fault? = none ↔ table.WF) ∧
      (∀ fault, table.fault? = some fault ↔ FirstFault table fault) ∧
      (∀ reason, table.fault?.map Fault.message = some reason ↔ FirstReason table reason) ∧
      (table.fault? = none → Inverts table) ∧
      (∀ name unknown, table.parse name = .error unknown ↔
        (∀ value ∈ table.variants, table.name value ≠ name) ∧
          unknown = ⟨table.typeName, name, table.names⟩) ∧
      (∀ name value, table.ofName? name = some value ↔ FirstNamed table name value) ∧
      ∀ name, table.ofName? name = none ↔ ∀ value ∈ table.variants, table.name value ≠ name := by
  refine ⟨fault?_eq_none_iff, fun _ => fault?_eq_some_iff, fun _ => message_fault?_eq_some_iff, ?_,
    fun _ _ => parse_error_iff_absent, fun _ _ => ofName?_eq_some_iff, fun _ => ofName?_eq_none_iff⟩
  intro clean
  exact (fault?_eq_none_iff.mp clean).inverts

/-- The table of log levels has no fault, so that its lookups may be relied on. -/
theorem firstFault_exact_logLevels :
    LogLevel.table.fault? = none ∧ LogLevel.table.WF ∧ Inverts LogLevel.table := by
  have clean : LogLevel.table.fault? = none := by decide
  rcases firstFault_exact LogLevel.table with ⟨wf, -, -, inverts, -⟩
  exact ⟨clean, wf.mp clean, inverts clean⟩

end GuestImage.NameTable
