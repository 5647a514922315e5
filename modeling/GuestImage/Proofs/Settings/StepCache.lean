import GuestImage.Proofs.Path
import GuestImage.Proofs.StepKey.History
import GuestImage.Settings.Basic

/-!
# Directories of cached steps

The state of a step is cached in a directory of its own, which lies directly in the directory of all
steps. Steps share a directory exactly if they have the same key, so that no directory mixes two
histories unless messages collide.
-/

namespace GuestImage

namespace Settings

/-- A name that can stand for an entry of a directory. -/
structure IsEntryName (name : String) : Prop where
  ne_empty : name ≠ ""
  ne_dot : name ≠ "."
  ne_dots : name ≠ ".."
  slash_not_mem : '/' ∉ name.toList
  colon_not_mem : ':' ∉ name.toList

/-- The path of an entry in the directory of all steps, which is in the cache directory. -/
structure IsStepPath (cacheDir path name : String) : Prop where
  isEntryName : IsEntryName name
  path_eq : path = Path.join cacheDir "steps" ++ "/" ++ name
  startsWith : cacheDir.toList <+: path.toList
  isAbsolute_eq : Path.isAbsolute path = Path.isAbsolute cacheDir
  names_eq : Path.names path = Path.names cacheDir ++ ["steps", name]

/-! ## Names of directories -/

section Name

variable {digits : String}

theorem not_mem_digits (hexadecimal : ∀ digit ∈ digits.toList, digit ∈ Text.hexDigits)
    {letter : Char} (other : letter ∉ Text.hexDigits) : letter ∉ digits.toList :=
  fun member => other (hexadecimal letter member)

/-- Only the colon behind the algorithm is replaced. -/
theorem directoryName_eq (hexadecimal : ∀ digit ∈ digits.toList, digit ∈ Text.hexDigits) :
    StepKey.directoryName ("sha256:" ++ digits) = "sha256_" ++ digits := by
  have noColon : ':' ∉ digits.toList := not_mem_digits hexadecimal (by decide)
  have kept : digits.toList.map (fun letter => if letter = ':' then '_' else letter) =
      digits.toList.map id := by
    apply List.map_congr_left
    intro digit member
    exact if_neg (ne_of_mem_of_not_mem member noColon)
  rw [List.map_id] at kept
  rw [← String.toList_inj, StepKey.directoryName, String.toList_map, String.toList_append,
    String.toList_append, List.map_append, kept]
  rfl

theorem isEntryName (hexadecimal : ∀ digit ∈ digits.toList, digit ∈ Text.hexDigits) :
    IsEntryName ("sha256_" ++ digits) := by
  have long (name : String) (short : name.length < 7) : "sha256_" ++ digits ≠ name := by
    intro same
    have length := congrArg String.length same
    rw [String.length_append] at length
    have whole : "sha256_".length = 7 := by decide
    omega
  constructor
  case ne_empty => exact long "" (by decide)
  case ne_dot => exact long "." (by decide)
  case ne_dots => exact long ".." (by decide)
  case slash_not_mem =>
    rw [String.toList_append, List.mem_append, not_or]
    exact ⟨by decide, not_mem_digits hexadecimal (by decide)⟩
  case colon_not_mem =>
    rw [String.toList_append, List.mem_append, not_or]
    exact ⟨by decide, not_mem_digits hexadecimal (by decide)⟩

end Name

theorem isEntryName_directoryName {key : String} (isKey : StepKey.IsKey key) :
    IsEntryName (StepKey.directoryName key) := by
  rcases isKey with ⟨digits, rfl, -, hexadecimal⟩
  rw [directoryName_eq hexadecimal]
  exact isEntryName hexadecimal

/-- Keys can be told from the names of their directories, although other texts could not. -/
theorem directoryName_inj {first second : String} (isFirst : StepKey.IsKey first)
    (isSecond : StepKey.IsKey second) :
    StepKey.directoryName first = StepKey.directoryName second ↔ first = second := by
  rcases isFirst with ⟨left, rfl, -, hexadecimalLeft⟩
  rcases isSecond with ⟨right, rfl, -, hexadecimalRight⟩
  rw [directoryName_eq hexadecimalLeft, directoryName_eq hexadecimalRight,
    String.append_right_inj, String.append_right_inj]

/-! ## Paths -/

theorem IsEntryName.isAbsolute_eq {name : String} (isName : IsEntryName name) :
    Path.isAbsolute name = false := by
  cases letters : name.toList with
  | nil => exact absurd (String.toList_eq_nil_iff.mp letters) isName.ne_empty
  | cons letter rest =>
      have noSlash := isName.slash_not_mem
      rw [letters, List.mem_cons, not_or] at noSlash
      simp [Path.isAbsolute, letters, Ne.symm noSlash.1]

theorem isEntryName_steps : IsEntryName "steps" := by
  constructor <;> decide

theorem stem_join_steps (cacheDir : String) :
    Path.stem (Path.join cacheDir "steps") = Path.join cacheDir "steps" ++ "/" := by
  have steps := isEntryName_steps
  rw [Path.join_eq_append _ steps.isAbsolute_eq]
  exact Path.stem_append_name _ steps.ne_empty steps.slash_not_mem

theorem shown_stepCachePath (settings : Settings) (key : String) :
    (settings.stepCachePath key).shown =
      Path.join (Path.join settings.cacheDir "steps") (StepKey.directoryName key) :=
  rfl

theorem isStepPath_stepCachePath (settings : Settings) {key : String} (isKey : StepKey.IsKey key) :
    IsStepPath settings.cacheDir (settings.stepCachePath key) (StepKey.directoryName key) := by
  have isName := isEntryName_directoryName isKey
  have relative := isName.isAbsolute_eq
  have steps := isEntryName_steps
  have path_eq := Path.join_eq_append (Path.join settings.cacheDir "steps") relative
  rw [stem_join_steps] at path_eq
  rw [shown_stepCachePath]
  constructor
  case isEntryName => exact isName
  case path_eq => exact path_eq
  case startsWith =>
    have inner : settings.cacheDir.shown.toList <+:
        (Path.join settings.cacheDir "steps").toList := by
      rw [Path.join_eq_append _ steps.isAbsolute_eq, String.toList_append]
      exact (Path.isPrefix_stem _).trans (List.prefix_append _ _)
    rw [path_eq, String.toList_append, String.toList_append, List.append_assoc]
    exact inner.trans (List.prefix_append _ _)
  case isAbsolute_eq =>
    rw [Path.isAbsolute_join _ relative, Path.isAbsolute_join _ steps.isAbsolute_eq]
  case names_eq =>
    rw [Path.names_join _ relative, Path.names_join _ steps.isAbsolute_eq,
      Path.names_self isName.ne_empty isName.slash_not_mem,
      Path.names_self steps.ne_empty steps.slash_not_mem, List.append_assoc]
    rfl

theorem stepCachePath_inj (settings : Settings) {first second : String}
    (isFirst : StepKey.IsKey first) (isSecond : StepKey.IsKey second) :
    settings.stepCachePath first = settings.stepCachePath second ↔ first = second := by
  constructor
  · intro same
    have shown := congrArg SystemPath.shown same
    rwa [shown_stepCachePath, shown_stepCachePath,
      Path.join_right_inj _ (isEntryName_directoryName isFirst).isAbsolute_eq
        (isEntryName_directoryName isSecond).isAbsolute_eq,
      directoryName_inj isFirst isSecond] at shown
  · exact congrArg settings.stepCachePath

/-- Every step of a recipe that was read has a key, and its state is cached directly in the
directory of all steps. Two steps share their directory exactly if they share their key. They do so
if they have the same history, and only then unless messages collide. -/
theorem stepCachePaths_apart (settings : Settings) {firstText secondText : String}
    {first second : Recipe} (readFirst : Recipe.parse firstText = .ok first)
    (readSecond : Recipe.parse secondText = .ok second) {i j : Nat} (validFirst : i < first.length)
    (validSecond : j < second.length) :
    ∃ firstKey secondKey, (StepKey.all first)[i]? = some firstKey ∧
      (StepKey.all second)[j]? = some secondKey ∧
      (∃ name, IsStepPath settings.cacheDir (settings.stepCachePath firstKey) name) ∧
      (settings.stepCachePath firstKey = settings.stepCachePath secondKey ↔
        firstKey = secondKey) ∧
      (settings.stepCachePath firstKey = settings.stepCachePath secondKey →
        (i = j ∧ StepKey.history first (i + 1) = StepKey.history second (j + 1)) ∨
          StepKey.Collide (StepKey.digested first (i + 1)) (StepKey.digested second (j + 1))) ∧
      (i = j → StepKey.history first (i + 1) = StepKey.history second (j + 1) →
        settings.stepCachePath firstKey = settings.stepCachePath secondKey) := by
  rcases StepKey.exists_getElem?_all validFirst with ⟨firstKey, atFirst⟩
  rcases StepKey.exists_getElem?_all validSecond with ⟨secondKey, atSecond⟩
  have isFirst := StepKey.isKey_of_mem_chain (List.mem_of_getElem? atFirst)
  have isSecond := StepKey.isKey_of_mem_chain (List.mem_of_getElem? atSecond)
  have shares := stepCachePath_inj settings isFirst isSecond
  refine ⟨firstKey, secondKey, atFirst, atSecond, ⟨_, isStepPath_stepCachePath settings isFirst⟩,
    shares, ?_, ?_⟩
  · intro shared
    apply StepKey.history_eq_or_collide validFirst validSecond
    rw [atFirst, atSecond, shares.mp shared]
  · rintro rfl same
    have keys := StepKey.getElem?_all_congr (Recipe.fingerprinted_of_parse readFirst)
      (Recipe.fingerprinted_of_parse readSecond) same (Nat.lt_succ_self i)
    rw [atFirst, atSecond, Option.some.injEq] at keys
    exact congrArg settings.stepCachePath keys

/-- Steps of different recipes share a directory, and the slash behind the cache directory is not
doubled. -/
theorem stepCachePaths_apart_alias :
    Recipe.parse "FROM a\nRUN b" = .ok ⟨[.of .origin "a" 1, .of .run "b" 2]⟩ ∧
      Recipe.parse "\nFROM a\nEXEC b" = .ok ⟨[.of .origin "a" 2, .of .run "b" 3]⟩ ∧
      ∃ firstKey secondKey name,
        (StepKey.all ⟨[.of .origin "a" 1, .of .run "b" 2]⟩)[1]? = some firstKey ∧
        (StepKey.all ⟨[.of .origin "a" 2, .of .run "b" 3]⟩)[1]? = some secondKey ∧
        Settings.stepCachePath ⟨"Forgefile", .ofString "../cache/", 1, .warn⟩ firstKey =
          Settings.stepCachePath ⟨"Forgefile", .ofString "../cache/", 1, .warn⟩ secondKey ∧
        (Settings.stepCachePath ⟨"Forgefile", .ofString "../cache/", 1, .warn⟩ firstKey).shown =
          "../cache/steps/" ++ name ∧
        IsEntryName name := by
  have spellsFirst : Recipe.Spells [.command 0 "FROM".toList 1 [.plain 'a'] none,
      .command 0 "RUN".toList 1 [.plain 'b'] none] "FROM a\nRUN b".toList := by decide
  have spellsSecond : Recipe.Spells [.blank 0, .command 0 "FROM".toList 1 [.plain 'a'] none,
      .command 0 "EXEC".toList 1 [.plain 'b'] none] "\nFROM a\nEXEC b".toList := by decide
  have readFirst := Recipe.parse_of_spells spellsFirst (by decide)
  have readSecond := Recipe.parse_of_spells spellsSecond (by decide)
  refine ⟨readFirst, readSecond, ?_⟩
  rcases stepCachePaths_apart ⟨"Forgefile", .ofString "../cache/", 1, .warn⟩ readFirst readSecond
    (i := 1) (j := 1) (by decide) (by decide) with
    ⟨firstKey, secondKey, atFirst, atSecond, ⟨name, isStepPath⟩, -, -, shared⟩
  have inner : Path.join "../cache/" "steps" ++ "/" = "../cache/steps/" := by decide
  refine ⟨firstKey, secondKey, name, atFirst, atSecond, shared rfl (by decide), ?_,
    isStepPath.isEntryName⟩
  exact isStepPath.path_eq.trans (congrArg (· ++ name) inner)

end Settings

end GuestImage
