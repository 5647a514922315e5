import GuestImage.CommandLine.Check
import GuestImage.CommandLine.Report
import GuestImage.Proofs.Build.Meaning
import GuestImage.Proofs.CommandLine.DryRun
import GuestImage.Proofs.Json.Reading
import GuestImage.Proofs.Recipe.Acceptance
import GuestImage.Proofs.Settings.StepCache
import GuestImage.Proofs.Text.Lines

/-!
# Flags of output decide nothing

What is printed, and how, is up to the flags; whether a command succeeds, and why it fails, is not.
A dry run gives its plan to people, as JSON or as one key, and all three show the same key. There is
one exception: JSON holds texts only, and crashes on a cache directory that is none.
-/

namespace GuestImage

/-- The value that names lead to, from the field of one object into the next. -/
def Json.Value.at? (value : Json.Value) : (names : List String) → Option Json.Value
  | [] => some value
  | name :: rest =>
      match value with
      | .object fields => (fields.lookup name).bind (·.at? rest)
      | _ => none

namespace CommandLine

/-- The lines of a plan for people that show the key of the last step, which is cut short, and where
the step is cached. -/
def keyText (settings : Settings) : (key? : Option String) → String
  | none => ""
  | some key =>
      "Cache key: " ++ String.ofList (key.toList.take 19) ++ "\n" ++
        ("Cache path: " ++ settings.stepCachePath key ++ "\n")

/-- A plan for people of a recipe whose last step has this key. -/
def planText (settings : Settings) (path : String) (recipe : Recipe) (key? : Option String) :
    String :=
  "Planning build from " ++ path ++ "\n" ++
    String.join (Build.announcements recipe.length 1 recipe.commands) ++
    s!"Planned {recipe.length} steps ({settings.diskSizeMb} MB disk)\n" ++ keyText settings key?

/-- What a dry run with these flags prints about a recipe whose last step has this key. -/
structure Shows (settings : Settings) (path : String) (recipe : Recipe) (key? : Option String)
    (dryRun : (json quiet : Bool) → Stamp → Outcome) : Prop where
  /-- A quiet dry run prints the key and nothing else. -/
  quiet : ∀ stamp, dryRun false true stamp = .succeeded (key?.elim "" (· ++ "\n"))
  plain : ∀ stamp, dryRun false false stamp = .succeeded (planText settings path recipe key?)
  /-- The path of the cached step has a line of its own unless it breaks the line. -/
  pathLine : ∀ key ∈ key?,
    (("Cache path: " ++ settings.stepCachePath key : String).toList ∈
        (planText settings path recipe key?).toList.splitOn '\n' ↔
      '\n' ∉ (settings.stepCachePath key).shown.toList)
  /-- The plan as JSON, whether it is to be quiet or not. -/
  json : settings.cacheDir.isText = true → ∀ quiet stamp, ∃ report value,
    dryRun true quiet stamp = .succeeded (report ++ "\n") ∧
    Json.Value.ofText? report = some value ∧
    value.at? ["summary", "cache_key"] = some (key?.elim .null .string) ∧
    value.at? ["cache_path"] =
      some (key?.elim .null fun key => .string (settings.stepCachePath key).shown)
  /-- There is no plan as JSON if the cache directory is no text. -/
  crash : settings.cacheDir.isText = false →
    ∀ quiet stamp, dryRun true quiet stamp = .failed "" .pathNotText

/-! ## Dry runs -/

theorem planLines_eq (settings : Settings) (summary : Build.Summary)
    (isKey : ∀ key ∈ summary.cacheKey?, StepKey.IsKey key) :
    String.join (planLines settings summary) =
      s!"Planned {summary.steps} steps ({settings.diskSizeMb} MB disk)\n" ++
        keyText settings summary.cacheKey? := by
  rcases summary with ⟨origin?, steps, workdir, entrypoint?, key?⟩
  cases key? with
  | none => simp [planLines, cachePath?, keyText]
  | some key =>
      simp [planLines, cachePath?, keyText, (isKey key rfl).short_eq, toString, String.append_assoc]

theorem join_toList (text? : Option String) :
    String.join (text?.toList.map (· ++ "\n")) = text?.elim "" (· ++ "\n") := by
  cases text? <;> simp

theorem planJson_cacheKey (settings : Settings) (stamp : Stamp) (summary : Build.Summary)
    (actions : List Action) :
    (planJson settings stamp summary actions).at? ["summary", "cache_key"] =
      some (summary.cacheKey?.elim .null .string) := by
  rcases summary with ⟨origin?, steps, workdir, entrypoint?, key?⟩
  cases key? <;> rfl

theorem planJson_cachePath (settings : Settings) (stamp : Stamp) (summary : Build.Summary)
    (actions : List Action) :
    (planJson settings stamp summary actions).at? ["cache_path"] =
      some (summary.cacheKey?.elim .null fun key =>
        .string (settings.stepCachePath key).shown) := by
  rcases summary with ⟨origin?, steps, workdir, entrypoint?, key?⟩
  cases key? <;> rfl

theorem pathLine_iff (settings : Settings) (path : String) (recipe : Recipe) (key : String) :
    ("Cache path: " ++ settings.stepCachePath key : String).toList ∈
        (planText settings path recipe (some key)).toList.splitOn '\n' ↔
      '\n' ∉ (settings.stepCachePath key).shown.toList := by
  have visible : '\n' ∉ "Cache path: ".toList := by decide
  unfold planText
  rw [keyText, ← @String.append_assoc _ _ "\n", ← @String.append_assoc _ _ "\n",
    ← String.append_assoc, ← @String.append_assoc _ _ "\n", Text.mem_splitOn_iff,
    String.toList_append, List.mem_append, not_or, and_iff_right visible]

/-- A dry run of a recipe fails for one reason, or shows one key, whatever its flags are. -/
theorem plan_shows {recipe : Recipe} (ordered : Recipe.WellOrdered recipe.commands)
    (settings : Settings) (context : String) (file? : Option String) (path : String) :
    (∃ problem, ∀ json quiet stamp,
      plan settings ⟨context, file?, true, json, quiet⟩ stamp path recipe =
        .failed (if json || quiet then "" else planHead path recipe) problem) ∨
    Shows settings path recipe (StepKey.all recipe).getLast? fun json quiet stamp =>
      plan settings ⟨context, file?, true, json, quiet⟩ stamp path recipe := by
  rcases Build.rejected_or_plans ordered [] with ⟨origin, rejection, -, -, planned⟩ |
    ⟨actions, -, planned⟩
  · left
    refine ⟨.reported (.ofRejection rejection), ?_⟩
    intro json quiet stamp
    rw [plan_eq, planned]
    rfl
  · right
    have isKey : ∀ key ∈ (StepKey.all recipe).getLast?, StepKey.IsKey key :=
      fun _ => StepKey.isKey_of_getLast?_all
    generalize recorded : [] ++ actions = recordedActions at planned
    generalize described : (Build.Progress.after recipe.commands).summary recipe.length = summary
      at planned
    have key : summary.cacheKey? = (StepKey.all recipe).getLast? := by
      rw [← described]
      rfl
    have steps : summary.steps = recipe.length := by
      rw [← described]
      rfl
    rw [← key] at isKey ⊢
    constructor
    case quiet =>
      intro stamp
      have reported : planReport settings ⟨context, file?, true, false, true⟩ stamp summary
          recordedActions = .ok (String.join (summary.cacheKey?.toList.map (· ++ "\n"))) := rfl
      rw [plan_eq_succeeded planned reported, announcement_of_silent rfl, String.empty_append,
        join_toList]
    case plain =>
      intro stamp
      have reported : planReport settings ⟨context, file?, true, false, false⟩ stamp summary
          recordedActions = .ok (String.join (planLines settings summary)) := rfl
      rw [plan_eq_succeeded planned reported, planLines_eq settings summary isKey, steps,
        announcement, ← String.append_assoc]
      unfold planHead planText
      rw [planned]
      rfl
    case pathLine =>
      intro last member
      rw [member]
      exact pathLine_iff settings path recipe last
    case json =>
      intro isText quiet stamp
      refine ⟨_, planJson settings stamp summary recordedActions, ?_, Json.Value.ofText?_text _,
        planJson_cacheKey .., planJson_cachePath ..⟩
      have reported : planReport settings ⟨context, file?, true, true, quiet⟩ stamp summary
          recordedActions =
            .ok ((planJson settings stamp summary recordedActions).text ++ "\n") := by
        simp only [planReport, isText, ↓reduceIte]
      rw [plan_eq_succeeded planned reported, announcement_of_silent rfl, String.empty_append]
    case crash =>
      intro notText quiet stamp
      have refused : planReport settings ⟨context, file?, true, true, quiet⟩ stamp summary
          recordedActions = .error .pathNotText := by
        simp only [planReport, notText, Bool.false_eq_true, ↓reduceIte]
      rw [plan_eq_failed planned refused, announcement_of_silent rfl]

/-! ## Commands -/

/-- A dry run of a context fails for one reason, or shows the key of the last step of the recipe
that was found, whatever its flags are. -/
theorem dryRun_decides (files : Files Id) (settings : Settings) (context : String)
    (file? : Option String) :
    (∃ shown problem, ∀ json quiet stamp,
      build files settings ⟨context, file?, true, json, quiet⟩ stamp =
        .failed (if json || quiet then "" else shown) problem) ∨
    ∃ path text recipe, LeadsTo files settings context file? path text ∧
      Recipe.parse text = .ok recipe ∧
      Shows settings path recipe (StepKey.all recipe).getLast? fun json quiet stamp =>
        build files settings ⟨context, file?, true, json, quiet⟩ stamp := by
  cases found : lookup files settings context file? with
  | error problem =>
      left
      refine ⟨"", problem, ?_⟩
      intro json quiet stamp
      rw [build_eq_answer, found, ite_self]
      rfl
  | ok place =>
      rcases place with ⟨path, recipe⟩
      have answered (json quiet : Bool) (stamp : Stamp) :
          build files settings ⟨context, file?, true, json, quiet⟩ stamp =
            plan settings ⟨context, file?, true, json, quiet⟩ stamp path recipe := by
        rw [build_eq_answer, found]
        rfl
      simp only [answered]
      rcases exists_leadsTo_of_lookup found with ⟨text, leads, read⟩
      have ordered : Recipe.WellOrdered recipe.commands :=
        Recipe.documentError?_eq_none_iff.mp (Recipe.parse_eq_ok.mp read).2
      rcases plan_shows ordered settings context file? path with ⟨problem, fails⟩ | shows
      · exact .inl ⟨planHead path recipe, problem, fails⟩
      · exact .inr ⟨path, text, recipe, leads, read, shows⟩

/-- A build that is no dry run fails without a word, for a reason that its flags do not change. -/
theorem build_refuses (files : Files Id) (settings : Settings) (context : String)
    (file? : Option String) :
    ∃ problem, ∀ json quiet stamp,
      build files settings ⟨context, file?, false, json, quiet⟩ stamp = .failed "" problem := by
  cases found : lookup files settings context file? with
  | error problem =>
      refine ⟨problem, ?_⟩
      intro json quiet stamp
      rw [build_eq_answer, found]
      rfl
  | ok place =>
      refine ⟨.noBackend, ?_⟩
      intro json quiet stamp
      rw [build_eq_answer, found]
      rfl

/-- Whether a check succeeds is told from the file alone, and a check that fails prints nothing. -/
theorem check_decides (files : Files Id) (path : String) :
    (∃ problem, ∀ format quiet, check files ⟨path, format, quiet⟩ = .failed "" problem) ∨
    ∀ format quiet, (check files ⟨path, format, quiet⟩).problem? = none := by
  dsimp only [check, bind, pure]
  cases Recipe.load files path with
  | error failure => exact .inl ⟨.reported failure, fun _ _ => rfl⟩
  | ok recipe => exact .inr fun _ _ => rfl

/-- The flags of a build or a check never change whether it succeeds, or why it fails, unless JSON
is to hold a cache directory that is no text. A dry run that fails prints nothing if it is quiet or
to print JSON; one that succeeds shows the key of the last step in every form. A build that is no
dry run always fails, and prints nothing. -/
theorem flags_decide_nothing (files : Files Id) (settings : Settings) (context : String)
    (file? : Option String) :
    ((∃ shown problem, ∀ json quiet stamp,
        build files settings ⟨context, file?, true, json, quiet⟩ stamp =
          .failed (if json || quiet then "" else shown) problem) ∨
      ∃ path text recipe key?, LeadsTo files settings context file? path text ∧
        Recipe.parse text = .ok recipe ∧ (key? = none ↔ recipe.commands = []) ∧
        (∀ key ∈ key?, StepKey.IsKey key) ∧
        Shows settings path recipe key? fun json quiet stamp =>
          build files settings ⟨context, file?, true, json, quiet⟩ stamp) ∧
    (∃ problem, ∀ json quiet stamp,
      build files settings ⟨context, file?, false, json, quiet⟩ stamp = .failed "" problem) ∧
    ∀ path, (∃ problem, ∀ format quiet, check files ⟨path, format, quiet⟩ = .failed "" problem) ∨
      ∀ format quiet, (check files ⟨path, format, quiet⟩).problem? = none := by
  refine ⟨?_, build_refuses files settings context file?, check_decides files⟩
  rcases dryRun_decides files settings context file? with
    fails | ⟨path, text, recipe, leads, read, shows⟩
  · exact .inl fails
  · right
    have absent : (StepKey.all recipe).getLast? = none ↔ recipe.commands = [] :=
      Build.getLast?_chain_eq_none_iff none recipe.commands
    exact ⟨path, text, recipe, _, leads, read, absent, fun _ => StepKey.isKey_of_getLast?_all,
      shows⟩

/-- A context whose recipe has one step. -/
def oneStep : Files Id :=
  (FileTree.empty.insert ["c", "Forgefile"] (.file "FROM a".toUTF8)).files []

/-- What the flags show of the one step, wherever it is cached. -/
theorem oneStep_shows {settings : Settings} (named : settings.definitionFile = "Forgefile") :
    Shows settings "/c/Forgefile" ⟨[.of .origin "a" 1]⟩
      (some (StepKey.of none (.of .origin "a" 1)))
      fun json quiet stamp => build oneStep settings ⟨"/c", none, true, json, quiet⟩ stamp := by
  have leads : LeadsTo oneStep settings "/c" none "/c/Forgefile" "FROM a" := by
    refine ⟨⟨"/c", by rfl, by rfl, ?_⟩, by rfl, by rfl⟩
    rw [definitionPath, named]
    rfl
  have spells : Recipe.Spells [.command 0 "FROM".toList 1 [.plain 'a'] none] "FROM a".toList := by
    decide
  have read : Recipe.parse "FROM a" = .ok ⟨[.of .origin "a" 1]⟩ :=
    Recipe.parse_of_spells spells (by decide)
  have answered (json quiet : Bool) (stamp : Stamp) :
      build oneStep settings ⟨"/c", none, true, json, quiet⟩ stamp =
        plan settings ⟨"/c", none, true, json, quiet⟩ stamp "/c/Forgefile"
          ⟨[.of .origin "a" 1]⟩ := by
    rw [leads.build_eq rfl, Recipe.ofText, read]
  simp only [answered]
  have ordered : Recipe.WellOrdered [.of .origin "a" 1] := by decide
  rcases @plan_shows ⟨[.of .origin "a" 1]⟩ ordered settings "/c" none "/c/Forgefile" with
    ⟨problem, fails⟩ | shows
  · obtain ⟨summary, announced, actions, planned⟩ : ∃ summary announced actions,
        Build.plan ⟨[.of .origin "a" 1]⟩ [] = ⟨.ok summary, announced, actions⟩ := ⟨_, _, _, rfl⟩
    have failed := congrArg Outcome.problem? (fails false true ⟨"id", "start", "end"⟩)
    rw [problem?_plan planned] at failed
    cases failed
  · exact shows

/-- JSON crashes in a home directory that is no text, where a plan for people is printed. A cache
directory with a line feed breaks the line of the path. -/
theorem flags_decide_nothing_cacheDir :
    let stamp : Stamp := ⟨"id", "start", "end"⟩
    let noText : Settings := .defaults (some ⟨"/tmp/\ufffd", false, fun _ => by decide⟩)
    let twoLines : Settings := { Settings.defaults none with cacheDir := .ofString "a\nb" }
    (Report.ofOutcome (build oneStep noText ⟨"/c", none, true, false, false⟩ stamp)).exitCode = 0 ∧
      Report.ofOutcome (build oneStep noText ⟨"/c", none, true, true, false⟩ stamp) =
        ⟨101, "", "crashed: path contains invalid UTF-8 characters\n"⟩ ∧
      ∃ key printed,
        build oneStep twoLines ⟨"/c", none, true, false, true⟩ stamp = .succeeded (key ++ "\n") ∧
        build oneStep twoLines ⟨"/c", none, true, false, false⟩ stamp = .succeeded printed ∧
        ("Cache path: " ++ twoLines.stepCachePath key : String).toList ∉
          printed.toList.splitOn '\n' := by
  intro stamp noText twoLines
  have ofNoText := @oneStep_shows noText rfl
  have ofTwoLines := @oneStep_shows twoLines rfl
  have isKey := StepKey.isKey_of none (.of .origin "a" 1)
  refine ⟨?_, ?_, _, _, ofTwoLines.quiet stamp, ofTwoLines.plain stamp, ?_⟩
  · rw [ofNoText.plain]
    rfl
  · rw [ofNoText.crash rfl]
    rfl
  · rw [ofTwoLines.pathLine _ rfl, not_not]
    have kept := (Settings.isStepPath_stepCachePath twoLines isKey).startsWith
    exact kept.subset (by decide)

end CommandLine

end GuestImage
