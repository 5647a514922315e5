import GuestImage.CommandLine.Check
import GuestImage.Proofs.BaseImage
import GuestImage.Proofs.Build.Meaning
import GuestImage.Proofs.Build.Steps
import GuestImage.Proofs.CommandLine.DryRun
import GuestImage.Proofs.StepKey.History

/-!
# A check and a dry run agree

A check lists the commands of a recipe with their keys, and a dry run plans one action for each.
Both read the recipe in the same way, number its steps in the same way and give every step the same
key, and a dry run refuses nothing that was checked but an origin that names no image.
-/

namespace GuestImage

/-- The kind of the commands that plan an action. -/
def Action.kind : Action → CommandKind
  | fetchOrigin _ => .origin
  | run _ _ => .run
  | copy _ _ => .copy
  | setWorkdir _ => .workdir
  | setEntrypoint _ => .entrypoint

namespace Build

theorem StandsFor.kind_eq {done : List Command} {command : Command} {action : Action}
    (stands : StandsFor done command action) : action.kind = command.kind := by
  cases stands with
  | fetchOrigin kind _ | run kind | copy kind | setWorkdir kind | setEntrypoint kind =>
      exact kind.symm

/-- An action hands on what its command says, but for the image of an origin and the directory of
a workdir. -/
theorem StandsFor.argument_eq {done : List Command} {command : Command} {action : Action}
    (stands : StandsFor done command action)
    (kind : action.kind = .run ∨ action.kind = .copy ∨ action.kind = .entrypoint) :
    action.argument = command.value := by
  cases stands with
  | fetchOrigin | setWorkdir => simp [Action.kind] at kind
  | run | copy | setEntrypoint => rfl

end Build

namespace CommandLine

/-- Rows that list the commands of a recipe with their keys, one row for each, in order. -/
structure Lists (rows : List StepRow) (recipe : Recipe) : Prop where
  length_eq : rows.length = recipe.length
  rowAt : ∀ {place : Nat} {command : Command}, recipe.commands[place]? = some command →
    ∃ key, (StepKey.all recipe)[place]? = some key ∧
      rows[place]? = some ⟨place + 1, command.kind.name, command.value, command.fingerprint,
        command.line, key⟩

/-- A row of a check and an action of a dry run at the same place. -/
structure Together (recipe : Recipe) (actions : List Action) (place : Nat) (row : StepRow)
    (action : Action) : Prop where
  /-- They come from one command. -/
  standsFor : ∃ command, recipe.commands[place]? = some command ∧
    Build.StandsFor (recipe.commands.take place) command action
  kind_eq : row.kind = action.kind.name
  value_eq : action.kind = .run ∨ action.kind = .copy ∨ action.kind = .entrypoint →
    row.value = action.argument
  /-- The row shows the key that the dry run holds after the step, and goes on from. -/
  held : ∃ progress, progress.cacheKey? = some row.cacheKey ∧
    Build.advanceAll .plan 1 .initial [] (recipe.commands.take (place + 1)) =
      (.ok progress, actions.take (place + 1)) ∧
    Build.plan recipe [] =
      let later := Build.resume .plan recipe.length (place + 2) progress (actions.take (place + 1))
        (recipe.commands.drop (place + 1))
      ⟨later.result, Build.announcements recipe.length 1 (recipe.commands.take (place + 1)) ++
        later.announced, later.state⟩

/-- The rows of a check go together with what a dry run of the recipe leaves behind. -/
structure Agrees (rows : List StepRow) (recipe : Recipe) (summary : Build.Summary)
    (actions : List Action) : Prop where
  steps_eq : summary.steps = rows.length
  length_eq : actions.length = rows.length
  together : ∀ {place : Nat} {row : StepRow}, rows[place]? = some row →
    ∃ action, actions[place]? = some action ∧ Together recipe actions place row action
  cacheKey?_eq : summary.cacheKey? = rows.getLast?.map (·.cacheKey)
  cacheKey?_eq_none_iff : summary.cacheKey? = none ↔ rows = []

/-! ## Rows -/

/-- No row is lost, for there are as many keys as commands. -/
theorem StepRow.length_all (recipe : Recipe) : (StepRow.all recipe).length = recipe.length := by
  rw [all, List.length_mapIdx, List.length_zip, StepKey.all, StepKey.length_chain, Nat.min_self]
  rfl

theorem StepRow.lists_all (recipe : Recipe) : Lists (StepRow.all recipe) recipe where
  length_eq := length_all recipe
  rowAt {place command} found := by
    have shown : (StepKey.all recipe)[place]? = _ := StepKey.getElem?_chain found
    have paired : (recipe.commands.zip (StepKey.all recipe))[place]? = some (command, _) :=
      List.getElem?_zip_eq_some.mpr ⟨found, shown⟩
    refine ⟨_, shown, ?_⟩
    rw [all, List.getElem?_mapIdx, paired]
    rfl

theorem StepRow.map_cacheKey_all (recipe : Recipe) :
    (StepRow.all recipe).map (·.cacheKey) = StepKey.all recipe := by
  have few : (StepKey.all recipe).length ≤ recipe.commands.length :=
    Nat.le_of_eq (StepKey.length_chain none recipe.commands)
  rw [← List.map_snd_zip few]
  apply List.ext_getElem?
  intro place
  rw [all, List.getElem?_map, List.getElem?_mapIdx, List.getElem?_map, Option.map_map]
  rfl

theorem StepRow.all_eq_nil_iff (recipe : Recipe) :
    StepRow.all recipe = [] ↔ recipe.commands = [] := by
  rw [← List.length_eq_zero_iff, length_all, ← List.length_eq_zero_iff]
  rfl

/-! ## Steps -/

section DryRun

variable {recipe : Recipe} {actions : List Action} {final : Build.Progress}

/-- A dry run holds the key of a step after it, and goes on from there. -/
theorem key_held (asks : Build.Asks .initial recipe.commands actions final) {place : Nat}
    {key : String} (shown : (StepKey.all recipe)[place]? = some key) :
    ∃ progress, progress.cacheKey? = some key ∧
      Build.advanceAll .plan 1 .initial [] (recipe.commands.take (place + 1)) =
        (.ok progress, actions.take (place + 1)) ∧
      Build.plan recipe [] =
        let later := Build.resume .plan recipe.length (place + 2) progress
          (actions.take (place + 1)) (recipe.commands.drop (place + 1))
        ⟨later.result, Build.announcements recipe.length 1 (recipe.commands.take (place + 1)) ++
          later.announced, later.state⟩ := by
  rcases asks.take (place + 1) with ⟨progress, earlier⟩
  have reached : Build.advanceAll .plan 1 .initial [] (recipe.commands.take (place + 1)) =
      (.ok progress, actions.take (place + 1)) := by
    rw [earlier.advanceAll_eq (Backend.succeeds_plan [] _), Backend.after_plan]
    rfl
  have inside : place < recipe.commands.length := by
    rw [← StepKey.length_chain none recipe.commands]
    exact (List.getElem?_eq_some_iff.mp shown).1
  have count : (recipe.commands.take (place + 1)).length = place + 1 :=
    List.length_take_of_le inside
  refine ⟨progress, ?_, reached, ?_⟩
  · rw [earlier.plans_of_initial.2]
    exact StepKey.getLast?_chain_take shown
  · have goesOn := Build.resume_append reached recipe.length (recipe.commands.drop (place + 1))
    rw [List.take_append_drop, count, Nat.add_comm 1] at goesOn
    exact goesOn

theorem agrees_of_asks (asks : Build.Asks .initial recipe.commands actions final) :
    Agrees (StepRow.all recipe) recipe (final.summary recipe.length) actions := by
  rcases asks.plans_of_initial with ⟨plans, rfl⟩
  have lists := StepRow.lists_all recipe
  constructor
  case steps_eq => exact lists.length_eq.symm
  case length_eq => exact plans.length_eq.trans lists.length_eq.symm
  case together =>
    intro place row rowAt
    have inside : place < recipe.length := by
      rw [← lists.length_eq]
      exact (List.getElem?_eq_some_iff.mp rowAt).1
    have found := List.getElem?_eq_getElem inside
    rcases lists.rowAt found with ⟨key, shown, listed⟩
    rw [rowAt] at listed
    cases listed
    rcases plans.standsFor found with ⟨action, actionAt, stands⟩
    refine ⟨action, actionAt, ⟨_, found, stands⟩, ?_, ?_, key_held asks shown⟩
    · rw [stands.kind_eq]
    · intro kind
      rw [stands.argument_eq kind]
  case cacheKey?_eq =>
    rw [← List.getLast?_map, StepRow.map_cacheKey_all]
    rfl
  case cacheKey?_eq_none_iff =>
    rw [StepRow.all_eq_nil_iff]
    exact Build.getLast?_chain_eq_none_iff none recipe.commands

end DryRun

/-- The first row shows the value of an origin that names no image. -/
theorem head_of_refused {recipe : Recipe} {command : Command} {rejection : BaseImage.Rejection}
    (first : recipe.origin? = some command) (wf : command.WF)
    (rejected : BaseImage.parse command.value = .error rejection) :
    ∃ row flaw, (StepRow.all recipe).head? = some row ∧
      BaseImage.parse row.value = .error ⟨row.value, flaw⟩ ∧
      Failure.ofRejection rejection = .origin row.value flaw.message := by
  have found : recipe.commands[0]? = some command := by
    rw [← List.head?_eq_getElem?]
    exact first
  have same : rejection.value = command.value := by
    rw [(BaseImage.parse_error_iff_hasFlaw.mp rejected).1, wf.trim_value]
  rcases (StepRow.lists_all recipe).rowAt found with ⟨key, -, listed⟩
  rw [← List.head?_eq_getElem?] at listed
  rcases rejection with ⟨value, flaw⟩
  obtain rfl : value = command.value := same
  exact ⟨_, flaw, listed, rejected, rfl⟩

/-! ## Commands -/

theorem check_eq {files : Files Id} {request : CheckRequest} {text : String}
    (readText : files.readText request.path = .ok text) :
    check files request =
      match Recipe.ofText text with
      | .error failure => .failed "" (.reported failure)
      | .ok recipe => .succeeded (checkReport request recipe) := by
  cases made : Recipe.ofText text with
  | error failure => simp only [check, Recipe.load, bind, pure, readText, made]
  | ok recipe => simp only [check, Recipe.load, bind, pure, readText, made]

/-- A check and a dry run of one text agree. If the text is no recipe, both report the same error.
Else the check lists every command, and a dry run that succeeds did at each step what the row of
the step says. A dry run that fails found that the first row names no image. -/
theorem check_agrees_with_dryRun {files : Files Id} {settings : Settings} {path text : String}
    (checked : CheckRequest) (planned : BuildRequest)
    (readText : files.readText checked.path = .ok text)
    (leads : LeadsTo files settings planned.path planned.file? path text)
    (dryRun : planned.dryRun = true) (stamp : Stamp) :
    (∀ error, Recipe.parse text = .error error →
      check files checked = .failed "" (.reported (.recipe error)) ∧
        build files settings planned stamp = .failed "" (.reported (.recipe error))) ∧
    ∀ recipe, Recipe.parse text = .ok recipe →
      check files checked = .succeeded (checkReport checked recipe) ∧
        Lists (StepRow.all recipe) recipe ∧
        (∀ summary, (Build.plan recipe []).result = .ok summary →
          (build files settings planned stamp).problem? =
              (if planned.json = true ∧ settings.cacheDir.isText = false then some .pathNotText
              else none) ∧
            Agrees (StepRow.all recipe) recipe summary (Build.plan recipe []).state) ∧
        ∀ failure, (Build.plan recipe []).result = .error failure →
          (build files settings planned stamp).problem? = some (.reported failure) ∧
          ∃ row flaw, (StepRow.all recipe).head? = some row ∧
            BaseImage.parse row.value = .error ⟨row.value, flaw⟩ ∧
            failure = .origin row.value flaw.message := by
  rw [check_eq readText, leads.build_eq dryRun, Recipe.ofText]
  constructor
  · intro error read
    rw [read]
    exact ⟨rfl, rfl⟩
  · intro recipe read
    have wf := Recipe.wf_of_parse read
    rw [read]
    refine ⟨rfl, StepRow.lists_all recipe, ?_⟩
    dsimp only
    rcases Build.rejected_or_asks recipe with ⟨command, member, rejection, rejected⟩ |
      ⟨actions, final, asks⟩
    · have first := Build.origin?_of_rejected wf.ordered member rejected
      have planned := Build.run_rejected wf.ordered member rejected .plan []
      rw [plan_eq, Build.plan, planned]
      constructor
      · rintro summary ⟨⟩
      · rintro failure ⟨⟩
        exact ⟨rfl, head_of_refused first (wf.commands command member) rejected.2⟩
    · have planned := asks.plan_eq []
      constructor
      · intro summary succeeded
        refine ⟨problem?_plan planned settings _ stamp path, ?_⟩
        rw [planned] at succeeded ⊢
        cases succeeded
        exact agrees_of_asks asks
      · intro failure failed
        rw [planned] at failed
        cases failed

/-- Two contexts. The recipe of the first has three steps, and the origin of the second has two
words. -/
def twoContexts : Files Id :=
  ((FileTree.empty.insert ["c", "Forgefile"] (.file "FROM a\nWORKDIR w\nRUN b".toUTF8)).insert
    ["d", "Forgefile"] (.file "FROM a b".toUTF8)).files []

/-- Three steps are listed by a check and planned by a dry run. An origin of two words is listed by
a check and refused by a dry run. -/
theorem check_agrees_with_dryRun_twoContexts :
    let stamp : Stamp := ⟨"id", "start", "end"⟩
    let steps : Recipe := ⟨[.of .origin "a" 1, .of .workdir "w" 2, .of .run "b" 3]⟩
    let actions : List Action := [.fetchOrigin ⟨"a", "latest"⟩, .setWorkdir "/w", .run "b" "/w"]
    (twoContexts.readText "/c/Forgefile" = .ok "FROM a\nWORKDIR w\nRUN b" ∧
      LeadsTo twoContexts (.defaults none) "/c" none "/c/Forgefile" "FROM a\nWORKDIR w\nRUN b" ∧
      check twoContexts ⟨"/c/Forgefile", .table, true⟩ = .succeeded "" ∧
      (build twoContexts (.defaults none) ⟨"/c", none, true, false, true⟩ stamp).problem? = none ∧
      (StepRow.all steps).length = 3 ∧
      ∃ summary, Agrees (StepRow.all steps) steps summary actions) ∧
    twoContexts.readText "/d/Forgefile" = .ok "FROM a b" ∧
      LeadsTo twoContexts (.defaults none) "/d" none "/d/Forgefile" "FROM a b" ∧
      check twoContexts ⟨"/d/Forgefile", .table, true⟩ = .succeeded "" ∧
      (build twoContexts (.defaults none) ⟨"/d", none, true, false, true⟩ stamp).problem? =
        some (.reported (.origin "a b" "origin must be a single word")) ∧
      ∃ row flaw, (StepRow.all ⟨[.of .origin "a b" 1]⟩).head? = some row ∧
        BaseImage.parse row.value = .error ⟨row.value, flaw⟩ ∧
        Failure.origin "a b" "origin must be a single word" = .origin row.value flaw.message := by
  intro stamp steps actions
  constructor
  · have readText : twoContexts.readText "/c/Forgefile" = .ok "FROM a\nWORKDIR w\nRUN b" := by rfl
    have leads :
        LeadsTo twoContexts (.defaults none) "/c" none "/c/Forgefile" "FROM a\nWORKDIR w\nRUN b" :=
      ⟨⟨"/c", by rfl, by rfl, by rfl⟩, by rfl, readText⟩
    have spells : Recipe.Spells [.command 0 "FROM".toList 1 [.plain 'a'] none,
        .command 0 "WORKDIR".toList 1 [.plain 'w'] none,
        .command 0 "RUN".toList 1 [.plain 'b'] none] "FROM a\nWORKDIR w\nRUN b".toList := by
      decide
    have read : Recipe.parse "FROM a\nWORKDIR w\nRUN b" = .ok steps :=
      Recipe.parse_of_spells spells (by decide)
    obtain ⟨summary, planned⟩ : ∃ summary, (Build.plan steps []).result = .ok summary := ⟨_, rfl⟩
    have recorded : (Build.plan steps []).state = actions := by rfl
    have agree := check_agrees_with_dryRun ⟨"/c/Forgefile", .table, true⟩
      ⟨"/c", none, true, false, true⟩ readText leads rfl stamp
    rcases agree.2 _ read with ⟨listed, lists, succeeded, -⟩
    rcases succeeded _ planned with ⟨shown, agrees⟩
    rw [recorded] at agrees
    exact ⟨readText, leads, listed, shown, lists.length_eq, summary, agrees⟩
  · have readText : twoContexts.readText "/d/Forgefile" = .ok "FROM a b" := by rfl
    have leads : LeadsTo twoContexts (.defaults none) "/d" none "/d/Forgefile" "FROM a b" :=
      ⟨⟨"/d", by rfl, by rfl, by rfl⟩, by rfl, readText⟩
    have spells : Recipe.Spells
        [.command 0 "FROM".toList 1 [.plain 'a', .plain ' ', .plain 'b'] none]
        "FROM a b".toList := by
      decide
    have read : Recipe.parse "FROM a b" = .ok ⟨[.of .origin "a b" 1]⟩ :=
      Recipe.parse_of_spells spells (by decide)
    have refused : (Build.plan ⟨[.of .origin "a b" 1]⟩ []).result =
        .error (.origin "a b" "origin must be a single word") := by rfl
    have agree := check_agrees_with_dryRun ⟨"/d/Forgefile", .table, true⟩
      ⟨"/d", none, true, false, true⟩ readText leads rfl stamp
    rcases agree.2 _ read with ⟨listed, -, -, failed⟩
    exact ⟨readText, leads, listed, failed _ refused⟩

end CommandLine

end GuestImage
