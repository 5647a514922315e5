import GuestImage.CommandLine.Build

/-!
# How a build comes to its answer

A build asks its questions about files before it looks at what is to be printed. So it falls into
two parts: a lookup, which knows the context and the settings, and an answer, which asks no
questions. The answer of a dry run is what the plan of the recipe came to, behind an announcement
that the flags may silence.
-/

namespace GuestImage.CommandLine

/-- The path of the recipe and the recipe that a build finds, or the problem that stops it. -/
def lookup {m : Type → Type} [Monad m] (files : Files m) (settings : Settings) (context : String)
    (file? : Option String) : m (Except Problem (String × Recipe)) := do
  match ← files.canonical context with
  | .error error => return .error (.badContext context error)
  | .ok directory =>
      if !(← files.isDirectory directory) then
        return .error (.contextNotDirectory directory)
      let path := definitionPath directory file? settings
      if !(← files.present path) then
        return .error (.noDefinition path)
      match ← Recipe.load files path with
      | .error failure => return .error (.reported failure)
      | .ok recipe => return .ok (path, recipe)

/-- What a build answers to what it found. -/
def BuildRequest.answer (request : BuildRequest) (settings : Settings) (stamp : Stamp) :
    Except Problem (String × Recipe) → Outcome
  | .error problem => .failed "" problem
  | .ok (path, recipe) =>
      if request.dryRun then plan settings request stamp path recipe
      else .failed "" .noBackend

/-- A build is a lookup and the answer to it. -/
theorem build_eq_lookup {m : Type → Type} [Monad m] [LawfulMonad m] (files : Files m)
    (settings : Settings) (request : BuildRequest) (stamp : Stamp) :
    build files settings request stamp =
      request.answer settings stamp <$> lookup files settings request.path request.file? := by
  simp only [build, lookup, map_bind]
  congr 1
  funext canonical
  cases canonical with
  | error error => simp [BuildRequest.answer]
  | ok directory =>
      simp only [map_bind]
      congr 1
      funext isDirectory
      cases isDirectory with
      | false => simp [BuildRequest.answer]
      | true =>
          simp only [Bool.not_true, Bool.false_eq_true, ↓reduceIte, map_bind]
          congr 1
          funext present
          cases present with
          | false => simp [BuildRequest.answer]
          | true =>
              simp only [Bool.not_true, Bool.false_eq_true, ↓reduceIte, map_bind]
              congr 1
              funext loaded
              cases loaded with
              | error failure => simp [BuildRequest.answer]
              | ok recipe => cases dryRun : request.dryRun <;> simp [BuildRequest.answer, dryRun]

theorem build_eq_answer (files : Files Id) (settings : Settings) (request : BuildRequest)
    (stamp : Stamp) :
    build files settings request stamp =
      request.answer settings stamp (lookup files settings request.path request.file?) :=
  build_eq_lookup files settings request stamp

/-! ## Answers -/

/-- What a plan for people shows before its result is known. -/
def planHead (path : String) (recipe : Recipe) : String :=
  s!"Planning build from {path}\n" ++ String.join (Build.plan recipe []).announced

/-- What a dry run prints before its result is known. -/
def announcement (request : BuildRequest) (path : String) (recipe : Recipe) : String :=
  if request.json || request.quiet then "" else planHead path recipe

theorem announcement_of_silent {request : BuildRequest}
    (silent : (request.json || request.quiet) = true) (path : String) (recipe : Recipe) :
    announcement request path recipe = "" :=
  if_pos silent

theorem plan_eq (settings : Settings) (request : BuildRequest) (stamp : Stamp) (path : String)
    (recipe : Recipe) :
    plan settings request stamp path recipe =
      match (Build.plan recipe []).result with
      | .error failure => .failed (announcement request path recipe) (.reported failure)
      | .ok summary =>
          match planReport settings request stamp summary (Build.plan recipe []).state with
          | .error problem => .failed (announcement request path recipe) problem
          | .ok report => .succeeded (announcement request path recipe ++ report) := by
  have announced :
      (if request.quiet || request.json then "" else s!"Planning build from {path}\n") ++
        (Build.plan recipe []).printed (request.quiet || request.json) =
      announcement request path recipe := by
    rw [announcement, Bool.or_comm]
    cases request.json || request.quiet with
    | true => rfl
    | false => rfl
  cases result : (Build.plan recipe []).result with
  | error failure => simp only [plan, announced, result]
  | ok summary =>
      cases reported : planReport settings request stamp summary (Build.plan recipe []).state with
      | error problem => simp only [plan, announced, result, reported]
      | ok report => simp only [plan, announced, result, reported]

section Complete

variable {settings : Settings} {request : BuildRequest} {stamp : Stamp} {recipe : Recipe}
variable {summary : Build.Summary} {announced : List String} {actions : List Action}

theorem plan_eq_succeeded (planned : Build.plan recipe [] = ⟨.ok summary, announced, actions⟩)
    {report : String} (reported : planReport settings request stamp summary actions = .ok report)
    (path : String) :
    plan settings request stamp path recipe =
      .succeeded (announcement request path recipe ++ report) := by
  rw [plan_eq, planned]
  simp only [reported]

theorem plan_eq_failed (planned : Build.plan recipe [] = ⟨.ok summary, announced, actions⟩)
    {problem : Problem}
    (refused : planReport settings request stamp summary actions = .error problem)
    (path : String) :
    plan settings request stamp path recipe =
      .failed (announcement request path recipe) problem := by
  rw [plan_eq, planned]
  simp only [refused]

/-- A plan that is complete is printed, unless it is to be JSON and not all of it is text. -/
theorem problem?_plan (planned : Build.plan recipe [] = ⟨.ok summary, announced, actions⟩)
    (settings : Settings) (request : BuildRequest) (stamp : Stamp) (path : String) :
    (plan settings request stamp path recipe).problem? =
      if request.json = true ∧ settings.cacheDir.isText = false then some .pathNotText
      else none := by
  by_cases crashes : request.json = true ∧ settings.cacheDir.isText = false
  · have refused : planReport settings request stamp summary actions = .error .pathNotText := by
      simp [planReport, crashes]
    rw [plan_eq_failed planned refused, if_pos crashes]
    rfl
  · have reported : ∃ report, planReport settings request stamp summary actions = .ok report := by
      rw [planReport]
      cases json : request.json with
      | false => cases request.quiet <;> exact ⟨_, rfl⟩
      | true => cases isText : settings.cacheDir.isText <;> simp_all
    rcases reported with ⟨report, reported⟩
    rw [plan_eq_succeeded planned reported, if_neg crashes]
    rfl

end Complete

/-! ## Lookups -/

/-- The files of a context lead a build to the text of its recipe. -/
structure LeadsTo (files : Files Id) (settings : Settings) (context : String)
    (file? : Option String) (path text : String) : Prop where
  context : ∃ directory, files.canonical context = .ok directory ∧
    files.isDirectory directory = true ∧ definitionPath directory file? settings = path
  present : files.present path = true
  readText : files.readText path = .ok text

/-- A lookup in files that answer at once. -/
theorem lookup_eq (files : Files Id) (settings : Settings) (context : String)
    (file? : Option String) :
    lookup files settings context file? =
      match files.canonical context with
      | .error error => .error (.badContext context error)
      | .ok directory =>
          let path := definitionPath directory file? settings
          if !files.isDirectory directory then .error (.contextNotDirectory directory)
          else if !files.present path then .error (.noDefinition path)
          else
            match files.readText path with
            | .error error =>
                .error (.reported (.file s!"Failed to read Forgefile at {path}: {error.message}"))
            | .ok text =>
                match Recipe.ofText text with
                | .error failure => .error (.reported failure)
                | .ok recipe => .ok (path, recipe) := by
  dsimp only [lookup, Recipe.load, bind, pure]
  cases files.canonical context with
  | error error => rfl
  | ok directory =>
      dsimp only
      cases files.isDirectory directory with
      | false => rfl
      | true =>
          cases files.present (definitionPath directory file? settings) with
          | false => rfl
          | true =>
              cases files.readText (definitionPath directory file? settings) with
              | error error => rfl
              | ok text => rfl

theorem LeadsTo.lookup_eq {files : Files Id} {settings : Settings} {context : String}
    {file? : Option String} {path text : String}
    (leads : LeadsTo files settings context file? path text) :
    lookup files settings context file? =
      match Recipe.ofText text with
      | .error failure => .error (.reported failure)
      | .ok recipe => .ok (path, recipe) := by
  rcases leads.context with ⟨directory, canonical, isDirectory, rfl⟩
  rw [CommandLine.lookup_eq, canonical]
  simp only [isDirectory, leads.present, leads.readText, Bool.not_true, Bool.false_eq_true,
    ↓reduceIte]

theorem LeadsTo.build_eq {files : Files Id} {settings : Settings} {request : BuildRequest}
    {path text : String} (leads : LeadsTo files settings request.path request.file? path text)
    (dryRun : request.dryRun = true) (stamp : Stamp) :
    build files settings request stamp =
      match Recipe.ofText text with
      | .error failure => .failed "" (.reported failure)
      | .ok recipe => plan settings request stamp path recipe := by
  rw [build_eq_answer, leads.lookup_eq]
  cases Recipe.ofText text with
  | error failure => rfl
  | ok recipe => simp only [BuildRequest.answer, dryRun, ↓reduceIte]

/-- A build finds no recipe but the one of the text that the files lead to. -/
theorem exists_leadsTo_of_lookup {files : Files Id} {settings : Settings} {context : String}
    {file? : Option String} {path : String} {recipe : Recipe}
    (found : lookup files settings context file? = .ok (path, recipe)) :
    ∃ text, LeadsTo files settings context file? path text ∧ Recipe.parse text = .ok recipe := by
  rw [lookup_eq] at found
  cases canonical : files.canonical context with
  | error error =>
      rw [canonical] at found
      cases found
  | ok directory =>
      simp only [canonical] at found
      cases isDirectory : files.isDirectory directory with
      | false =>
          rw [isDirectory] at found
          cases found
      | true =>
          cases present : files.present (definitionPath directory file? settings) with
          | false =>
              rw [isDirectory, present] at found
              cases found
          | true =>
              cases read : files.readText (definitionPath directory file? settings) with
              | error error =>
                  rw [isDirectory, present, read] at found
                  cases found
              | ok text =>
                  cases made : Recipe.ofText text with
                  | error failure =>
                      simp [isDirectory, present, read, made] at found
                  | ok other =>
                      simp only [isDirectory, present, read, made] at found
                      cases found
                      exact ⟨text, ⟨⟨directory, canonical, isDirectory, rfl⟩, present, read⟩,
                        Recipe.ofText_eq_ok_iff.mp made⟩

end GuestImage.CommandLine
