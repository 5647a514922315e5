import GuestImage.Build.Run
import GuestImage.CommandLine.Problem
import GuestImage.CommandLine.Stamp
import GuestImage.Json.Writer
import GuestImage.Recipe.Load
import GuestImage.Settings.Basic

/-!
# Planning a build

Finds the recipe of a build context and prints the plan of a dry run: step by step with a summary,
as JSON, or only the key of the last step. No backend but the plan is at hand, so every other build
fails.
-/

namespace GuestImage.CommandLine

/-- The path of the recipe: the one that was asked for or configured, below the context. -/
def definitionPath (context : String) (file? : Option String) (settings : Settings) : String :=
  Path.join context (file?.getD settings.definitionFile)

/-- An action as a JSON object, with its fields sorted. -/
def actionJson : Action → Json.Value
  | .fetchOrigin image =>
      .object [("action", .string "fetch_origin"), ("distribution", .string image.distribution),
        ("release", .string image.release)]
  | .run command workdir =>
      .object [("action", .string "run"), ("command", .string command),
        ("workdir", .string workdir)]
  | .copy spec workdir =>
      .object [("action", .string "copy"), ("spec", .string spec), ("workdir", .string workdir)]
  | .setWorkdir path => .object [("action", .string "set_workdir"), ("path", .string path)]
  | .setEntrypoint command =>
      .object [("action", .string "set_entrypoint"), ("command", .string command)]

/-- A base image as a JSON object. -/
def imageJson (image : BaseImage) : Json.Value :=
  .object [("distribution", .string image.distribution), ("release", .string image.release)]

/-- A summary as a JSON object, with its fields sorted. -/
def summaryJson (stamp : Stamp) (summary : Build.Summary) : Json.Value :=
  .object [("build_id", .string stamp.buildId), ("cache_key", .ofString? summary.cacheKey?),
    ("entrypoint", .ofString? summary.entrypoint?), ("finished_at", .string stamp.finishedAt),
    ("origin", (summary.origin?.map imageJson).getD .null),
    ("started_at", .string stamp.startedAt), ("steps", .number summary.steps),
    ("workdir", .string summary.workdir)]

/-- The directory that caches the last step. -/
def cachePath? (settings : Settings) (summary : Build.Summary) : Option String :=
  summary.cacheKey?.map fun key => settings.stepCachePath key

/-- A plan as a JSON object, with its fields sorted. -/
def planJson (settings : Settings) (stamp : Stamp) (summary : Build.Summary)
    (actions : List Action) : Json.Value :=
  .object [("actions", .array (actions.map actionJson)),
    ("cache_dir", .string settings.cacheDir),
    ("cache_path", .ofString? (cachePath? settings summary)),
    ("disk_size_mb", .number settings.diskSizeMb),
    ("summary", summaryJson stamp summary)]

/-- The lines that close a plan for people. -/
def planLines (settings : Settings) (summary : Build.Summary) : List String :=
  s!"Planned {summary.steps} steps ({settings.diskSizeMb} MB disk)\n" ::
    (summary.cacheKey?.toList.map fun key => s!"Cache key: {StepKey.short key}\n") ++
    ((cachePath? settings summary).toList.map fun path => s!"Cache path: {path}\n")

/-- What is printed once a plan is complete. JSON is all text, so it is not printed if the cache
directory is none. -/
def planReport (settings : Settings) (request : BuildRequest) (stamp : Stamp)
    (summary : Build.Summary) (actions : List Action) : Except Problem String :=
  if request.json then
    if settings.cacheDir.isText then
      .ok ((planJson settings stamp summary actions).text ++ "\n")
    else .error .pathNotText
  else if request.quiet then .ok (String.join (summary.cacheKey?.toList.map (· ++ "\n")))
  else .ok (String.join (planLines settings summary))

/-- Plan a recipe and print the plan. -/
def plan (settings : Settings) (request : BuildRequest) (stamp : Stamp) (path : String)
    (recipe : Recipe) : Outcome :=
  let quiet := request.quiet || request.json
  let build := Build.plan recipe []
  let announced :=
    (if quiet then "" else s!"Planning build from {path}\n") ++ build.printed quiet
  match build.result with
  | .error failure => .failed announced (.reported failure)
  | .ok summary =>
      match planReport settings request stamp summary build.state with
      | .error problem => .failed announced problem
      | .ok report => .succeeded (announced ++ report)

/-- Build the image of a context. -/
def build {m : Type → Type} [Monad m] (files : Files m) (settings : Settings)
    (request : BuildRequest) (stamp : Stamp) : m Outcome := do
  match ← files.canonical request.path with
  | .error error => return .failed "" (.badContext request.path error)
  | .ok context =>
      if !(← files.isDirectory context) then
        return .failed "" (.contextNotDirectory context)
      let path := definitionPath context request.file? settings
      if !(← files.present path) then
        return .failed "" (.noDefinition path)
      match ← Recipe.load files path with
      | .error failure => return .failed "" (.reported failure)
      | .ok recipe =>
          if request.dryRun then return plan settings request stamp path recipe
          else return .failed "" .noBackend

end GuestImage.CommandLine
