/-!
# Working directories

How the value of a workdir command is taken against the working directory before it.
-/

namespace GuestImage.Workdir

/-- The working directory of a build before any command. -/
def initial : String := "/"

/-- Drop the slashes at the end of a path. -/
def dropTrailingSlashes (path : List Char) : List Char :=
  (path.reverse.dropWhile (· == '/')).reverse

/-- The directory that a value leads to: an absolute value replaces the directory, a relative one
is appended with exactly one slash between. -/
def resolve (directory value : String) : String :=
  match value.toList with
  | '/' :: _ => value
  | letters => String.ofList (dropTrailingSlashes directory.toList ++ '/' :: letters)

/-- The directory after a list of values. -/
def resolveAll (values : List String) : String :=
  values.foldl resolve initial

theorem resolveAll_concat (values : List String) (value : String) :
    resolveAll (values ++ [value]) = resolve (resolveAll values) value := by
  simp [resolveAll]

end GuestImage.Workdir
