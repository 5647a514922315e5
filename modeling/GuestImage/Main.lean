import GuestImage.CommandLine.Report
import Std.Time.DateTime.Timestamp

/-!
# The program

Runs a command line on the files, the clock and the outputs of the system.
-/

namespace GuestImage

/-- The cause behind an error of the system. Some calls negate its code. -/
def FileError.ofSystem (error : IO.Error) : FileError :=
  let named (code : UInt32) : FileError :=
    match min code (-code) with
    | 20 => .notDirectory
    | 21 => .isDirectory
    | 36 => .nameTooLong
    | _ => .other (toString error)
  match error with
  | .noFileOrDirectory .. => .notFound
  | .inappropriateType _ code _ => named code
  | .invalidArgument _ code _ => named code
  | _ => .other (toString error)

/-- The files of the system. A path is present if it leads somewhere. That a path leads nowhere is
known without the cause, which a try to read there tells. -/
def systemFiles : Files IO where
  readText path := do
    match ← EIO.toBaseIO (IO.FS.readBinFile path) with
    | .ok bytes => return textOfBytes bytes
    | .error error => return .error (.ofSystem error)
  canonical path := do
    match ← EIO.toBaseIO (IO.FS.realPath path) with
    | .ok real => return .ok real.toString
    | .error error =>
        match ← EIO.toBaseIO (IO.FS.readBinFile path) with
        | .ok _ => return .error (.ofSystem error)
        | .error cause => return .error (.ofSystem cause)
  isDirectory path := do
    match ← EIO.toBaseIO (IO.FS.realPath path) with
    | .ok real => real.isDir
    | .error _ => return false
  present path := return (← EIO.toBaseIO (IO.FS.realPath path)).isOk

/-- The home directory of the user. If it is shown with marks, its bytes tell whether they are for
bytes that are no text. -/
def systemHome? : IO (Option SystemPath) := do
  match ← IO.getEnv "HOME" with
  | none => return none
  | some shown =>
      if marked : '\ufffd' ∈ shown.toList then
        let environment ← IO.FS.readBinFile "/proc/self/environ"
        let entries := environment.toList.splitOn 0
        let isText := entries.contains ("HOME=" ++ shown).toUTF8.toList
        return some ⟨shown, isText, fun _ => marked⟩
      else return some (.ofString shown)

/-- A stamp for a build that is planned now. -/
def CommandLine.Stamp.now : IO Stamp := do
  let bytes ← IO.getRandomBytes 16
  let moment ← Std.Time.Timestamp.now
  let time := timeText moment.toNanosecondsSinceUnixEpoch.toInt.toNat
  return ⟨buildIdOf bytes.toList, time, time⟩

end GuestImage

/-- Run a command line and end with its exit code. -/
def main (words : List String) : IO UInt32 := do
  let home? ← GuestImage.systemHome?
  let stamp ← GuestImage.CommandLine.Stamp.now
  let report ← GuestImage.CommandLine.run GuestImage.systemFiles home? stamp words
  IO.print report.printed
  IO.eprint report.complaint
  return report.exitCode
