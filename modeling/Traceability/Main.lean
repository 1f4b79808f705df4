/-
  Traceability.Main — the program: the commands in the real world.
-/

import Std.Time.DateTime
import Traceability.CommandLine

namespace Traceability.CommandLine

/-- A text from an action, or nothing if it fails. -/
def attempt {α : Type} (act : IO α) : IO (Option α) := do
  try return some (← act)
  catch _ => return none

def instantNow : IO Instant := do
  let t := Std.Time.PlainDateTime.ofWallTime ((← Std.Time.Timestamp.now).toWallTime .zero)
  return {
    date := ⟨t.date.year, t.date.month.val.toNat, t.date.day.val.toNat⟩
    hour := t.time.hour.val.toNat, minute := t.time.minute.val.toNat, second := t.time.second.val.toNat
    nanosecond := t.time.nanosecond.val.toNat }

/-- The directory above a file. -/
def directoryOf (file : String) : Option String :=
  match file.splitOn "/" with
  | [] | [_] => none
  | parts => some (String.intercalate "/" parts.dropLast)

def realWorld : World IO where
  read file := attempt (IO.FS.readFile file)
  isPresent file := return (← attempt (IO.FS.realPath file)).isSome
  write file text := return (← attempt (IO.FS.writeFile file text)).isSome
  writeInto file text := do
    if let some d := directoryOf file then let _ ← attempt (IO.FS.createDirAll d)
    return (← attempt (IO.FS.writeFile file text)).isSome
  print text := do
    let out ← IO.getStdout
    out.putStr text
    out.flush
  note text := do
    let out ← IO.getStderr
    out.putStr text
    out.flush
  now := instantNow

def environment : IO Environment := do
  let home := (← IO.getEnv "HOME").map (· ++ "/.config")
  let directory := ((← IO.getEnv "XDG_CONFIG_HOME").filter (·.startsWith "/")).or home
  return { settings := ← IO.getEnv "OREQM_SETTINGS_PATH", directory }

end Traceability.CommandLine

open Traceability.CommandLine in
def main (args : List String) : IO UInt32 := do
  return (← run realWorld (← environment) args).toUInt32
