import FarmRegistry.Admin.Run
import FarmRegistry.Json.Reader
import FarmRegistry.Wire.Script

namespace FarmRegistry.Admin

def variableNames : List String :=
  Settings.fields.map fun f => Settings.variableStart ++ String.ofList (f.toList.map Char.toUpper)

def answerOf (line : String) : Sql.Answer :=
  match Json.read line with
  | none => .nothing
  | some j => ((Sql.Answer.ofJson j).toOption).getD .nothing

partial def readLines (input : IO.FS.Stream) (lines : List String) : IO (List String) := do
  let line ← input.getLine
  if line.isEmpty then return lines.reverse else readLines input (line :: lines)

def readVariables : IO (List (String × String)) := do
  let found ← variableNames.mapM fun name => do return (← IO.getEnv name).map (name, ·)
  return found.filterMap id

def readSettingsFile : IO (Option String) := do
  match ← IO.getEnv (Settings.variableStart ++ "CONFIG_PATH") with
  | none => return none
  | some path => try return some (← IO.FS.readFile path) catch _ => return none

end FarmRegistry.Admin

open FarmRegistry Admin

def main (words : List String) : IO UInt32 := do
  let answers := (← readLines (← IO.getStdin) []).map answerOf
  let env : Surroundings Sql.Script :=
    ⟨← readVariables, ← readSettingsFile, fun _ => .ok Sql.Script.database, fun _ => ⟨0, 0⟩⟩
  let (exit, _) := env.run words (.ofAnswers answers)
  exit.out.forM IO.println
  exit.err.forM IO.eprintln
  return exit.status.toUInt32
