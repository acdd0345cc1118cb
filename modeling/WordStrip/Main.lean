import Std.Time
import WordStrip.CommandLine
import WordStrip.Package

/-!
# The program

Reads the environment and the one file that settings may come from, or how far the way to it goes,
runs the command on them, and writes what it leaves. All decisions are the command's.
-/

namespace WordStrip.Program

open WordStrip.Files

/-- The variable with the topics of the trace. -/
def topicsVariable : String := "SUGGEST_DEBUG_TOPICS"

/-- The variables that are read. -/
def variableNames : List String := homeVariable :: dataVariables

/-- The variables that are set. -/
def readEnvironment : IO Environment :=
  variableNames.filterMapM fun name => return (← IO.getEnv name).map (name, ·)

/-- The directories that texts are read from. -/
def readPlaces : IO Surroundings := do
  let current := Path.root.resolve (toString (← IO.currentDir))
  let package := Path.root.resolve (toString (← IO.appDir))
  return { current, package }

/-- Whether a directory stands at a path. -/
def isDirectory (p : Path) : IO Bool := do
  try
    let _ ← IO.FS.realPath (p.text ++ "/.")
    return true
  catch _ => return false

/-- The workspace with the file of the settings, or without it the directories on the way to it. -/
def withSettings (w : Workspace) : IO Workspace := do
  match w.locate (Workspace.settingsCall Workspace.settingsName none) with
  | .error _ => return w
  | .ok path =>
    try
      let bytes ← IO.FS.readBinFile path.text
      return { w with tree := w.tree.write path { bytes := bytes.toList, time := 0 } }
    catch _ =>
      let directories ← path.upwards.filterM isDirectory
      return { w with tree := directories.foldl Tree.makeDirectory w.tree }

/-- The time as records show it. -/
def timeStamp : IO String := do
  return (← Std.Time.PlainDateTime.now).format "uuuu-MM-dd HH:mm:ss"

end WordStrip.Program

open WordStrip in
/-- Runs the command on the arguments. -/
def main (arguments : List String) : IO UInt32 := do
  let places ← Program.readPlaces
  let w ← Program.withSettings (Package.workspace places (← Program.readEnvironment) .absent)
  let topics := Topics.parse ((← IO.getEnv Program.topicsVariable).getD "")
  let time ← Program.timeStamp
  -- what a run leaves is worked out first and written then, at one time
  let output := CommandLine.run w topics (fun _ => time) arguments
  (← IO.getStdout).putStr output.standard
  (← IO.getStderr).putStr output.error
  return output.exit.toUInt32
