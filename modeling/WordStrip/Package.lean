import WordStrip.Workspace

/-!
# The package

What comes with the program: a data directory with the settings that hold when no other data
directory is named.
-/

namespace WordStrip.Package

open WordStrip.Files

/-- The settings that come with the program. -/
def settingsText : String :=
  "\x7b\n" ++
  "  \"auto_correction_threshold\": \"modest\",\n" ++
  "  \"threshold_presets\": \x7b\n" ++
  "    \"off\": \"inf\",\n" ++
  "    \"modest\": 0.185,\n" ++
  "    \"aggressive\": 0.067,\n" ++
  "    \"very_aggressive\": \"-inf\"\n" ++
  "  \x7d,\n" ++
  "  \"max_auto_correct_with_space_length\": \x7b\n" ++
  "    \"de\": 12\n" ++
  "  \x7d,\n" ++
  "  \"debug_suggestions\": false\n" ++
  "\x7d\n"

/-- The file of these settings in the package's directory. -/
def settingsPath (package : Path) : Path :=
  (package.enter dataName).enter (fileName Workspace.settingsName)

/-- A file tree with nothing but the package. -/
def tree (package : Path) : Tree :=
  ({} : Tree).write (settingsPath package) { bytes := settingsText.toUTF8.toList, time := 0 }

/-- A workspace with nothing but the package. -/
def workspace (places : Surroundings) (environment : Environment) (readers : Readers) :
    Workspace where
  tree := tree places.package
  environment
  places
  readers

end WordStrip.Package
