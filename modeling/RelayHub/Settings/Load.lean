import RelayHub.Settings.File
import RelayHub.Settings.Typed

/-! Loading the settings: the default file first, the environment over it, and the defaults for what
neither sets. -/
namespace RelayHub.Settings

structure Sources where
  files : List (String × Bytes) := []
  environment : List (String × String) := []

def Sources.tree (src : Sources) : Except Fault Tree := do
  let file ← match File.chosen? src.files with
    | some (kind, content) => File.entries kind content
    | none => .ok []
  return (Tree.empty.layer file).layer (Environment.entries src.environment)

def load (src : Sources) : Except Fault Settings := do ofTree (← src.tree)

end RelayHub.Settings
