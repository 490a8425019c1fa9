import Componentry.Settings.Layers

/-!
# Managers of settings

A manager has a base of its own and merges settings over it as often as it is asked to. Each time it
merges into a copy, and what it gives away shares nothing with its base.
-/

namespace Componentry.Settings

structure Manager where
  base : Entries Value

/-- What a manager is asked for: settings from a file and from overrides, as the files are then. -/
structure Request where
  files : FileTree
  file : Option Path
  overrides : Value

namespace Manager

def fresh : Manager := ⟨Settings.base⟩

/-- The entries of a manager's base with those of a file and those of overrides over them. -/
def merged (m : Manager) (r : Request) : Result (Entries Value) := do
  let fromFile ← match r.file with
    | none => pure []
    | some p => readFile r.files p
  let merged := m.base.update fromFile
  if r.overrides.truthy then return merged.update (← r.overrides.updates) else return merged

/-- The settings that are asked for, and the manager afterwards. -/
def get (m : Manager) (r : Request) : Result Settings × Manager :=
  (m.merged r >>= ofEntries, m)

/-- What a manager gives for requests that it gets one after the other. -/
def answers (m : Manager) : List Request → List (Result Settings)
  | [] => []
  | r :: rs => (m.get r).1 :: (m.get r).2.answers rs

end Manager

end Componentry.Settings
