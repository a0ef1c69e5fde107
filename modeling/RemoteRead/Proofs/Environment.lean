import RemoteRead.Environment
import RemoteRead.Text.Utf8

/-!
# Environments with given files
-/

namespace RemoteRead.Environment

/-- What is around in the root directory: the given variables and files. -/
def holding (assigned : List (Text × Text)) (files : List (Text × Text)) : Environment where
  workingDirectory := ⟨"/", []⟩
  home := ⟨"/", []⟩
  assigned := assigned
  files p := (files.find? fun f => Path.ofText f.1 = p).map fun f =>
    .file (f.2.flatMap Text.Utf8.octets)

variable {assigned files : List (Text × Text)} {p : Path} {name t : Text}

/-- A path leads to the first file of its name. -/
theorem holding_file
    (h : files.find? (fun f => Path.ofText f.1 = p.resolved ⟨"/", []⟩) = some (name, t)) :
    Environment.entry? (holding assigned files) p = some (.file (t.flatMap Text.Utf8.octets)) := by
  simp only [Environment.entry?, holding, h]
  rfl

end RemoteRead.Environment
