import TaskAudit.Folder
import TaskAudit.Proofs.Result

/-!
# Reading from a folder

Finding the place that a path leads to can fail in the links on the way, and reading the file there
can fail in its bytes. A file that holds a text in UTF-8 is read as that text.
-/

namespace TaskAudit

theorem PathName.hasNul_eq_false_iff {path : PathName} :
    path.hasNul = false ↔ ∀ name ∈ path.names, '\x00' ∉ name.toList := by
  simp [hasNul]

namespace Folder

variable {folder : Folder} {path place : PathName}

theorem text_of_read? {text : String} (hpath : path.hasNul = false)
    (hfile : folder.read? path = some text.toUTF8) :
    folder.text path = .ok (Text.unified text) := by
  have hdecode : String.fromUTF8? text.toUTF8 = some text := dif_pos text.isValidUTF8
  rw [Folder.text, if_neg (by simp [hpath]), hfile]
  simp only [hdecode]

end Folder

end TaskAudit
