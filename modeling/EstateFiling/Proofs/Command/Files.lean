import EstateFiling.Command.FileTree
import EstateFiling.Proofs.Failure.Chain

/-!
# Files after a command

A command writes at most one file.  If it writes none, the tree of files is as it was
(`FileTree.after_of_written_eq_none`).  If it writes one that can be written, the file reads
back (`FileTree.read_write`), and every other file is as it was
(`FileTree.lookup_write_of_ne`).

The path of the file leads to the same place before and after: the places on the way are
directories, and the file is at none of them.
-/

namespace EstateFiling.FileTree

variable {t : FileTree} {path text : String} {place : Location}

theorem after_of_written_eq_none {o : Outcome} (h : o.written = none) : t.after o = t := by
  unfold after
  rw [h]

theorem after_of_written_eq_some {o : Outcome} (h : o.written = some (path, text)) :
    t.after o = t.write path text := by
  unfold after
  rw [h]

/-! ## Following a path after a file is written -/

/-- The tree with one more file, or another text in it. -/
def withFile (t : FileTree) (place : Location) (text : String) : FileTree :=
  { t with files := (place, Text.toUtf8 text) :: t.files }

theorem write_eq (h : t.target path = .ok place) : t.write path text = t.withFile place text := by
  unfold write
  rw [h]
  rfl

theorem isDirectory_withFile {here : Location} (h : t.isDirectory here = true) :
    (t.withFile place text).isDirectory here = true := by
  unfold isDirectory at h ⊢
  rw [Bool.or_eq_true] at h ⊢
  exact h.imp_right fun inside => by simp [withFile, inside]

theorem lookup_withFile_of_ne {other : Location} (h : other ≠ place) :
    (t.withFile place text).files.lookup other = t.files.lookup other := by
  have differs : (other == place) = false := beq_eq_false_iff_ne.mpr h
  simp [withFile, List.lookup_cons, differs]

/-- Where a directory is entered, it still is. -/
theorem enter_withFile (free : t.isDirectory place = false) {here next : Location} {name : String}
    (h : t.enter here name = .ok next) : (t.withFile place text).enter here name = .ok next := by
  unfold enter at h ⊢
  by_cases file : t.isFile here = true
  · simp [file] at h
  by_cases directory : t.isDirectory here = true
  · have other : here ≠ place := by
      rintro rfl
      rw [free] at directory
      cases directory
    have same : (t.withFile place text).isFile here = t.isFile here := by
      unfold isFile
      rw [lookup_withFile_of_ne other]
    rw [same, isDirectory_withFile directory]
    rwa [directory] at h
  · simp [file, directory] at h

theorem foldlM_enter_withFile (free : t.isDirectory place = false) {names : List String}
    {here there : Location} (h : names.foldlM t.enter here = .ok there) :
    names.foldlM (t.withFile place text).enter here = .ok there := by
  induction names generalizing here with
  | nil => exact h
  | cons name names ih =>
    rw [List.foldlM_cons] at h ⊢
    cases entered : t.enter here name with
    | error fault =>
      rw [entered] at h
      cases h
    | ok next =>
      rw [entered] at h
      rw [enter_withFile free entered]
      exact ih h

theorem follow_withFile (free : t.isDirectory place = false) {there : Location}
    (h : t.follow path = .ok there) : (t.withFile place text).follow path = .ok there := by
  unfold follow at h ⊢
  split at h
  · cases h
  · rename_i long
    rw [if_neg long]
    exact foldlM_enter_withFile free h

/-- A file is written at the place that its path leads to, where no directory stands. -/
theorem follow_of_target (h : t.target path = .ok place) :
    t.follow path = .ok place ∧ t.isDirectory place = false := by
  unfold target at h
  split at h
  · -- a path with a slash at its end leads to no file
    dsimp only at h
    split at h
    all_goals
      obtain ⟨_, _, directory⟩ := exists_of_bind_ok h
      cases directory
  · obtain ⟨there, follow, free⟩ := exists_of_bind_ok h
    split at free
    · cases free
    · cases free
      exact ⟨follow, Bool.eq_false_iff.mpr ‹_›⟩

theorem exists_target (h : t.writeFault path = none) : ∃ place, t.target path = .ok place := by
  unfold writeFault at h
  split at h
  · exact ⟨_, ‹_›⟩
  · cases h

/-! ## Reading and writing -/

/-- A file that can be written reads back. -/
theorem read_write (h : t.writeFault path = none) :
    (t.write path text).read path = .ok (Text.toUtf8 text) := by
  obtain ⟨place, target⟩ := exists_target h
  obtain ⟨follow, free⟩ := follow_of_target target
  rw [write_eq target, read, follow_withFile free follow]
  simp [withFile, bind, Except.bind]

/-- Every other file is as it was. -/
theorem lookup_write_of_ne {other : Location} (h : t.target path ≠ .ok other) :
    (t.write path text).files.lookup other = t.files.lookup other := by
  unfold write
  split
  · rename_i place target
    exact lookup_withFile_of_ne fun same => h (same ▸ target)
  · rfl

end EstateFiling.FileTree
