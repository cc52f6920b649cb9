import Codebook.FileSystem.Access
import Codebook.Proofs.Outcome

/-!
# What was written is read

Creating a directory or writing a file takes no directory away, so a path that led to a name in a
directory leads there afterwards as well. What is read at the path of a file that was just written
is therefore what was written, however the path is spelled and whatever it names on its way.
-/

namespace Codebook.FileSystem

variable {files files' : FileSystem}

/-- Every directory of the one file system is a directory of the other. -/
def KeepsDirectories (files files' : FileSystem) : Prop :=
  ∀ location, files.at? location = some .directory → files'.at? location = some .directory

/-- The same directory in a file system that keeps it. -/
def Directory.carry (h : files.KeepsDirectories files') (dir : files.Directory) :
    files'.Directory :=
  ⟨dir.val, h dir.val dir.property⟩

theorem keepsDirectories_put (dir : files.Directory) (name : Text) (node : Node)
    (hfree : files.at? (dir.child name) ≠ some .directory) :
    files.KeepsDirectories (files.put dir name node hfree) := by
  intro location hlocation
  rw [at?_put]
  split
  · next heq => exact absurd (heq ▸ hlocation) hfree
  · exact hlocation

/-- A name that leads to a directory. -/
theorem enter_directory {dir : files.Directory} {segment : Text} (hhere : segment ≠ Path.here)
    (habove : segment ≠ Path.above) (hlength : Path.isNameTooLong segment = false)
    (h : files.at? (dir.child segment) = some .directory) :
    files.enter dir segment = .ok ⟨dir.child segment, h⟩ := by
  unfold enter
  rw [if_neg hhere, if_neg habove, if_neg (by simp [hlength])]
  split
  · next hnone => exact nomatch hnone.symm.trans h
  · next hfile => exact nomatch hfile.symm.trans h
  · rfl

theorem enter_carry (h : files.KeepsDirectories files') {dir next : files.Directory}
    {segment : Text} (henter : files.enter dir segment = .ok next) :
    files'.enter (dir.carry h) segment = .ok (next.carry h) := by
  -- `.` and `..` need no directory; any other segment has found one
  by_cases hhere : segment = Path.here
  · unfold enter at henter ⊢
    rw [if_pos hhere] at henter ⊢
    obtain rfl := Except.ok.inj henter
    rfl
  by_cases habove : segment = Path.above
  · unfold enter at henter ⊢
    rw [if_neg hhere, if_pos habove] at henter ⊢
    obtain rfl := Except.ok.inj henter
    rfl
  unfold enter at henter
  rw [if_neg hhere, if_neg habove] at henter
  split at henter
  · exact nomatch henter
  next hlength =>
    split at henter
    · exact nomatch henter
    · exact nomatch henter
    next hdir =>
      obtain rfl := Except.ok.inj henter
      exact enter_directory hhere habove (by simpa using hlength) (h _ hdir)

theorem locate_carry (h : files.KeepsDirectories files') {dir parent : files.Directory}
    {name : Text} {segments : List Text}
    (hlocate : files.locate dir segments = .ok (.entry parent name)) :
    files'.locate (dir.carry h) segments = .ok (.entry (parent.carry h) name) := by
  induction segments generalizing dir with
  | nil => exact nomatch hlocate
  | cons segment rest ih =>
    cases rest with
    | nil =>
      simp only [locate] at hlocate ⊢
      split at hlocate
      · next hname =>
        obtain ⟨rfl, rfl⟩ := Target.entry.inj (Except.ok.inj hlocate)
        rw [if_pos hname]
      · exact nomatch hlocate
    | cons next rest =>
      simp only [locate] at hlocate ⊢
      -- a directory that could be entered still stands
      obtain ⟨inner, henter, hrest⟩ := Except.bind_eq_ok_iff.1 hlocate
      rw [enter_carry h henter]
      exact ih hrest

theorem target_carry (h : files.KeepsDirectories files') {path : Text} {parent : files.Directory}
    {name : Text} (htarget : files.target path = .ok (.entry parent name)) :
    files'.target path = .ok (.entry (parent.carry h) name) := by
  obtain ⟨_, hcheck, hlocate⟩ := Except.bind_eq_ok_iff.1 htarget
  exact Except.bind_eq_ok_iff.2 ⟨_, hcheck, locate_carry h hlocate⟩

/-- Where a file was written, and what stands there now. -/
theorem write_eq_ok {path : Text} {content : Bytes} (h : files.write path content = .ok files') :
    ∃ (dir : files.Directory) (name : Text) (hfree : files.at? (dir.child name) ≠ some .directory),
      files.target path = .ok (.entry dir name) ∧ Path.endsInSlash path = false ∧
        Path.isNameTooLong name = false ∧ files' = files.put dir name (.file content) hfree := by
  obtain ⟨target, htarget, h⟩ := Except.bind_eq_ok_iff.1 h
  cases target with
  | standing => exact nomatch h
  | entry dir name =>
    dsimp only at h
    -- a slash at the end, a name that is too long and a directory are refused in turn
    split at h
    · exact nomatch h
    next hslash =>
      split at h
      · exact nomatch h
      next hlength =>
        split at h
        · exact nomatch h
        next hfree =>
          exact ⟨dir, name, hfree, htarget, by simpa using hslash, by simpa using hlength,
            (Except.ok.inj h).symm⟩

/-- **What was written is read.** -/
theorem read_write {path : Text} {content : Bytes} (h : files.write path content = .ok files') :
    files'.read path = .ok content := by
  obtain ⟨dir, name, hfree, htarget, hslash, hlength, rfl⟩ := write_eq_ok h
  have hkeeps := keepsDirectories_put dir name (.file content) hfree
  have hfile : (files.put dir name (.file content) hfree).at? ((dir.carry hkeeps).child name) =
      some (.file content) := by
    rw [at?_put]
    exact if_pos rfl
  have hnode : (files.put dir name (.file content) hfree).node path = .ok (.file content) := by
    refine Except.bind_eq_ok_iff.2 ⟨_, target_carry hkeeps htarget, ?_⟩
    simp only [hlength, hfile, hslash, Bool.false_eq_true, if_false]
  exact Except.bind_eq_ok_iff.2 ⟨_, hnode, rfl⟩

end Codebook.FileSystem
