import Codebook.Proofs.FileSystem.Creation
import Codebook.Proofs.Text.Lines

/-!
# Faults of files in words

Whatever is asked of a file system, its faults are among those that have words of their own, and
these words stand on one line. So does the path of the directory that a fault is reported with,
where it has to be created for another path, if that path does.
-/

namespace Codebook

open Text

/-! ## What can go wrong -/

/-- The fault has words of its own. -/
def FileFault.IsKnown : FileFault → Prop
  | .other _ => False
  | _ => True

theorem FileFault.IsKnown.oneLine {fault : FileFault} (h : fault.IsKnown) :
    OneLine fault.message := by
  cases fault with
  | other report => exact h.elim
  | _ => exact oneLine_literal (by decide)

namespace FileSystem

open Except

variable (files : FileSystem)

theorem fails_check (path : Text) : (Path.check path).Fails FileFault.IsKnown := by
  unfold Path.check
  split
  · exact fails_error.2 trivial
  · split
    · exact fails_error.2 trivial
    · split
      · exact fails_error.2 trivial
      · exact fails_ok

theorem fails_enter (dir : files.Directory) (segment : Text) :
    (files.enter dir segment).Fails FileFault.IsKnown := by
  unfold enter
  split
  · exact fails_ok
  · split
    · exact fails_ok
    · split
      · exact fails_error.2 trivial
      · split
        · exact fails_error.2 trivial
        · exact fails_error.2 trivial
        · exact fails_ok

theorem fails_locate (dir : files.Directory) (segments : List Text) :
    (files.locate dir segments).Fails FileFault.IsKnown := by
  induction segments generalizing dir with
  | nil => exact fails_ok
  | cons segment rest ih =>
    cases rest with
    | nil =>
      unfold locate
      split
      · exact fails_ok
      · exact fails_ok
    | cons next rest => exact (files.fails_enter dir segment).bind fun inner => ih inner

theorem fails_target (path : Text) : (files.target path).Fails FileFault.IsKnown :=
  (fails_check path).bind fun _ => files.fails_locate _ _

theorem fails_node (path : Text) : (files.node path).Fails FileFault.IsKnown := by
  refine (files.fails_target path).bind fun target => ?_
  cases target with
  | standing => exact fails_ok
  | entry dir name =>
    dsimp only
    split
    · exact fails_error.2 trivial
    · split
      · exact fails_error.2 trivial
      · exact fails_ok
      · split
        · exact fails_error.2 trivial
        · exact fails_ok

theorem fails_read (path : Text) : (files.read path).Fails FileFault.IsKnown := by
  refine (files.fails_node path).bind fun node => ?_
  cases node with
  | directory => exact fails_error.2 trivial
  | file content => exact fails_ok

theorem fails_makeDirectory (path : Text) :
    (files.makeDirectory path).Fails FileFault.IsKnown := by
  refine (files.fails_target path).bind fun target => ?_
  cases target with
  | standing => exact fails_error.2 trivial
  | entry dir name =>
    dsimp only
    split
    · exact fails_error.2 trivial
    · split
      · exact fails_error.2 trivial
      · exact fails_ok

theorem fails_write (path : Text) (content : Bytes) :
    (files.write path content).Fails FileFault.IsKnown := by
  refine (files.fails_target path).bind fun target => ?_
  cases target with
  | standing => exact fails_error.2 trivial
  | entry dir name =>
    dsimp only
    split
    · exact fails_error.2 trivial
    · split
      · exact fails_error.2 trivial
      · split
        · exact fails_error.2 trivial
        · exact fails_ok

theorem fails_attempt (path : Text) : (files.attempt path).1.Fails FileFault.IsKnown := by
  have hmade := files.fails_makeDirectory path
  unfold attempt
  split
  · exact fails_ok
  · next fault herror =>
    split
    · exact fails_ok
    · exact fails_error.2 (hmade fault herror)

theorem fails_created (paths : List Text) : (files.created paths).1.Fails FileFault.IsKnown := by
  induction paths with
  | nil => exact fails_ok
  | cons path above ih =>
    unfold created
    split
    · generalize files.created above = result at ih ⊢
      rcases result with ⟨_ | _, files'⟩
      · exact ih
      · exact files'.fails_attempt path
    · exact files.fails_attempt path

end FileSystem

/-! ## Where it goes wrong -/

namespace Path

/-- A directory above a path is spelled with what the path is spelled with, or it is the root. -/
theorem oneLine_nearest_parent {path : Text} (hpath : path.OneLine) :
    OneLine ((parents path).headD []) := by
  cases hparents : parents path with
  | nil => exact oneLine_nil
  | cons parent above =>
    rcases inFront_of_mem_parents (hparents ▸ List.mem_cons_self) with ⟨rest, rfl⟩ | hroot
    · exact (oneLine_append.1 hpath).1
    · rw [List.headD_cons, hroot]
      decide

end Path

end Codebook
