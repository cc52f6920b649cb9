import Codebook.Proofs.FileSystem.ReadBack

/-!
# What creating directories changes

The directories above a path are created one after the other, and each attempt puts at most one new
directory where nothing was. The path of that directory is the text in front of one of the slashes
of the path that was asked for. `GrowsAlong` says just this of two file systems, and it goes along
with one step after the other: what a path led to in between is still what it leads to at the end,
because no directory is taken away.

Writing a file adds one thing more, the file itself. So where a file was written nothing else is
different but for new directories on the way to it.
-/

namespace Codebook

/-- A path that another one goes on from with a slash. -/
def Path.InFront (front path : Text) : Prop := ∃ rest, path = front ++ '/' :: rest

namespace FileSystem

variable {files files' files'' : FileSystem}

/-- A path leads to a location: to a name in a directory, whether or not the name is free. -/
def Leads (files : FileSystem) (path : Text) (location : Location) : Prop :=
  ∃ (dir : files.Directory) (name : Text),
    files.target path = .ok (.entry dir name) ∧ dir.child name = location

/-- A path leads where it led, as long as no directory is taken away. -/
theorem Leads.carry (h : files.KeepsDirectories files') {path : Text} {location : Location}
    (hleads : files.Leads path location) : files'.Leads path location := by
  obtain ⟨dir, name, htarget, rfl⟩ := hleads
  exact ⟨dir.carry h, name, target_carry h htarget, rfl⟩

/-! ## Growing along a path -/

/-- A location has a new directory, which the path in front of some slash names. -/
def NewDirectory (path : Text) (files files' : FileSystem) (location : Location) : Prop :=
  files.at? location = none ∧ files'.at? location = some .directory ∧
    ∃ front, Path.InFront front path ∧ files'.Leads front location

/-- There is nothing new but directories, and a path names each of them in front of a slash. What
was there is as it was. -/
def GrowsAlong (path : Text) (files files' : FileSystem) : Prop :=
  ∀ location, files'.at? location = files.at? location ∨ NewDirectory path files files' location

theorem GrowsAlong.refl (path : Text) (files : FileSystem) : GrowsAlong path files files :=
  fun _ => .inl rfl

theorem GrowsAlong.keepsDirectories {path : Text} (h : GrowsAlong path files files') :
    files.KeepsDirectories files' := by
  intro location hdirectory
  rcases h location with hsame | hnew
  · exact hsame.trans hdirectory
  · exact hnew.2.1

theorem GrowsAlong.trans {path : Text} (h : GrowsAlong path files files')
    (h' : GrowsAlong path files' files'') : GrowsAlong path files files'' := by
  intro location
  rcases h' location with hsame' | ⟨hfree, hdirectory, hnamed⟩
  · rcases h location with hsame | ⟨hfree, hdirectory, front, hfront, hleads⟩
    · exact .inl (hsame'.trans hsame)
    · exact .inr ⟨hfree, hsame'.trans hdirectory, front, hfront, hleads.carry h'.keepsDirectories⟩
  · rcases h location with hsame | ⟨_, hdirectory', _⟩
    · exact .inr ⟨hsame.symm.trans hfree, hdirectory, hnamed⟩
    · -- a directory that is there already is not created
      exact nomatch hfree.symm.trans hdirectory'

/-! ## One directory -/

/-- Where a directory was created, and that nothing was there. -/
theorem makeDirectory_eq_ok {path : Text} (h : files.makeDirectory path = .ok files') :
    ∃ (dir : files.Directory) (name : Text) (hfree : files.at? (dir.child name) = none),
      files.target path = .ok (.entry dir name) ∧
        files' = files.put dir name .directory (by simp [hfree]) := by
  obtain ⟨target, htarget, h⟩ := Except.bind_eq_ok_iff.1 h
  cases target with
  | standing => cases h
  | entry dir name =>
    dsimp only at h
    split at h
    · cases h
    · split at h
      · cases h
      next hfree => exact ⟨dir, name, hfree, htarget, (Except.ok.inj h).symm⟩

theorem growsAlong_makeDirectory {front path : Text} (hfront : Path.InFront front path)
    (h : files.makeDirectory front = .ok files') : GrowsAlong path files files' := by
  obtain ⟨dir, name, hfree, htarget, rfl⟩ := makeDirectory_eq_ok h
  have hkeeps := keepsDirectories_put dir name .directory (by simp [hfree])
  intro location
  rw [at?_put]
  split
  · next hlocation =>
    subst hlocation
    refine .inr ⟨hfree, ?_, front, hfront, dir.carry hkeeps, name, target_carry hkeeps htarget, rfl⟩
    rw [at?_put, if_pos rfl]
  · exact .inl rfl

/-! ## All of them -/

/-- What an attempt to create a directory comes to, and the files afterwards. That it failed does
not matter where a directory is there. -/
def attempt (files : FileSystem) (path : Text) : Except FileFault Unit × FileSystem :=
  match files.makeDirectory path with
  | .ok files' => (.ok (), files')
  | .error fault => (if files.isDirectory path then .ok () else .error fault, files)

/-- What creating the first of some directories comes to, each of which lies in the next, and the
files afterwards. -/
def created (files : FileSystem) : List Text → Except FileFault Unit × FileSystem
  | [] => (.ok (), files)
  | path :: above =>
    match files.makeDirectory path with
    | .error .notFound =>
      match files.created above with
      | (.ok _, files') => files'.attempt path
      | failed => failed
    | _ => files.attempt path

theorem growsAlong_attempt {front path : Text} (hfront : Path.InFront front path ∨ front = ['/']) :
    GrowsAlong path files (files.attempt front).2 := by
  unfold attempt
  split
  · next hmade =>
    rcases hfront with hfront | rfl
    · exact growsAlong_makeDirectory hfront hmade
    · -- the root is there already
      exact nomatch hmade
  · exact .refl path files

/-- **Creating directories only adds directories that were asked for**, even where it fails. -/
theorem growsAlong_created {path : Text} (paths : List Text)
    (hpaths : ∀ front ∈ paths, Path.InFront front path ∨ front = ['/']) :
    GrowsAlong path files (files.created paths).2 := by
  induction paths with
  | nil => exact .refl path files
  | cons front above ih =>
    have hattempt (files : FileSystem) : GrowsAlong path files (files.attempt front).2 :=
      growsAlong_attempt (hpaths front List.mem_cons_self)
    have habove := ih fun front hfront => hpaths front (List.mem_cons_of_mem _ hfront)
    unfold created
    split
    -- the directories above are created first, and may be refused
    · generalize files.created above = result at habove ⊢
      rcases result with ⟨_ | _, files'⟩
      · exact habove
      · exact habove.trans (hattempt files')
    · exact hattempt files

end FileSystem

/-! ## The directories above a path -/

namespace Path

theorem inFront_ofPieces (first piece : Text) (front behind : List Text) :
    InFront (ofPieces first front) (ofPieces first (front ++ piece :: behind)) :=
  ⟨piece ++ behind.flatMap fun piece => '/' :: piece, by simp [ofPieces]⟩

/-- What is left of some pieces is in front of them all, or the root. -/
theorem inFront_ofReversed (first piece : Text) (reversed passed : List Text) :
    InFront (ofReversed first reversed) (ofPieces first ((passed ++ piece :: reversed).reverse)) ∨
      ofReversed first reversed = ['/'] := by
  unfold ofReversed
  split
  · exact .inr rfl
  · next first _ _ _ =>
    refine .inl ?_
    obtain ⟨blanks, hblanks⟩ := List.dropWhile_suffix (l := reversed) isBlank
    -- the blank pieces that are dropped stand behind what is kept
    have hpieces : (passed ++ piece :: reversed).reverse =
        (reversed.dropWhile isBlank).reverse ++ (passed ++ piece :: blanks).reverse := by
      rw [← List.reverse_append, List.append_assoc, List.cons_append, hblanks]
    rw [hpieces]
    cases hbehind : (passed ++ piece :: blanks).reverse with
    | nil => simp at hbehind
    | cons next behind => exact inFront_ofPieces first next _ behind

theorem inFront_of_mem_parentsOfReversed {first parent : Text} {reversed : List Text}
    (passed : List Text) (h : parent ∈ parentsOfReversed first reversed) :
    InFront parent (ofPieces first ((passed ++ reversed).reverse)) ∨ parent = ['/'] := by
  induction reversed generalizing passed with
  | nil => exact absurd h List.not_mem_nil
  | cons piece reversed ih =>
    have hstep := ih (passed ++ [piece])
    rw [List.append_assoc, List.singleton_append] at hstep
    unfold parentsOfReversed at h
    split at h
    · exact hstep h
    · rcases List.mem_cons.1 h with rfl | h
      · exact inFront_ofReversed first piece reversed passed
      · exact hstep h

/-- **A directory above a path is what stands in front of one of its slashes, or the root.** -/
theorem inFront_of_mem_parents {parent path : Text} (h : parent ∈ parents path) :
    InFront parent path ∨ parent = ['/'] := by
  have hfront := inFront_of_mem_parentsOfReversed [] h
  rwa [List.nil_append, List.reverse_reverse, ofPieces_pieces] at hfront

end Path

/-! ## Writing a file -/

namespace FileSystem

variable {files files' : FileSystem}

/-- A path leads to a file with some content, and nothing else is different but for new directories
that the path names in front of its slashes. -/
structure WrittenAt (path : Text) (content : Bytes) (files files' : FileSystem)
    (location : Location) : Prop where
  leads : files'.Leads path location
  wasNoDirectory : files.at? location ≠ some .directory
  isFile : files'.at? location = some (.file content)
  elsewhere : ∀ other, other ≠ location →
    files'.at? other = files.at? other ∨ NewDirectory path files files' other

theorem GrowsAlong.writtenAt {path : Text} {content : Bytes} {between last : FileSystem}
    (h : GrowsAlong path files between) (hwrite : between.write path content = .ok last) :
    ∃ location, WrittenAt path content files last location := by
  obtain ⟨dir, name, hfree, htarget, hslash, hlength, rfl⟩ := write_eq_ok hwrite
  have hkeeps := keepsDirectories_put dir name (.file content) hfree
  refine ⟨dir.child name, ?_, fun hdirectory => hfree (h.keepsDirectories _ hdirectory), ?_, ?_⟩
  · exact ⟨dir.carry hkeeps, name, target_carry hkeeps htarget, rfl⟩
  · rw [at?_put, if_pos rfl]
  · intro other hother
    have hsame : (between.put dir name (.file content) hfree).at? other = between.at? other := by
      rw [at?_put, if_neg hother]
    rcases h other with hold | ⟨hnone, hdirectory, front, hfront, hleads⟩
    · exact .inl (hsame.trans hold)
    · exact .inr ⟨hnone, hsame.trans hdirectory, front, hfront, hleads.carry hkeeps⟩

end FileSystem

end Codebook
