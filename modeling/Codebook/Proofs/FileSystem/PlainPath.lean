import Mathlib.Data.List.Induction
import Codebook.Proofs.FileSystem.Creation

/-!
# Plain paths

A plain path is a few names with slashes between them, where each name stands for itself: it is not
empty, it is not a dot or two, and it is not too long. Such a path leads to the location that has
its names, so what becomes of it can be told from what stands at that location and above it.

There are three cases. If all above is a directory, the path leads to its last name. If a file
stands somewhere above, no directory can be entered there. Otherwise some directory is missing,
nothing stands behind it, and creating the directories from the outermost one on inwards makes up
for it.
-/

namespace Codebook

namespace Path

/-- A name that stands for itself. -/
structure IsPlain (name : Text) : Prop where
  nonempty : name ≠ []
  noSlash : '/' ∉ name
  noNul : '\x00' ∉ name
  notHere : name ≠ here
  notAbove : name ≠ above
  short : (Utf8.encode name).length ≤ maxNameLength

/-- The path of some names. -/
def spell (names : List Text) : Text := ['/'].intercalate names

/-- The names make up a plain path. -/
structure Plain (names : List Text) : Prop where
  nonempty : names ≠ []
  each : ∀ name ∈ names, IsPlain name
  short : (Utf8.encode (spell names)).length ≤ maxLength

/-! ## Spelling and cutting -/

theorem spell_cons (first : Text) (rest : List Text) :
    spell (first :: rest) = ofPieces first rest := by
  induction rest generalizing first with
  | nil => simp [spell, ofPieces, List.intercalate]
  | cons piece rest ih =>
    have hspell : spell (first :: piece :: rest) = first ++ '/' :: spell (piece :: rest) := by
      simp [spell, List.intercalate]
    rw [hspell, ih]
    simp [ofPieces]

theorem spell_concat {front : List Text} (hfront : front ≠ []) (last : Text) :
    spell (front ++ [last]) = spell front ++ '/' :: last := by
  obtain ⟨first, rest, rfl⟩ := List.exists_cons_of_ne_nil hfront
  rw [List.cons_append, spell_cons, spell_cons]
  simp [ofPieces]

theorem pieces_append_slash {front : Text} (hfront : '/' ∉ front) (rest : Text) :
    pieces (front ++ '/' :: rest) = (front, (pieces rest).1 :: (pieces rest).2) := by
  induction front with
  | nil => simp [pieces]
  | cons c front ih =>
    rw [List.mem_cons, not_or] at hfront
    simp [pieces, Ne.symm hfront.1, ih hfront.2]

theorem pieces_of_noSlash {name : Text} (h : '/' ∉ name) : pieces name = (name, []) := by
  induction name with
  | nil => rfl
  | cons c name ih =>
    rw [List.mem_cons, not_or] at h
    simp [pieces, Ne.symm h.1, ih h.2]

/-- Pieces without slashes are found again. -/
theorem pieces_ofPieces {first : Text} {rest : List Text} (hfirst : '/' ∉ first)
    (hrest : ∀ piece ∈ rest, '/' ∉ piece) : pieces (ofPieces first rest) = (first, rest) := by
  induction rest generalizing first with
  | nil => simpa [ofPieces] using pieces_of_noSlash hfirst
  | cons piece rest ih =>
    have hbehind : ofPieces first (piece :: rest) = first ++ '/' :: ofPieces piece rest := by
      simp [ofPieces]
    have hpiece := hrest piece List.mem_cons_self
    rw [hbehind, pieces_append_slash hfirst,
      ih hpiece fun piece hmem => hrest piece (List.mem_cons_of_mem _ hmem)]

theorem segments_spell {names : List Text} (h : ∀ name ∈ names, IsPlain name) :
    segments (spell names) = names := by
  cases names with
  | nil => rfl
  | cons first rest =>
    have hpieces := pieces_ofPieces (h first List.mem_cons_self).noSlash
      fun piece hmem => (h piece (List.mem_cons_of_mem _ hmem)).noSlash
    unfold segments
    rw [spell_cons, hpieces, List.filter_eq_self]
    intro name hname
    simpa using (h name hname).nonempty

theorem endsInSlash_spell {names : List Text} (h : ∀ name ∈ names, IsPlain name) :
    endsInSlash (spell names) = false := by
  rcases List.eq_nil_or_concat names with rfl | ⟨front, last, rfl⟩
  · rfl
  rw [List.concat_eq_append] at h ⊢
  have hlast := h last (by simp)
  obtain ⟨before, hspell⟩ : ∃ before, spell (front ++ [last]) = before ++ last := by
    by_cases hfront : front = []
    · exact ⟨[], by simp [hfront, spell, List.intercalate]⟩
    · exact ⟨spell front ++ ['/'], by rw [spell_concat hfront]; simp⟩
  -- the last character is that of the last name
  unfold endsInSlash
  rw [hspell, List.getLast?_append, List.getLast?_eq_some_getLast hlast.nonempty, Option.some_or,
    beq_eq_false_iff_ne]
  intro hslash
  exact hlast.noSlash (Option.some.inj hslash ▸ List.getLast_mem hlast.nonempty)

/-! ## The directories above -/

theorem IsPlain.isBlank {name : Text} (h : IsPlain name) : isBlank name = false := by
  simp [Path.isBlank, h.nonempty, h.notHere]

theorem ofReversed_reverse {first : Text} {rest : List Text} (hfirst : first ≠ [])
    (hrest : ∀ name ∈ rest, IsPlain name) :
    ofReversed first rest.reverse = ofPieces first rest := by
  have hkept : rest.reverse.dropWhile Path.isBlank = rest.reverse := by
    cases hreverse : rest.reverse with
    | nil => rfl
    | cons piece behind =>
      have hpiece : piece ∈ rest := List.mem_reverse.1 (hreverse ▸ List.mem_cons_self)
      rw [List.dropWhile_cons_of_neg (by simp [(hrest piece hpiece).isBlank])]
  unfold ofReversed
  rw [hkept, List.reverse_reverse]
  split
  · exact absurd rfl hfirst
  · rfl

/-- Right above a plain path is the path of its names without the last one. -/
theorem parents_spell {front : List Text} {last : Text} (hfront : front ≠ [])
    (h : ∀ name ∈ front ++ [last], IsPlain name) :
    parents (spell (front ++ [last])) = spell front :: parents (spell front) := by
  obtain ⟨first, rest, rfl⟩ := List.exists_cons_of_ne_nil hfront
  rw [List.cons_append] at h ⊢
  have hfirst := h first List.mem_cons_self
  have hrest : ∀ name ∈ rest, IsPlain name := fun name hname => h name (by simp [hname])
  have hpieces := pieces_ofPieces hfirst.noSlash fun piece hmem => (hrest piece hmem).noSlash
  have hpieces' : pieces (ofPieces first (rest ++ [last])) = (first, rest ++ [last]) :=
    pieces_ofPieces hfirst.noSlash fun piece hmem => (h piece (List.mem_cons_of_mem _ hmem)).noSlash
  have hlast : Path.isBlank last = false := (h last (by simp)).isBlank
  rw [spell_cons, spell_cons]
  unfold parents
  -- the last piece is no blank one, so it is all that is taken away
  rw [hpieces, hpieces', List.reverse_append, List.reverse_singleton, List.singleton_append,
    parentsOfReversed, if_neg (by simp [hlast]), ofReversed_reverse hfirst.nonempty hrest]

theorem parents_of_noSlash {name : Text} (h : '/' ∉ name) : parents name = [] := by
  unfold parents
  rw [pieces_of_noSlash h]
  rfl

/-! ## Plain paths -/

theorem spell_singleton (name : Text) : spell [name] = name := by simp [spell, List.intercalate]

theorem mem_spell {names : List Text} {c : Char} (h : c ∈ spell names) :
    c = '/' ∨ ∃ name ∈ names, c ∈ name := by
  cases names with
  | nil => exact absurd h List.not_mem_nil
  | cons first rest =>
    rw [spell_cons, ofPieces, List.mem_append, List.mem_flatMap] at h
    rcases h with h | ⟨piece, hpiece, h⟩
    · exact .inr ⟨first, List.mem_cons_self, h⟩
    · rcases List.mem_cons.1 h with h | h
      · exact .inl h
      · exact .inr ⟨piece, List.mem_cons_of_mem _ hpiece, h⟩

/-- The names in front make up a plain path too. -/
theorem Plain.front {front : List Text} {last : Text} (h : Plain (front ++ [last]))
    (hfront : front ≠ []) : Plain front where
  nonempty := hfront
  each name hname := h.each name (List.mem_append_left _ hname)
  short := by
    have hshort := h.short
    rw [spell_concat hfront, Utf8.encode, List.flatMap_append, List.length_append] at hshort
    exact Nat.le_trans (Nat.le_add_right _ _) hshort

theorem Plain.check {names : List Text} (h : Plain names) : Path.check (spell names) = .ok () := by
  have hnul : '\x00' ∉ spell names := by
    intro hmem
    rcases mem_spell hmem with hslash | ⟨name, hname, hmem⟩
    · exact absurd hslash (by decide)
    · exact (h.each name hname).noNul hmem
  have hempty : spell names ≠ [] := by
    obtain ⟨first, rest, rfl⟩ := List.exists_cons_of_ne_nil h.nonempty
    have hfirst := (h.each first List.mem_cons_self).nonempty
    rw [spell_cons]
    simp [ofPieces, hfirst]
  unfold Path.check
  rw [if_neg hnul, if_neg hempty, if_neg (Nat.not_lt.2 h.short)]

theorem IsPlain.notTooLong {name : Text} (h : IsPlain name) : isNameTooLong name = false := by
  simpa [isNameTooLong] using h.short

theorem Plain.lastNotTooLong {front : List Text} {last : Text} (h : Plain (front ++ [last])) :
    isNameTooLong last = false :=
  (h.each last (by simp)).notTooLong

end Path

/-! ## Walking along a plain path -/

namespace FileSystem

open Codebook.Path

variable {files files' : FileSystem}

/-- Above what stands somewhere there are directories only. -/
theorem directory_of_append {above below : Location} (hbelow : below ≠ [])
    (h : files.at? (above ++ below) ≠ none) : files.at? above = some .directory := by
  induction below using List.reverseRecOn with
  | nil => exact absurd rfl hbelow
  | append_singleton middle name ih =>
    rw [← List.append_assoc] at h
    have hdirectory : files.at? (above ++ middle) = some .directory := files.closed _ _ h
    by_cases hmiddle : middle = []
    · simpa [hmiddle] using hdirectory
    · exact ih hmiddle (by simp [hdirectory])

theorem directory_of_child {front : Location} {last : Text} {node : Node}
    (h : files.at? (front ++ [last]) = some node) : files.at? front = some .directory :=
  files.closed front last (Option.ne_none_iff_exists'.2 ⟨node, h⟩)

theorem directory_of_prefix {above location : Location} (habove : above <+: location)
    (h : files.at? location = some .directory) : files.at? above = some .directory := by
  obtain ⟨below, rfl⟩ := habove
  by_cases hbelow : below = []
  · simpa [hbelow] using h
  · exact directory_of_append hbelow (by simp [h])

theorem locate_cons {dir : files.Directory} {segment : Text} {rest : List Text}
    (hrest : rest ≠ []) :
    files.locate dir (segment :: rest) =
      files.enter dir segment >>= fun dir => files.locate dir rest := by
  obtain ⟨next, rest, rfl⟩ := List.exists_cons_of_ne_nil hrest
  rfl

theorem enter_missing {dir : files.Directory} {name : Text} (hname : IsPlain name)
    (h : files.at? (dir.child name) = none) : files.enter dir name = .error .notFound := by
  unfold enter
  rw [if_neg hname.notHere, if_neg hname.notAbove, if_neg (by simp [hname.notTooLong])]
  split
  · rfl
  · next hfile => exact nomatch h.symm.trans hfile
  · next hdirectory => exact nomatch h.symm.trans hdirectory

theorem enter_file {dir : files.Directory} {name : Text} {content : Bytes} (hname : IsPlain name)
    (h : files.at? (dir.child name) = some (.file content)) :
    files.enter dir name = .error .notDirectory := by
  unfold enter
  rw [if_neg hname.notHere, if_neg hname.notAbove, if_neg (by simp [hname.notTooLong])]
  split
  · next hnone => exact nomatch h.symm.trans hnone
  · rfl
  · next hdirectory => exact nomatch h.symm.trans hdirectory

theorem locate_last {dir : files.Directory} {last : Text} (hlast : IsPlain last) :
    files.locate dir [last] = .ok (.entry dir last) := by
  have hname : isName last = true := by simp [isName, hlast.notHere, hlast.notAbove]
  simp only [locate, if_pos hname]

/-- Through directories a walk comes to the last name. -/
theorem locate_of_directory (dir : files.Directory) {front : List Text} {last : Text}
    (hnames : ∀ name ∈ front ++ [last], IsPlain name)
    (h : files.at? (dir.val ++ front) = some .directory) :
    ∃ inner : files.Directory, inner.val = dir.val ++ front ∧
      files.locate dir (front ++ [last]) = .ok (.entry inner last) := by
  induction front generalizing dir with
  | nil => exact ⟨dir, by simp, locate_last (hnames last (by simp))⟩
  | cons name front ih =>
    have hname := hnames name (by simp)
    -- every directory on the way stands, since the last one does
    have hchild : files.at? (dir.child name) = some .directory :=
      directory_of_prefix ⟨front, by simp [Directory.child]⟩ h
    obtain ⟨inner, hinner, hlocate⟩ :=
      ih ⟨dir.child name, hchild⟩ (fun other hother => hnames other (by simp_all))
        (by simpa [Directory.child] using h)
    refine ⟨inner, by simpa [Directory.child] using hinner, ?_⟩
    rw [List.cons_append, locate_cons (by simp),
      enter_directory hname.notHere hname.notAbove hname.notTooLong hchild]
    exact hlocate

/-- A walk does not get past a file. -/
theorem locate_of_file (dir : files.Directory) {above front : List Text} {last : Text}
    {content : Bytes} (hnames : ∀ name ∈ front ++ [last], IsPlain name) (habove : above <+: front)
    (h : files.at? (dir.val ++ above) = some (.file content)) :
    files.locate dir (front ++ [last]) = .error .notDirectory := by
  induction front generalizing dir above with
  | nil =>
    rw [List.prefix_nil] at habove
    rw [habove, List.append_nil] at h
    exact nomatch h.symm.trans dir.property
  | cons name front ih =>
    have hname := hnames name (by simp)
    rcases List.prefix_cons_iff.1 habove with rfl | ⟨above, rfl, hbehind⟩
    · rw [List.append_nil] at h
      exact nomatch h.symm.trans dir.property
    rw [List.cons_append, locate_cons (by simp)]
    have hassoc : dir.val ++ name :: above = dir.child name ++ above := by simp [Directory.child]
    rw [hassoc] at h
    -- the walk stops at the file itself, or goes through a directory towards it
    by_cases hlast : above = []
    · rw [hlast, List.append_nil] at h
      rw [enter_file hname h]
      rfl
    · have hchild : files.at? (dir.child name) = some .directory :=
        directory_of_append hlast (by simp [h])
      rw [enter_directory hname.notHere hname.notAbove hname.notTooLong hchild]
      exact ih ⟨_, hchild⟩ (fun other hother => hnames other (by simp_all)) hbehind h

/-- A walk ends where nothing is. -/
theorem locate_of_missing (dir : files.Directory) {front : List Text} {last : Text}
    (hnames : ∀ name ∈ front ++ [last], IsPlain name)
    (hclear : ∀ above, above <+: front → ∀ content,
      files.at? (dir.val ++ above) ≠ some (.file content))
    (h : files.at? (dir.val ++ front) = none) :
    files.locate dir (front ++ [last]) = .error .notFound := by
  induction front generalizing dir with
  | nil =>
    rw [List.append_nil] at h
    exact nomatch h.symm.trans dir.property
  | cons name front ih =>
    have hname := hnames name (by simp)
    have hassoc (above : List Text) : dir.val ++ name :: above = dir.child name ++ above := by
      simp [Directory.child]
    rw [List.cons_append, locate_cons (by simp)]
    -- nothing is here, or the walk goes on; a file cannot be here
    cases hchild : files.at? (dir.child name) with
    | none =>
      rw [enter_missing hname hchild]
      rfl
    | some node =>
      cases node with
      | file content =>
        have hfile := hclear [name] (by simp) content
        exact absurd hchild hfile
      | directory =>
        rw [enter_directory hname.notHere hname.notAbove hname.notTooLong hchild]
        refine ih ⟨_, hchild⟩ (fun other hother => hnames other (by simp_all)) ?_ ?_
        · intro above habove content
          have hbehind := hclear (name :: above) (by simpa using habove) content
          rwa [hassoc] at hbehind
        · rwa [hassoc] at h

/-! ## Operations on a plain path -/

theorem target_spell {names : List Text} (h : Plain names) :
    files.target (spell names) = files.locate .root names := by
  unfold target
  rw [h.check, segments_spell h.each]
  rfl

variable {front : List Text} {last : Text}

/-- The directory at a location. -/
def Directory.at (location : Location) (h : files.at? location = some .directory) :
    files.Directory :=
  ⟨location, h⟩

theorem Directory.child_at (location : Location) (h : files.at? location = some .directory)
    (name : Text) : (Directory.at location h).child name = location ++ [name] := rfl

theorem target_of_directory (h : Plain (front ++ [last]))
    (hfront : files.at? front = some .directory) :
    files.target (spell (front ++ [last])) = .ok (.entry (.at front hfront) last) := by
  obtain ⟨inner, hinner, hlocate⟩ := locate_of_directory .root h.each hfront
  obtain rfl : inner = .at front hfront := Subtype.ext hinner
  rw [target_spell h, hlocate]

theorem makeDirectory_of_error {path : Text} {fault : FileFault}
    (h : files.target path = .error fault) : files.makeDirectory path = .error fault := by
  unfold makeDirectory
  rw [h, Except.error_bind]

theorem makeDirectory_of_free (h : Plain (front ++ [last]))
    (hfront : files.at? front = some .directory) (hfree : files.at? (front ++ [last]) = none) :
    files.makeDirectory (spell (front ++ [last])) = .ok
      (files.put (.at front hfront) last .directory (by simp [Directory.child_at, hfree])) := by
  unfold makeDirectory
  rw [target_of_directory h hfront, Except.ok_bind]
  dsimp only
  rw [if_neg (by simp [h.lastNotTooLong])]
  split
  · next htaken => cases hfree.symm.trans htaken
  · rfl

theorem makeDirectory_of_taken (h : Plain (front ++ [last])) {node : Node}
    (htaken : files.at? (front ++ [last]) = some node) :
    files.makeDirectory (spell (front ++ [last])) = .error .alreadyExists := by
  have hfront := directory_of_child htaken
  unfold makeDirectory
  rw [target_of_directory h hfront, Except.ok_bind]
  dsimp only
  rw [if_neg (by simp [h.lastNotTooLong])]
  split
  · rfl
  · next hfree => exact nomatch htaken.symm.trans hfree

theorem isDirectory_of_taken (h : Plain (front ++ [last])) {node : Node}
    (htaken : files.at? (front ++ [last]) = some node) :
    files.isDirectory (spell (front ++ [last])) = decide (node = .directory) := by
  have hfront := directory_of_child htaken
  unfold isDirectory FileSystem.node
  rw [target_of_directory h hfront, Except.ok_bind]
  dsimp only
  rw [if_neg (by simp [h.lastNotTooLong]), Directory.child_at, htaken]
  cases node with
  | file content => simp [endsInSlash_spell h.each]
  | directory => rfl

theorem isDirectory_of_error {path : Text} {fault : FileFault}
    (h : files.target path = .error fault) : files.isDirectory path = false := by
  unfold isDirectory node
  rw [h, Except.error_bind]

theorem write_of_free (h : Plain (front ++ [last])) (hfront : files.at? front = some .directory)
    (hfree : files.at? (front ++ [last]) ≠ some .directory) (content : Bytes) :
    files.write (spell (front ++ [last])) content =
      .ok (files.put (.at front hfront) last (.file content) hfree) := by
  unfold write
  rw [target_of_directory h hfront, Except.ok_bind]
  dsimp only
  rw [if_neg (by simp [endsInSlash_spell h.each]), if_neg (by simp [h.lastNotTooLong])]
  exact dif_neg hfree

theorem write_of_directory (h : Plain (front ++ [last]))
    (hdirectory : files.at? (front ++ [last]) = some .directory) (content : Bytes) :
    files.write (spell (front ++ [last])) content = .error .isDirectory := by
  have hfront := directory_of_child hdirectory
  unfold write
  rw [target_of_directory h hfront, Except.ok_bind]
  dsimp only
  rw [if_neg (by simp [endsInSlash_spell h.each]), if_neg (by simp [h.lastNotTooLong])]
  exact dif_pos hdirectory

/-! ## Creating a plain path -/

/-- A path and the paths above it, nearest first. -/
def upFrom (names : List Text) : List Text := spell names :: parents (spell names)

theorem created_of_error {path : Text} {above : List Text} {fault : FileFault}
    (h : files.makeDirectory path = .error fault) (hfault : fault ≠ .notFound)
    (hdirectory : files.isDirectory path = false) :
    files.created (path :: above) = (.error fault, files) := by
  have hattempt : files.attempt path = (.error fault, files) := by
    simp only [attempt, h, hdirectory, Bool.false_eq_true, if_false]
  unfold created
  rw [h]
  split
  · next hsame => exact absurd (Except.error.inj hsame) hfault
  · exact hattempt

theorem created_of_missing {path : Text} {above : List Text} {between : FileSystem}
    (h : files.makeDirectory path = .error .notFound)
    (habove : files.created above = (.ok (), between)) :
    files.created (path :: above) = between.attempt path := by
  rw [created, h]
  dsimp only
  rw [habove]

theorem created_of_file {content : Bytes} (h : Plain (front ++ [last]))
    (hfile : files.at? (front ++ [last]) = some (.file content)) :
    files.created (upFrom (front ++ [last])) = (.error .alreadyExists, files) :=
  created_of_error (makeDirectory_of_taken h hfile) (by decide) (isDirectory_of_taken h hfile)

theorem created_of_file_above {above : List Text} {content : Bytes} (h : Plain (front ++ [last]))
    (habove : above <+: front) (hfile : files.at? above = some (.file content)) :
    files.created (upFrom (front ++ [last])) = (.error .notDirectory, files) := by
  have htarget : files.target (spell (front ++ [last])) = .error .notDirectory :=
    (target_spell h).trans (locate_of_file .root h.each habove hfile)
  exact created_of_error (makeDirectory_of_error htarget) (by decide) (isDirectory_of_error htarget)

/-- Nothing is created where a directory is there already. -/
theorem created_of_directory (h : Plain (front ++ [last]))
    (hdirectory : files.at? (front ++ [last]) = some .directory) :
    files.created (upFrom (front ++ [last])) = (.ok (), files) := by
  have hmade := makeDirectory_of_taken h hdirectory
  have hisDirectory : files.isDirectory _ = true := isDirectory_of_taken h hdirectory
  simp [created, upFrom, attempt, hmade, hisDirectory]

/-- All names of a path are directories, and off the path nothing has changed. -/
structure DirectoriesAlong (names : List Text) (files files' : FileSystem) : Prop where
  along : ∀ above, above <+: names → files'.at? above = some .directory
  elsewhere : ∀ other, ¬ other <+: names → files'.at? other = files.at? other

/-- A new directory in the last one of some that are there already. -/
theorem DirectoriesAlong.attempt {between : FileSystem} (h : Plain (front ++ [last]))
    (hfront : DirectoriesAlong front files between)
    (hfree : between.at? (front ++ [last]) = none) :
    ∃ files', between.attempt (spell (front ++ [last])) = (.ok (), files') ∧
      DirectoriesAlong (front ++ [last]) files files' := by
  have hdirectory := hfront.along front List.prefix_rfl
  have hmade := makeDirectory_of_free h hdirectory hfree
  refine ⟨_, by rw [FileSystem.attempt, hmade], ?_, ?_⟩
  · -- along the path: the new directory, and those that were there
    intro above habove
    rw [at?_put, Directory.child_at]
    rcases List.prefix_concat_iff.1 habove with rfl | habove
    · rw [if_pos rfl]
    · rw [hfront.along above habove, ite_self]
  · -- elsewhere
    intro other hother
    have hne : other ≠ front ++ [last] := by
      rintro rfl
      exact hother List.prefix_rfl
    rw [at?_put, Directory.child_at, if_neg hne]
    exact hfront.elsewhere other fun habove => hother (habove.trans (List.prefix_append _ _))

/-- **Where no file is in the way, a plain path and all above it become directories.** -/
theorem created_of_clear {names : List Text} (h : Plain names)
    (hclear : ∀ above, above <+: names → ∀ content, files.at? above ≠ some (.file content)) :
    ∃ files', files.created (upFrom names) = (.ok (), files') ∧
      DirectoriesAlong names files files' := by
  -- from the outermost name on inwards
  induction names using List.reverseRecOn with
  | nil => exact absurd rfl h.nonempty
  | append_singleton front last ih =>
    cases hlast : files.at? (front ++ [last]) with
    | some node =>
      cases node with
      | file content => exact absurd hlast (hclear _ List.prefix_rfl content)
      | directory =>
        exact ⟨files, created_of_directory h hlast,
          fun above habove => directory_of_prefix habove hlast, fun _ _ => rfl⟩
    | none =>
      have hclear' : ∀ above, above <+: front → ∀ content, files.at? above ≠ some (.file content) :=
        fun above habove => hclear above (habove.trans (List.prefix_append _ _))
      cases hfront : files.at? front with
      | some node =>
        cases node with
        | file content => exact absurd hfront (hclear' front List.prefix_rfl content)
        | directory =>
          have hthere : DirectoriesAlong front files files :=
            ⟨fun above habove => directory_of_prefix habove hfront, fun _ _ => rfl⟩
          obtain ⟨files', hattempt, hdirectories⟩ := hthere.attempt h hlast
          refine ⟨files', ?_, hdirectories⟩
          simpa only [created, upFrom, makeDirectory_of_free h hfront hlast] using hattempt
      | none =>
        -- the directories above have to be created first
        have hnames : front ≠ [] := by
          rintro rfl
          cases hfront
        have hmade : files.makeDirectory (spell (front ++ [last])) = .error .notFound :=
          makeDirectory_of_error ((target_spell h).trans
            (locate_of_missing .root h.each hclear' hfront))
        obtain ⟨between, hcreated, hthere⟩ := ih (h.front hnames) hclear'
        have hbelow : ¬ front ++ [last] <+: front := by
          intro habove
          have hlength := habove.length_le
          rw [List.length_append, List.length_singleton] at hlength
          omega
        obtain ⟨files', hattempt, hdirectories⟩ :=
          hthere.attempt h ((hthere.elsewhere _ hbelow).trans hlast)
        refine ⟨files', ?_, hdirectories⟩
        rw [← hattempt, upFrom, parents_spell hnames h.each]
        exact created_of_missing hmade hcreated

end FileSystem

end Codebook
