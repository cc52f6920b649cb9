import Codebook.Proofs.FileSystem.PlainPath
import Codebook.Proofs.Generation.Stages

/-!
# What delivering an output does to files

Delivering to a file is two steps on the files: the directories above are created, then the file is
written. `run_deliver_file` says so, and everything else is about the files alone.
-/

namespace Codebook

/-! ## The directories above -/

/-- A program that creates directories in a run. -/
abbrev Creation (α : Type) : Type := ExceptT FileFault Run α

namespace Creation

variable {α β : Type}

theorem run_bind (p : Creation α) (next : α → Creation β) (world : World) :
    ((p >>= next).run : Run (Except FileFault β)).run world =
      match (p.run : Run (Except FileFault α)).run world with
      | (.ok (.ok a), world) => ((next a).run : Run (Except FileFault β)).run world
      | (.ok (.error fault), world) => (.ok (.error fault), world)
      | (.error e, world) => (.error e, world) := by
  rw [ExceptT.run_bind, Run.run_bind]
  rcases (p.run : Run (Except FileFault α)).run world with ⟨_ | _ | _, world⟩
  · rfl
  · rfl
  · rfl

theorem run_makeDirectory (path : Text) (world : World) :
    ((Host.makeDirectory path : Creation (Except FileFault Unit)).run :
        Run (Except FileFault (Except FileFault Unit))).run world =
      match world.files.makeDirectory path with
      | .ok files => (.ok (.ok (.ok ())), { world with files })
      | .error fault => (.ok (.ok (.error fault)), world) := by
  show ((Except.ok (Except.ok (World.changeFiles (·.makeDirectory path) world).1)),
    (World.changeFiles (·.makeDirectory path) world).2) = _
  cases hmade : world.files.makeDirectory path with
  | ok files => simp only [World.changeFiles, hmade]
  | error fault => simp only [World.changeFiles, hmade]

theorem run_settle (path : Text) (result : Except FileFault Unit) (world : World) :
    ((settle path result : Creation Unit).run : Run (Except FileFault Unit)).run world =
      (.ok (match result with
        | .ok _ => .ok ()
        | .error fault =>
          if world.files.isDirectory path then .ok () else .error fault), world) := by
  cases result with
  | ok _ => rfl
  | error fault =>
    -- a directory that stands by now is as good as one that was created
    show ((if world.files.isDirectory path then pure () else throw fault : Creation Unit).run :
      Run (Except FileFault Unit)).run world = _
    dsimp only
    split
    · rfl
    · rfl

/-- An attempt to create a directory, and what is made of it. -/
theorem run_attempt (path : Text) (world : World) :
    ((do settle path (← Host.makeDirectory path) : Creation Unit).run :
        Run (Except FileFault Unit)).run world =
      (.ok (world.files.attempt path).1, { world with files := (world.files.attempt path).2 }) := by
  rw [run_bind, run_makeDirectory]
  unfold FileSystem.attempt
  rcases hmade : world.files.makeDirectory path with fault | files
  · dsimp only
    rw [run_settle]
  · dsimp only
    rw [run_settle]

/-- **Creating directories is a function on the files.** -/
theorem run_createDirectories (paths : List Text) (world : World) :
    ((createDirectories paths : Creation Unit).run : Run (Except FileFault Unit)).run world =
      (.ok (world.files.created paths).1,
        { world with files := (world.files.created paths).2 }) := by
  induction paths generalizing world with
  | nil => rfl
  | cons path above ih =>
    have hattempt := run_attempt path world
    unfold createDirectories FileSystem.created
    rw [run_bind, run_makeDirectory] at hattempt ⊢
    rcases hmade : world.files.makeDirectory path with fault | files
    · rw [hmade] at hattempt
      dsimp only at hattempt ⊢
      by_cases hmissing : fault = .notFound
      · subst hmissing
        dsimp only
        rw [run_bind, ih]
        rcases world.files.created above with ⟨_ | _, files⟩
        · rfl
        · exact run_attempt path { world with files }
      · -- any other fault is settled at once
        split
        · next hsame => exact absurd (Except.error.inj hsame) hmissing
        · split
          · next hsame => exact absurd (Except.error.inj hsame) hmissing
          · exact hattempt
    · rw [hmade] at hattempt
      exact hattempt

end Creation

/-- The directories above a path, as a function on the files. The fault comes with the nearest. -/
theorem run_createParents (path : Text) (world : World) :
    (createParents path : Run Unit).run world =
      match world.files.created (Path.parents path) with
      | (.ok _, files) => (.ok (), { world with files })
      | (.error fault, files) =>
        (.error (.write ((Path.parents path).headD []) fault), { world with files }) := by
  unfold createParents
  cases hparents : Path.parents path with
  | nil => rfl
  -- whichever of them fails, the nearest one is named
  | cons parent above =>
    dsimp only
    rw [Run.run_bind, Creation.run_createDirectories]
    rcases world.files.created (parent :: above) with ⟨_ | _, files⟩
    · rfl
    · rfl

/-- **Delivering to a file creates the directories above it and then writes it.** -/
theorem run_deliver_file (path output : Text) (world : World) :
    (deliver (some path) output : Run Unit).run world =
      match world.files.created (Path.parents path) with
      | (.error fault, files) =>
        (.error (.write ((Path.parents path).headD []) fault), { world with files })
      | (.ok _, files) =>
        match files.write path (Utf8.encode output) with
        | .error fault => (.error (.write path fault), { world with files })
        | .ok files' =>
          (.ok (), (World.note (.wrote path (Utf8.encode output).length)
            { world with files := files' }).2) := by
  unfold deliver
  dsimp only
  rw [Run.run_bind, run_createParents]
  rcases world.files.created (Path.parents path) with ⟨fault | _, files⟩
  · rfl
  dsimp only
  -- the file is written in the world that the directories have left
  have hwrite : (Host.writeFile path (Utf8.encode output) : Run (Except FileFault Unit)).run
      { world with files } =
      match files.write path (Utf8.encode output) with
      | .ok files' => (.ok (.ok ()), { world with files := files' })
      | .error fault => (.ok (.error fault), { world with files }) := by
    show (Except.ok (World.changeFiles (·.write path (Utf8.encode output)) { world with files }).1,
      (World.changeFiles (·.write path (Utf8.encode output)) { world with files }).2) = _
    unfold World.changeFiles
    dsimp only
    cases files.write path (Utf8.encode output) with
    | ok files' => rfl
    | error fault => rfl
  rw [Run.run_bind, hwrite]
  cases files.write path (Utf8.encode output) with
  | ok files' => rfl
  | error fault => rfl

/-- **Without a path the output is printed, if there is any and it is taken.** -/
theorem run_deliver_output (output : Text) (world : World) :
    (deliver none output : Run Unit).run world =
      if world.acceptsOutput = true ∨ Utf8.encode output = [] then
        (.ok (), { world with printed := world.printed ++ Utf8.encode output })
      else (.error (.write standardOutput .noSpace), world) := by
  -- nothing was printed by halves: all of it or none
  have hprint : (Host.print (Utf8.encode output) : Run (Except FileFault Unit)).run world =
      (.ok (World.write (Utf8.encode output) world).1,
        (World.write (Utf8.encode output) world).2) := rfl
  unfold deliver
  dsimp only
  rw [Run.run_bind, hprint]
  unfold World.write
  by_cases h : world.acceptsOutput = true ∨ Utf8.encode output = []
  · rw [if_pos h, if_pos h]
    rfl
  · rw [if_neg h, if_neg h]
    rfl

/-! ## Delivering along a plain path -/

section Plain

open FileSystem Codebook.Path

variable {front : List Text} {last : Text} {world : World}

/-- What a delivery stops at that cannot create the directories above. -/
theorem run_deliver_file_of_error {path : Text} {fault : FileFault} (output : Text)
    (h : world.files.created (parents path) = (.error fault, world.files)) :
    (deliver (some path) output : Run Unit).run world =
      (.error (.write ((parents path).headD []) fault), world) := by
  rw [run_deliver_file, h]

/-- A name that is not the only one of its path has the others right above. -/
theorem parents_of_ne_nil (h : Plain (front ++ [last])) (hfront : front ≠ []) :
    parents (spell (front ++ [last])) = upFrom front :=
  parents_spell hfront h.each

theorem created_parents_of_directory (h : Plain (front ++ [last])) {files : FileSystem}
    (hfront : files.at? front = some .directory) :
    files.created (parents (spell (front ++ [last]))) = (.ok (), files) := by
  by_cases hempty : front = []
  · subst hempty
    have hlast : IsPlain last := h.each last (by simp)
    rw [List.nil_append, spell_singleton, parents_of_noSlash hlast.noSlash]
    rfl
  · rw [parents_of_ne_nil h hempty]
    have hplain := h.front hempty
    rcases List.eq_nil_or_concat front with rfl | ⟨before, name, rfl⟩
    · exact absurd rfl hempty
    · rw [List.concat_eq_append] at hfront hplain ⊢
      exact created_of_directory hplain hfront

theorem deliver_of_file (h : Plain (front ++ [last])) {content : Bytes} (output : Text)
    (hfile : world.files.at? front = some (.file content)) :
    (deliver (some (spell (front ++ [last]))) output : Run Unit).run world =
      (.error (.write (spell front) .alreadyExists), world) := by
  rcases List.eq_nil_or_concat front with rfl | ⟨before, name, rfl⟩
  · exact nomatch hfile
  · rw [List.concat_eq_append] at h hfile ⊢
    have hparents := parents_of_ne_nil h (by simp)
    have hcreated := created_of_file (h.front (by simp)) hfile
    rw [← hparents] at hcreated
    rw [run_deliver_file_of_error output hcreated, hparents]
    rfl

theorem deliver_of_file_above (h : Plain (front ++ [last])) {above : List Text} {content : Bytes}
    (output : Text) (habove : above <+: front) (hne : above ≠ front)
    (hfile : world.files.at? above = some (.file content)) :
    (deliver (some (spell (front ++ [last]))) output : Run Unit).run world =
      (.error (.write (spell front) .notDirectory), world) := by
  rcases List.eq_nil_or_concat front with rfl | ⟨before, name, rfl⟩
  · exact absurd (List.prefix_nil.1 habove) hne
  · rw [List.concat_eq_append] at h habove hne ⊢
    have hbefore : above <+: before := (List.prefix_concat_iff.1 habove).resolve_left hne
    have hparents := parents_of_ne_nil h (by simp)
    have hcreated := created_of_file_above (h.front (by simp)) hbefore hfile
    rw [← hparents] at hcreated
    rw [run_deliver_file_of_error output hcreated, hparents]
    rfl

theorem deliver_of_directory (h : Plain (front ++ [last])) (output : Text)
    (hdirectory : world.files.at? (front ++ [last]) = some .directory) :
    (deliver (some (spell (front ++ [last]))) output : Run Unit).run world =
      (.error (.write (spell (front ++ [last])) .isDirectory), world) := by
  have hcreated := created_parents_of_directory h (directory_of_child hdirectory)
  rw [run_deliver_file, hcreated]
  dsimp only
  rw [write_of_directory h hdirectory]

theorem deliver_of_clear (h : Plain (front ++ [last])) (output : Text)
    (hclear : ∀ above, above <+: front → ∀ content, world.files.at? above ≠ some (.file content))
    (hfree : world.files.at? (front ++ [last]) ≠ some .directory) :
    ((deliver (some (spell (front ++ [last]))) output : Run Unit).run world).1 = .ok () := by
  -- after the directories have been created, the place itself is as it was
  obtain ⟨files, hcreated, hfront, hlast⟩ : ∃ files,
      world.files.created (parents (spell (front ++ [last]))) = (.ok (), files) ∧
        files.at? front = some .directory ∧
        files.at? (front ++ [last]) = world.files.at? (front ++ [last]) := by
    by_cases hempty : front = []
    · subst hempty
      exact ⟨world.files, created_parents_of_directory h rfl, rfl, rfl⟩
    · obtain ⟨files, hcreated, hthere⟩ := created_of_clear (h.front hempty) hclear
      refine ⟨files, ?_, hthere.along front List.prefix_rfl, hthere.elsewhere _ fun habove => ?_⟩
      · rw [parents_of_ne_nil h hempty, hcreated]
      · have hlength := habove.length_le
        rw [List.length_append, List.length_singleton] at hlength
        omega
  rw [run_deliver_file, hcreated]
  dsimp only
  rw [write_of_free h hfront (by rwa [hlast])]

end Plain

/-! ## What a delivery changes -/

/-- A delivery that succeeds writes its file, and the directories above it where they are
missing. -/
theorem writtenAt_of_deliver {path output : Text} {world last : World}
    (h : (deliver (some path) output : Run Unit).run world = (.ok (), last)) :
    ∃ location,
      FileSystem.WrittenAt path (Utf8.encode output) world.files last.files location := by
  have hgrows :
      FileSystem.GrowsAlong path world.files (world.files.created (Path.parents path)).2 :=
    FileSystem.growsAlong_created _ fun _ => Path.inFront_of_mem_parents
  rw [run_deliver_file] at h
  generalize world.files.created (Path.parents path) = parents at h hgrows
  rcases parents with ⟨_ | _, between⟩
  · exact nomatch h
  dsimp only at h hgrows
  cases hwrite : between.write path (Utf8.encode output) with
  | error fault =>
    rw [hwrite] at h
    exact nomatch h
  | ok files =>
    rw [hwrite] at h
    obtain ⟨location, hwritten⟩ := hgrows.writtenAt hwrite
    -- the event behind the writing changes the log only
    have hnote := World.outside_note (.wrote path (Utf8.encode output).length) { world with files }
    have hlast : last.outside = (files, world.printed) :=
      (congrArg (fun out => out.2.outside) h).symm.trans hnote
    obtain ⟨rfl, -⟩ := Prod.mk.inj hlast
    exact ⟨location, hwritten⟩

/-- A delivery that fails may leave some of the directories above, and nothing else. -/
theorem growsAlong_of_deliver {path output : Text} {world last : World} {e : Error}
    (h : (deliver (some path) output : Run Unit).run world = (.error e, last)) :
    FileSystem.GrowsAlong path world.files last.files := by
  have hgrows :
      FileSystem.GrowsAlong path world.files (world.files.created (Path.parents path)).2 :=
    FileSystem.growsAlong_created _ fun _ => Path.inFront_of_mem_parents
  rw [run_deliver_file] at h
  generalize world.files.created (Path.parents path) = parents at h hgrows
  rcases parents with ⟨_ | _, between⟩
  · cases h
    exact hgrows
  dsimp only at h hgrows
  -- a refused write changes no file, so only the directories above may be new
  cases hwrite : between.write path (Utf8.encode output) with
  | error fault =>
    rw [hwrite] at h
    cases h
    exact hgrows
  | ok files =>
    rw [hwrite] at h
    exact nomatch h

/-- Why a delivery to a plain path fails: what stands right above it is a file, or what stands
further up, or the path is a directory. -/
inductive Obstacle (files : FileSystem) (names : List Text) : Error → Prop where
  | parent {content : Bytes} (h : files.at? names.dropLast = some (.file content)) :
      Obstacle files names (.write (Path.spell names.dropLast) .alreadyExists)
  | above {above : List Text} {content : Bytes} (habove : above <+: names.dropLast)
      (hne : above ≠ names.dropLast) (h : files.at? above = some (.file content)) :
      Obstacle files names (.write (Path.spell names.dropLast) .notDirectory)
  | itself (h : files.at? names = some .directory) :
      Obstacle files names (.write (Path.spell names) .isDirectory)

/-- No file stands above a path, and the path is no directory. -/
def Unobstructed (files : FileSystem) (names : List Text) : Prop :=
  (∀ above, above <+: names → above ≠ names → ∀ content, files.at? above ≠ some (.file content)) ∧
    files.at? names ≠ some .directory

/-- Along a plain path a delivery succeeds, or it meets an obstacle and changes nothing. -/
theorem deliver_plain {names : List Text} (h : Path.Plain names) (output : Text) (world : World) :
    (Unobstructed world.files names ∧
        ((deliver (some (Path.spell names)) output : Run Unit).run world).1 = .ok ()) ∨
      ¬ Unobstructed world.files names ∧
        ∃ e, Obstacle world.files names e ∧
          (deliver (some (Path.spell names)) output : Run Unit).run world = (.error e, world) := by
  rcases List.eq_nil_or_concat names with rfl | ⟨front, last, rfl⟩
  · exact absurd rfl h.nonempty
  rw [List.concat_eq_append] at h ⊢
  have hdrop : (front ++ [last]).dropLast = front := List.dropLast_concat
  -- what is properly above the whole path is what is above or at its front
  have hproper {above : List Text} : above <+: front ++ [last] ∧ above ≠ front ++ [last] ↔
      above <+: front := by
    constructor
    · rintro ⟨habove, hne⟩
      exact (List.prefix_concat_iff.1 habove).resolve_left hne
    · intro habove
      refine ⟨habove.trans (List.prefix_append _ _), ?_⟩
      rintro rfl
      have hlength := habove.length_le
      rw [List.length_append, List.length_singleton] at hlength
      omega
  -- three obstacles, from the end of the path to its beginning; without one the way is free
  by_cases hdirectory : world.files.at? (front ++ [last]) = some .directory
  · exact .inr ⟨fun hfree => hfree.2 hdirectory, _, .itself hdirectory,
      deliver_of_directory h output hdirectory⟩
  by_cases hfile :
      ∃ above, above <+: front ∧ ∃ content, world.files.at? above = some (.file content)
  · obtain ⟨above, habove, content, hfile⟩ := hfile
    have hblocked : ¬ Unobstructed world.files (front ++ [last]) := fun hfree =>
      hfree.1 above (hproper.2 habove).1 (hproper.2 habove).2 content hfile
    refine .inr ⟨hblocked, ?_⟩
    -- a file right above is found there already, one further up on the way
    by_cases hne : above = front
    · subst hne
      have hobstacle : Obstacle world.files (above ++ [last]) _ := .parent (hdrop.symm ▸ hfile)
      rw [hdrop] at hobstacle
      exact ⟨_, hobstacle, deliver_of_file h output hfile⟩
    · have hobstacle : Obstacle world.files (front ++ [last]) _ :=
        .above (hdrop.symm ▸ habove) (hdrop.symm ▸ hne) hfile
      rw [hdrop] at hobstacle
      exact ⟨_, hobstacle, deliver_of_file_above h output habove hne hfile⟩
  · have hclear : ∀ above, above <+: front → ∀ content,
        world.files.at? above ≠ some (.file content) :=
      fun above habove content heq => hfile ⟨above, habove, content, heq⟩
    refine .inl ⟨⟨fun above habove hne => hclear above (hproper.1 ⟨habove, hne⟩), hdirectory⟩, ?_⟩
    exact deliver_of_clear h output hclear hdirectory

/--
**A delivery to a file changes that file and nothing else.**

If it succeeds, the output is read back at its path; every other location is as it was, or has a new
directory that the path names in front of one of its slashes. If it fails, there is nothing new but
such directories. Along a plain path it succeeds exactly if no file stands above it and it is no
directory, and a failure names its obstacle and leaves everything as it was.
-/
theorem deliver_frame (path output : Text) (world : World) :
    let out := (deliver (some path) output : Run Unit).run world
    (out.1 = .ok () →
      (templateAt path : Run Text).run out.2 = (.ok output, out.2) ∧
        ∃ location,
          FileSystem.WrittenAt path (Utf8.encode output) world.files out.2.files location) ∧
      (∀ e, out.1 = .error e → FileSystem.GrowsAlong path world.files out.2.files) ∧
      ∀ names, Path.Plain names → path = Path.spell names →
        (out.1 = .ok () ↔ Unobstructed world.files names) ∧
          ∀ e, out.1 = .error e → out.2 = world ∧ Obstacle world.files names e := by
  intro out
  refine ⟨fun hok => ?_, fun e herror => ?_, fun names hplain hpath => ?_⟩
  · have hrun : (deliver (some path) output : Run Unit).run world = (.ok (), out.2) :=
      Prod.ext hok rfl
    exact ⟨run_templateAt_of_read (delivered_of_deliver hrun).1, writtenAt_of_deliver hrun⟩
  · exact growsAlong_of_deliver (Prod.ext herror rfl)
  · -- on a plain path: either nothing is in the way, or the first obstacle is reported
    subst hpath
    rcases deliver_plain hplain output world with ⟨hfree, hok⟩ | ⟨hblocked, e, hobstacle, hrun⟩
    · refine ⟨iff_of_true hok hfree, fun e herror => ?_⟩
      exact nomatch hok.symm.trans herror
    · have hout : out = (.error e, world) := hrun
      rw [hout]
      refine ⟨iff_of_false (fun hok => nomatch hok) hblocked, fun e' herror => ?_⟩
      cases herror
      exact ⟨rfl, hobstacle⟩

theorem Path.isPlain_letter {c : Char} (hslash : c ≠ '/') (hnul : c ≠ '\x00') (hdot : c ≠ '.') :
    Path.IsPlain [c] where
  nonempty := by simp
  noSlash := by simpa using Ne.symm hslash
  noNul := by simpa using Ne.symm hnul
  notHere := by simpa [Path.here] using hdot
  notAbove := by simp [Path.above]
  short := by
    have hsize := Char.utf8Size_le_four c
    rw [Utf8.encode, List.flatMap_singleton, String.length_utf8EncodeChar, Path.maxNameLength]
    omega

/-- A new directory is passed on the way to a file that was there; and a file is no directory. -/
theorem deliver_frame_letter :
    let world := World.ofFiles letterFiles
    let through := (deliver (some "n/../c".toList) ['y'] : Run Unit).run world
    let below := (deliver (some "c/d".toList) ['y'] : Run Unit).run world
    (through.1 = .ok () ∧
      (templateAt "n/../c".toList : Run Text).run through.2 = (.ok ['y'], through.2)) ∧
    (Path.Plain ["c".toList, "d".toList] ∧ "c/d".toList = Path.spell ["c".toList, "d".toList] ∧
      below.1 = .error (.write "c".toList .alreadyExists) ∧ below.2 = world ∧
        Obstacle letterFiles ["c".toList, "d".toList] (.write "c".toList .alreadyExists)) := by
  intro world through below
  have hplain : Path.Plain ["c".toList, "d".toList] := {
    nonempty := by decide
    each := by
      intro name hname
      rcases List.mem_pair.1 hname with rfl | rfl
      · exact Path.isPlain_letter (by decide) (by decide) (by decide)
      · exact Path.isPlain_letter (by decide) (by decide) (by decide)
    short := by decide }
  -- back up through the directory `n`, and on from there
  have hthrough : ((deliver (some "n/../c".toList) ['y'] : Run Unit).run world).1 = .ok () := by
    rw [run_deliver_file]
    rfl
  -- below a file
  have hbelow : ((deliver (some "c/d".toList) ['y'] : Run Unit).run world).1 =
      .error (.write "c".toList .alreadyExists) := by
    rw [run_deliver_file]
    rfl
  have hspell : "c/d".toList = Path.spell ["c".toList, "d".toList] := by decide
  obtain ⟨hunchanged, hobstacle⟩ :=
    ((deliver_frame "c/d".toList ['y'] world).2.2 _ hplain hspell).2 _ hbelow
  exact ⟨⟨hthrough, ((deliver_frame "n/../c".toList ['y'] world).1 hthrough).1⟩,
    hplain, hspell, hbelow, hunchanged, hobstacle⟩

end Codebook
