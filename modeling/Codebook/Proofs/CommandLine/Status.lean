import Codebook.Proofs.CommandLine.Refinement

/-!
# What the status of a run says

A command line is refused, or it asks for the usage or the version, or it asks for a generation; and
for that the catalog may be missing, or the template. `KeepsDiscipline` is what the status and the
usage are to say in each case. It fails in one case only (`Unheard`): the complaint about a missing
template is the one that goes to standard output, and where that takes nothing, the run breaks off
before the usage, with a status of its own. Nothing has been changed then, either.
-/

namespace Codebook

theorem World.write_of_ne_nil {content : Bytes} (h : content ≠ []) (world : World) :
    World.write content world =
      if world.acceptsOutput then (.ok (), { world with printed := world.printed ++ content })
      else (.error .noSpace, world) := by
  unfold World.write
  simp only [h, or_false]

namespace CommandLine

/-- How a run ends and the world that it leaves. -/
def outcome (environment : Environment) (arguments : List Text) (world : World) : Exit × World :=
  (run environment arguments : StateM World Exit) world

/-- What the status and the usage of a run are to say. -/
structure KeepsDiscipline (environment : Environment) (arguments : List Text) (world : World) :
    Prop where
  /-- The status is 2 where the command line is refused, and nowhere else. -/
  refused : (outcome environment arguments world).1.status = 2 ↔
    ∃ rejection, Request.parse arguments = .error rejection
  refused_files : ∀ rejection, Request.parse arguments = .error rejection →
    (outcome environment arguments world).2.files = world.files
  /-- Otherwise it says whether the run succeeds. -/
  accepted : ∀ request, Request.parse arguments = .ok request →
    (outcome environment arguments world).1.status = 0 ∨
      (outcome environment arguments world).1.status = 1
  withoutSource : ∀ options, Request.parse arguments = .ok (.generate options) →
    source? environment options = none →
    (outcome environment arguments world).1 = ⟨0, [], true⟩ ∧
      (outcome environment arguments world).2.outside = world.outside
  withoutTemplate : ∀ options, Request.parse arguments = .ok (.generate options) →
    source? environment options ≠ none → options.template? = none →
    (outcome environment arguments world).1.status = 1 ∧
      (outcome environment arguments world).1.usage = true ∧
      (outcome environment arguments world).2.files = world.files ∧
      (world.acceptsOutput = true → (outcome environment arguments world).2.printed =
        world.printed ++ Utf8.encode missingTemplate)

/-- The template is missing, and standard output does not take the complaint about it. -/
def Unheard (environment : Environment) (arguments : List Text) (world : World) : Prop :=
  ∃ options, Request.parse arguments = .ok (.generate options) ∧
    source? environment options ≠ none ∧ options.template? = none ∧ world.acceptsOutput = false

variable {environment : Environment} {arguments : List Text} {options : Options}

/-! ## Each kind of command line -/

theorem outcome_of_rejected {rejection : Rejection}
    (hparse : Request.parse arguments = .error rejection) (world : World) :
    outcome environment arguments world =
      (⟨2, ["error: ".toList ++ rejection.message], true⟩, world) := by
  rw [outcome, run, hparse]
  rfl

/-- Whoever asks for the version or the usage gets the status of a success, even if nobody can read
what was asked for. -/
theorem outcome_of_answer {t : Text}
    (hrun : (run environment arguments : StateM World Exit) = answer t) (world : World) :
    (outcome environment arguments world).1 = ⟨0, [], false⟩ := by
  rw [outcome, hrun]
  rfl

theorem outcome_of_generate (hparse : Request.parse arguments = .ok (.generate options))
    (world : World) :
    outcome environment arguments world =
      (runOptions environment options : StateM World Exit) world := by
  rw [outcome, run, hparse]

theorem outcome_of_no_source (hparse : Request.parse arguments = .ok (.generate options))
    (hsource : source? environment options = none) (world : World) :
    outcome environment arguments world =
      (⟨0, [], true⟩, { world with threshold := threshold environment options }) := by
  rw [outcome_of_generate hparse, runOptions, hsource]
  rfl

theorem outcome_of_no_template (hparse : Request.parse arguments = .ok (.generate options))
    (hsource : source? environment options ≠ none) (htemplate : options.template? = none)
    (world : World) :
    outcome environment arguments world =
      if world.acceptsOutput then
        (⟨1, [], true⟩, { world with
          threshold := threshold environment options
          printed := world.printed ++ Utf8.encode missingTemplate })
      else
        (⟨brokenOutputStatus, ["failed printing to stdout: ".toList ++ FileFault.noSpace.message],
          false⟩, { world with threshold := threshold environment options }) := by
  obtain ⟨source, hsource⟩ := Option.ne_none_iff_exists'.1 hsource
  have hsaid : Utf8.encode missingTemplate ≠ [] := mt Utf8.encode_eq_nil_iff.1 (by decide)
  have hprint := World.write_of_ne_nil hsaid
    { world with threshold := threshold environment options }
  -- whether the output takes the line decides how the run ends
  rw [outcome_of_generate hparse, runOptions, hsource, htemplate, run_stateM_bind]
  show (World.write _ >>= _ : StateM World Exit)
    { world with threshold := threshold environment options } = _
  rw [run_stateM_bind, hprint]
  split
  · rfl
  · rfl

/-- With a catalog and a template, the generation decides. -/
theorem status_of_named {source template : Text}
    (hparse : Request.parse arguments = .ok (.generate options))
    (hsource : source? environment options = some source)
    (htemplate : options.template? = some template) (world : World) :
    (outcome environment arguments world).1.status = 0 ∨
      (outcome environment arguments world).1.status = 1 := by
  have hexit := (run_comes_to hparse hsource htemplate world).2
  rw [outcome, hexit]
  split
  · exact .inl rfl
  · exact .inr rfl

/-! ## All of them -/

/-- What was not heard breaks the run off, with everything outside as it was. -/
theorem Unheard.outcome_eq {world : World} (h : Unheard environment arguments world) :
    (outcome environment arguments world).1 = ⟨brokenOutputStatus,
        ["failed printing to stdout: ".toList ++ FileFault.noSpace.message], false⟩ ∧
      (outcome environment arguments world).2.outside = world.outside := by
  obtain ⟨options, hparse, hsource, htemplate, hfull⟩ := h
  rw [outcome_of_no_template hparse hsource htemplate, hfull]
  exact ⟨rfl, rfl⟩

theorem status_of_accepted {request : Request} (hparse : Request.parse arguments = .ok request)
    {world : World} (hheard : ¬ Unheard environment arguments world) :
    (outcome environment arguments world).1.status = 0 ∨
      (outcome environment arguments world).1.status = 1 := by
  cases request with
  | version =>
    have hrun : (run environment arguments : StateM World Exit) = answer versionLine := by
      rw [run, hparse]
    exact .inl (congrArg Exit.status (outcome_of_answer hrun world))
  | help =>
    have hrun : (run environment arguments : StateM World Exit) = answer usage := by
      rw [run, hparse]
    exact .inl (congrArg Exit.status (outcome_of_answer hrun world))
  | generate options =>
    cases hsource : source? environment options with
    | none => exact .inl (by rw [outcome_of_no_source hparse hsource])
    | some source =>
      have hknown : source? environment options ≠ none := hsource ▸ Option.some_ne_none source
      cases htemplate : options.template? with
      | none =>
        -- this is the one place where the output has to be heard
        cases hfull : world.acceptsOutput with
        | false => exact absurd ⟨options, hparse, hknown, htemplate, hfull⟩ hheard
        | true => exact .inr (by rw [outcome_of_no_template hparse hknown htemplate, hfull]; rfl)
      | some template => exact status_of_named hparse hsource htemplate world

/--
**The status of a run says what it is to say, unless a complaint is not heard.**

This is so for every command line, every environment and every world: one that is refused, and no
other, has status 2, and otherwise the status is 0 or 1; the usage goes with a missing catalog and
with a missing template; and in these cases no file is changed. The one exception is a complaint
about a missing template that standard output does not take. Then the status is none of these and
there is no usage, but nothing has been changed.
-/
theorem keepsDiscipline_iff (environment : Environment) (arguments : List Text) (world : World) :
    (KeepsDiscipline environment arguments world ↔ ¬ Unheard environment arguments world) ∧
      (Unheard environment arguments world →
        (outcome environment arguments world).1.status = brokenOutputStatus ∧
        (outcome environment arguments world).1.usage = false ∧
        (outcome environment arguments world).2.outside = world.outside) := by
  have hbroken (hunheard : Unheard environment arguments world) :
      (outcome environment arguments world).1.status = brokenOutputStatus ∧
        (outcome environment arguments world).1.usage = false ∧
        (outcome environment arguments world).2.outside = world.outside := by
    obtain ⟨hexit, houtside⟩ := hunheard.outcome_eq
    exact ⟨congrArg Exit.status hexit, congrArg Exit.usage hexit, houtside⟩
  refine ⟨⟨fun hkeeps hunheard => ?_, fun hheard => ?_⟩, hbroken⟩
  -- status 101 is neither of the two that an accepted line may end with
  · obtain ⟨hstatus, -, -⟩ := hbroken hunheard
    obtain ⟨options, hparse, -⟩ := hunheard
    have haccepted := hkeeps.accepted _ hparse
    rw [hstatus] at haccepted
    exact absurd haccepted (by decide)
  · refine
      { refused := ⟨fun hstatus => ?_, fun ⟨rejection, hparse⟩ => ?_⟩
        refused_files := fun rejection hparse => ?_
        accepted := fun request hparse => status_of_accepted hparse hheard
        withoutSource := fun options hparse hsource => ?_
        withoutTemplate := fun options hparse hsource htemplate => ?_ }
    · cases hparse : Request.parse arguments with
      | error rejection => exact ⟨rejection, rfl⟩
      | ok request =>
        -- an accepted line ends with 0 or 1, so a line that ends with 2 was refused
        have haccepted := status_of_accepted hparse hheard
        rw [hstatus] at haccepted
        exact absurd haccepted (by decide)
    · rw [outcome_of_rejected hparse]
    · rw [outcome_of_rejected hparse]
    · rw [outcome_of_no_source hparse hsource]
      exact ⟨rfl, rfl⟩
    · have houtput : world.acceptsOutput = true := by
        by_contra hfull
        exact hheard ⟨options, hparse, hsource, htemplate, Bool.eq_false_of_not_eq_true hfull⟩
      rw [outcome_of_no_template hparse hsource htemplate, houtput]
      exact ⟨rfl, rfl, rfl, fun _ => rfl⟩

/-- A catalog without a template, where standard output takes nothing: the status is neither 0 nor
1, and there is no usage. -/
theorem not_keepsDiscipline_fullWorld :
    ¬ KeepsDiscipline ⟨none, none⟩ ["--json".toList, "c".toList] fullWorld ∧
      (outcome ⟨none, none⟩ ["--json".toList, "c".toList] fullWorld).1 =
        ⟨101, ["failed printing to stdout: No space left on device (os error 28)".toList],
          false⟩ := by
  have hparse : Request.parse ["--json".toList, "c".toList] =
      .ok (.generate ⟨some "c".toList, none, none, none, false⟩) := by
    decide
  have hunheard : Unheard ⟨none, none⟩ ["--json".toList, "c".toList] fullWorld :=
    ⟨_, hparse, by decide, rfl, rfl⟩
  refine ⟨fun hkeeps => ?_, ?_⟩
  · -- what was asked for was printed nowhere, so it was not accepted
    have haccepted := hkeeps.accepted _ hparse
    rw [hunheard.outcome_eq.1] at haccepted
    exact absurd haccepted (by decide)
  · exact hunheard.outcome_eq.1.trans rfl

end CommandLine

end Codebook
