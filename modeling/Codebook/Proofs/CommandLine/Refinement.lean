import Codebook.Proofs.CommandLine.Spelling
import Codebook.Proofs.Generation.Wording

/-!
# A command line and the run behind it

A command line that names a catalog and a template comes down to one run: it has its outcome and
leaves its files, and what it prints and says besides follows from that outcome. Which events are
shown is all that the command line adds to the world, and no run depends on that.

What is rendered is printed in the last step of a run and nowhere else, so that a run that fails has
printed nothing. Where standard output takes nothing, only a run that prints nothing succeeds.
-/

namespace Codebook

/-! ## What a run prints -/

/-- What a run prints of its output. -/
def printedBy (output? : Option Text) (output : Text) : Bytes :=
  match output? with
  | none => Utf8.encode output
  | some _ => []

theorem Delivered.printed {output? : Option Text} {output : Text} {before after : World}
    (h : Delivered output? output before after) :
    after.printed = before.printed ++ printedBy output? output := by
  cases output? with
  | none => exact h.2
  | some path => exact h.2.trans (List.append_nil _).symm

theorem printed_of_deliver_error {output? : Option Text} {output : Text} {world last : World}
    {e : Error} (h : (deliver output? output : Run Unit).run world = (.error e, last)) :
    last.printed = world.printed := by
  cases output? with
  | none =>
    rw [run_deliver_output] at h
    split at h
    · exact nomatch h
    · cases h
      rfl
  -- nothing is printed of what goes to a file
  | some path =>
    rw [run_deliver_file] at h
    split at h
    · cases h
      rfl
    · split at h
      · cases h
        rfl
      · exact nomatch h

/-- The stages in front of the last one change nothing but the log. -/
theorem sameButLog_prepared (source template : Text) (mode : Phrase.MapMode) (world : World) :
    (prepared source template mode world).2.SameButLog world :=
  .of_unlogged (view_prepared World.keeping_unlogged_reads source template mode world)

/-- Driven by hand, a run that succeeds prints its output, if that has nowhere else to go. One that
fails prints nothing. -/
theorem printed_of_driven (source template : Text) (output? : Option Text)
    (mode : Phrase.MapMode) (world : World) :
    match (driven source template output? mode world).1 with
    | .ok (catalog, output) => (prepared source template mode world).1 = .ok (catalog, output) ∧
        (driven source template output? mode world).2.printed =
          world.printed ++ printedBy output? output
    | .error _ => (driven source template output? mode world).2.printed = world.printed := by
  have hsame := sameButLog_prepared source template mode world
  unfold driven
  generalize prepared source template mode world = stage at hsame ⊢
  rcases stage with ⟨e | ⟨catalog, output⟩, between⟩
  · exact hsame.printed
  -- nothing has been printed up to here, so it is all up to the delivery
  have hbetween : between.printed = world.printed := hsame.printed
  dsimp only
  rw [← hbetween]
  generalize hdeliver : (deliver output? output : Run Unit).run between = stop
  rcases stop with ⟨e | _, last⟩
  · exact printed_of_deliver_error hdeliver
  · exact ⟨rfl, (delivered_of_deliver hdeliver).printed⟩

theorem Utf8.encode_eq_nil_iff {t : Text} : Utf8.encode t = [] ↔ t = [] := by
  cases t with
  | nil => exact ⟨fun _ => rfl, fun _ => rfl⟩
  | cons c t => simp [Utf8.encode, String.utf8EncodeChar_ne_nil]

/-- Where standard output takes nothing, what is rendered has to be nothing. -/
theorem driven_of_full_output {source template : Text} {mode : Phrase.MapMode} {world : World}
    (hfull : world.acceptsOutput = false) {catalog : Catalog} {output : Text}
    (hprepared : (prepared source template mode world).1 = .ok (catalog, output)) :
    (driven source template none mode world).1 =
      if output = [] then .ok (catalog, []) else .error (.write standardOutput .noSpace) := by
  have hsame := sameButLog_prepared source template mode world
  unfold driven
  generalize prepared source template mode world = stage at hprepared hsame ⊢
  obtain ⟨result, between⟩ := stage
  obtain rfl : result = .ok (catalog, output) := hprepared
  have hfull' : between.acceptsOutput = false := hsame.acceptsOutput.trans hfull
  dsimp only
  rw [run_deliver_output, hfull']
  -- only writing nothing succeeds on a full output
  by_cases hempty : output = []
  · subst hempty
    rfl
  · rw [if_neg (by simpa [Utf8.encode_eq_nil_iff] using hempty), if_neg hempty]

/-! ## The run in one go -/

/-- What a run comes to does not depend on the log. -/
theorem generate_sameButLog (source template : Text) (output? : Option Text)
    (mode : Phrase.MapMode) {world world' : World} (h : world.SameButLog world') :
    let run := (generate source template output? mode : Run Stats).run world
    let run' := (generate source template output? mode : Run Stats).run world'
    run.1 = run'.1 ∧ run.2.SameButLog run'.2 := by
  -- both runs have the outcome of the stages in the second world
  have hstaged := rel_generate_staged source template output? mode
  obtain ⟨hresult, hlast⟩ := hstaged world world' h
  obtain ⟨hresult', hlast'⟩ := hstaged world' world' (.refl world')
  exact ⟨hresult.trans hresult'.symm, hlast.trans hlast'.symm⟩

/-- What a run comes to, told by its stages. -/
theorem generate_sameButLog_driven (source template : Text) (output? : Option Text)
    (mode : Phrase.MapMode) (world : World) :
    let run := (generate source template output? mode : Run Stats).run world
    let byHand := driven source template output? mode world
    run.1 = (byHand.1.map fun (catalog, output) => Stats.of catalog output) ∧
      run.2.SameButLog byHand.2 := by
  obtain ⟨hresult, hlast⟩ :=
    rel_generate_staged source template output? mode world world (.refl world)
  have hstaged := run_staged source template output? mode world
  rw [hstaged] at hresult hlast
  exact ⟨hresult, hlast⟩

/-- **What is rendered is printed by a run that succeeds, if it has nowhere else to go.** -/
theorem printed_of_generate {source template : Text} {output? : Option Text}
    {mode : Phrase.MapMode} {world : World} {stats : Stats}
    (h : ((generate source template output? mode : Run Stats).run world).1 = .ok stats) :
    ∃ catalog output, (prepared source template mode world).1 = .ok (catalog, output) ∧
      ((generate source template output? mode : Run Stats).run world).2.printed =
        world.printed ++ printedBy output? output := by
  obtain ⟨hresult, hlast⟩ := generate_sameButLog_driven source template output? mode world
  have hprinted := printed_of_driven source template output? mode world
  rw [h] at hresult
  obtain ⟨⟨catalog, output⟩, hdriven, -⟩ := Except.map_eq_ok_iff.1 hresult.symm
  rw [hdriven] at hprinted
  exact ⟨catalog, output, hprinted.1, hlast.printed.trans hprinted.2⟩

/-- **A run that fails prints nothing.** -/
theorem printed_of_generate_error {source template : Text} {output? : Option Text}
    {mode : Phrase.MapMode} {world : World} {error : Error}
    (h : ((generate source template output? mode : Run Stats).run world).1 = .error error) :
    ((generate source template output? mode : Run Stats).run world).2.printed = world.printed := by
  obtain ⟨hresult, hlast⟩ := generate_sameButLog_driven source template output? mode world
  have hprinted := printed_of_driven source template output? mode world
  rw [h] at hresult
  cases hdriven : (driven source template output? mode world).1 with
  | ok rendered =>
    rw [hdriven] at hresult
    exact nomatch hresult
  | error error =>
    rw [hdriven] at hprinted
    exact hlast.printed.trans hprinted

/-- Where standard output takes nothing, a run without a path fails unless it renders nothing. -/
theorem generate_of_full_output {source template : Text} {mode : Phrase.MapMode} {world : World}
    (hfull : world.acceptsOutput = false) {catalog : Catalog} {output : Text}
    (hprepared : (prepared source template mode world).1 = .ok (catalog, output)) :
    ((generate source template none mode : Run Stats).run world).1 =
      if output = [] then .ok (Stats.of catalog [])
      else .error (.write standardOutput .noSpace) := by
  rw [(generate_sameButLog_driven source template none mode world).1,
    driven_of_full_output hfull hprepared]
  by_cases hempty : output = []
  · rw [if_pos hempty, if_pos hempty]
    rfl
  · rw [if_neg hempty, if_neg hempty]
    rfl

namespace CommandLine

/-! ## What a command line says -/

/-- All that is said about what went wrong, each complaint with a line feed behind it. -/
def Exit.said (exit : Exit) : Text := exit.complaints.flatMap Text.ended

/-- The lines that tell about an error: what went wrong, and behind it the cause, which is what the
first line says behind the words that the program puts in front. There is no other cause, but a
template may have more to say; a download has no cause at all. -/
inductive Tells : Error → List Text → Prop where
  | read {path cause : Text} {fault : FileFault}
      (h : (Error.read path fault).message =
        "failed to read ".toList ++ path ++ ": ".toList ++ cause) :
      Tells (.read path fault)
        ["error: ".toList ++ (Error.read path fault).message, "  caused by: ".toList ++ cause]
  | parse {fault : CatalogFault} {cause : Text}
      (h : (Error.parse fault).message = "failed to parse error catalog: ".toList ++ cause) :
      Tells (.parse fault)
        ["error: ".toList ++ (Error.parse fault).message, "  caused by: ".toList ++ cause]
  | template {error : Template.TemplateError} {cause behind : Text} {more : List Text}
      (h : (Error.template error).message = "template error: ".toList ++ (cause ++ behind))
      (hcause : "  caused by: ".toList ++ cause ∈ more) :
      Tells (.template error)
        (("error: ".toList ++ ("template error: ".toList ++ cause)) :: more)
  | write {path cause : Text} {fault : FileFault}
      (h : (Error.write path fault).message =
        "failed to write ".toList ++ path ++ ": ".toList ++ cause) :
      Tells (.write path fault)
        ["error: ".toList ++ (Error.write path fault).message, "  caused by: ".toList ++ cause]
  | download {fault : DownloadFault} :
      Tells (.download fault) ["error: ".toList ++ (Error.download fault).message]

theorem oneLine_label_error : Text.OneLine "error: ".toList := Text.oneLine_literal (by decide)

theorem oneLine_label_cause : Text.OneLine "  caused by: ".toList :=
  Text.oneLine_literal (by decide)

/-- The complaints about an error and its only cause are two lines. -/
theorem linesOf_two_complaints {message front cause : Text} (hmessage : message.OneLine)
    (h : message = front ++ cause) :
    let complaints := ["error: ".toList ++ message, "  caused by: ".toList ++ cause]
    Text.linesOf (complaints.flatMap Text.ended) = complaints := by
  intro complaints
  have hcause : cause.OneLine := (Text.oneLine_append.1 (h ▸ hmessage)).2
  refine Text.linesOf_ended fun line hline => ?_
  rcases List.mem_pair.1 hline with rfl | rfl
  · exact Text.oneLine_append.2 ⟨oneLine_label_error, hmessage⟩
  · exact Text.oneLine_append.2 ⟨oneLine_label_cause, hcause⟩

/-- What a template says may run over several lines, of which the first is repeated as the cause. -/
theorem tells_template (error : Template.TemplateError) :
    Tells (.template error) (Text.linesOf ((complaints (.template error)).flatMap Text.ended)) := by
  have hlabel : Text.OneLine "template error: ".toList := Text.oneLine_literal (by decide)
  obtain ⟨more, hlines, hcause⟩ := Text.linesOf_ended_pair
    ("error: ".toList ++ ("template error: ".toList ++ error.message))
    ("  caused by: ".toList ++ error.message)
    ((error.causes.map ("  caused by: ".toList ++ ·)).flatMap Text.ended)
  rw [Text.firstLine_append oneLine_label_error, Text.firstLine_append hlabel] at hlines
  rw [Text.firstLine_append oneLine_label_cause] at hcause
  -- the message is cut at its first line feed, and with it the first two complaints
  obtain ⟨behind, hbehind⟩ := Text.exists_eq_firstLine_append error.message
  have hmessage : (Error.template error).message =
      "template error: ".toList ++ (Text.firstLine error.message ++ behind) := by
    rw [← hbehind]
    rfl
  have hsaid : Text.linesOf ((complaints (.template error)).flatMap Text.ended) = _ := hlines
  rw [hsaid]
  exact .template hmessage hcause

/-- **Complaints about an error are lines that tell about it**, if it is told on one line or the
template is to blame. -/
theorem tells_linesOf_complaints {error : Error} (h : error.OneLine) :
    Tells error (Text.linesOf ((complaints error).flatMap Text.ended)) := by
  cases error with
  | read path fault => exact linesOf_two_complaints h rfl ▸ .read rfl
  | parse fault => exact linesOf_two_complaints h rfl ▸ .parse rfl
  | template error => exact tells_template error
  | write path fault => exact linesOf_two_complaints h rfl ▸ .write rfl
  | download fault =>
    have hline : Text.OneLine ("error: ".toList ++ (Error.download fault).message) :=
      Text.oneLine_append.2 ⟨oneLine_label_error, h⟩
    have hlines : Text.linesOf ((complaints (.download fault)).flatMap Text.ended) =
        ["error: ".toList ++ (Error.download fault).message] :=
      Text.linesOf_ended fun line hmem => List.mem_singleton.1 hmem ▸ hline
    exact hlines ▸ .download

/-! ## What a command line does -/

theorem run_stateM_bind {α β : Type} (p : StateM World α) (next : α → StateM World β)
    (world : World) : (p >>= next) world = next (p world).1 (p world).2 := rfl

/-- A command line that names a catalog and a template generates, with the events shown that are to
be shown, and ends as the generation does. -/
theorem run_of_named {environment : Environment} {arguments : List Text} {options : Options}
    {source template : Text} (hparse : Request.parse arguments = .ok (.generate options))
    (hsource : source? environment options = some source)
    (htemplate : options.template? = some template) (world : World) :
    (run environment arguments : StateM World Exit) world =
      match (generate source template options.output? options.mapMode : Run Stats).run
        { world with threshold := threshold environment options } with
      | (.error error, last) => (⟨1, complaints error, false⟩, last)
      | (.ok stats, last) =>
        (⟨0, [], false⟩, (World.note (.complete stats.codes stats.bytes) last).2) := by
  have hrun : (run environment arguments : StateM World Exit) =
      (do
        Host.showEvents (threshold environment options)
        runGeneration source template options) := by
    rw [run, hparse]
    show runOptions environment options = _
    rw [runOptions, hsource, htemplate]
  -- the level is set in front of the run, so the world that it starts in has it
  rw [hrun]
  show (runGeneration source template options : StateM World Exit)
    { world with threshold := threshold environment options } = _
  unfold runGeneration
  rw [run_stateM_bind]
  rcases (generate source template options.output? options.mapMode : Run Stats).run
    { world with threshold := threshold environment options } with ⟨_ | _, last⟩
  · rfl
  · rfl

/-- **What a command line comes to is what the run behind it comes to.** -/
theorem run_comes_to {environment : Environment} {arguments : List Text} {options : Options}
    {source template : Text} (hparse : Request.parse arguments = .ok (.generate options))
    (hsource : source? environment options = some source)
    (htemplate : options.template? = some template) (world : World) :
    let ended := (run environment arguments : StateM World Exit) world
    let generated :=
      (generate source template options.output? options.mapMode : Run Stats).run world
    ended.2.SameButLog generated.2 ∧
      ended.1 = match generated.1 with
        | .ok _ => ⟨0, [], false⟩
        | .error error => ⟨1, complaints error, false⟩ := by
  intro ended generated
  have hended : ended = _ := run_of_named hparse hsource htemplate world
  -- the events that are shown are no part of the outcome
  have hshown : World.SameButLog { world with threshold := threshold environment options } world :=
    ⟨rfl, rfl, rfl, rfl⟩
  obtain ⟨hresult, hlast⟩ :=
    generate_sameButLog source template options.output? options.mapMode hshown
  rw [hended, ← show _ = generated.1 from hresult]
  revert hlast
  rcases (generate source template options.output? options.mapMode : Run Stats).run
    { world with threshold := threshold environment options } with ⟨error | stats, last⟩
  · exact fun hlast => ⟨hlast, rfl⟩
  · exact fun hlast => ⟨hlast.note_left _, rfl⟩

/--
**A command line does what the run behind it does.**

It names a catalog itself or leaves that to the environment. It succeeds if and only if the run
does, with the files that the run leaves, and prints what was rendered if that has nowhere else to
go. If the run fails, it prints nothing and complains about the error; where the paths have no line
feed in them, the lines of what it says tell about the error and its cause. Where standard output
takes nothing, and that is where the output was to go, there is an error unless the output is empty.
-/
theorem run_refines_generate {environment : Environment} {arguments : List Text}
    {options : Options} {source template : Text}
    (hparse : Request.parse arguments = .ok (.generate options))
    (hsource : options.json? = some source ∨
      options.json? = none ∧ environment.json? = some source)
    (htemplate : options.template? = some template) (world : World) :
    let ended := (run environment arguments : StateM World Exit) world
    let generated :=
      (generate source template options.output? options.mapMode : Run Stats).run world
    let rendered := (prepared source template options.mapMode world).1
    ended.2.files = generated.2.files ∧
      (∀ stats, generated.1 = .ok stats → ended.1 = ⟨0, [], false⟩ ∧
        ∃ catalog output, rendered = .ok (catalog, output) ∧
          ended.2.printed = world.printed ++ printedBy options.output? output) ∧
      (∀ error, generated.1 = .error error → ended.1 = ⟨1, complaints error, false⟩ ∧
        ended.2.printed = world.printed ∧
          (source.OneLine → template.OneLine → (∀ path ∈ options.output?, path.OneLine) →
            Tells error (Text.linesOf ended.1.said))) ∧
      (world.acceptsOutput = false → options.output? = none →
        ∀ catalog output, rendered = .ok (catalog, output) →
          if output = [] then ended.1 = ⟨0, [], false⟩
          else generated.1 = .error (.write standardOutput .noSpace) ∧
            ended.1 =
              ⟨1, ["error: failed to write <stdout>: No space left on device (os error 28)".toList,
                "  caused by: No space left on device (os error 28)".toList], false⟩) := by
  intro ended generated rendered
  have hnamed : source? environment options = some source := by
    unfold source?
    rcases hsource with h | ⟨h, h'⟩
    · rw [h]
      rfl
    · rw [h, h']
      rfl
  obtain ⟨hlast, hexit⟩ := run_comes_to hparse hnamed htemplate world
  refine ⟨hlast.files, fun stats hok => ?_, fun error herror => ?_, ?_⟩
  · obtain ⟨catalog, output, hrendered, hprinted⟩ := printed_of_generate hok
    rw [show _ = Except.ok stats from hok] at hexit
    exact ⟨hexit, catalog, output, hrendered, hlast.printed.trans hprinted⟩
  · rw [show _ = Except.error error from herror] at hexit
    have hprinted := hlast.printed.trans (printed_of_generate_error herror)
    refine ⟨hexit, hprinted, fun hsource htemplate houtput => ?_⟩
    have hline := fails_generate hsource htemplate houtput options.mapMode world error herror
    rw [show ended.1 = _ from hexit]
    exact tells_linesOf_complaints hline
  · intro hfull hnowhere catalog output hrendered
    -- the generation says whether there was anything to print
    have hgenerated :
        ((generate source template options.output? options.mapMode : Run Stats).run world).1 =
          if output = [] then .ok (Stats.of catalog [])
          else .error (.write standardOutput .noSpace) := by
      rw [hnowhere]
      exact generate_of_full_output hfull hrendered
    rw [hgenerated] at hexit
    split
    · next hempty =>
      rw [if_pos hempty] at hexit
      exact hexit
    · next hempty =>
      rw [if_neg hempty] at hgenerated hexit
      exact ⟨hgenerated, hexit⟩

/-- The files of a letter, and a standard output that takes nothing. -/
def fullWorld : World := { World.ofFiles letterFiles with acceptsOutput := false }

/-- The letter is rendered. -/
theorem prepared_fullWorld :
    prepared "c".toList "t".toList .substitute fullWorld =
      (.ok (.ofMembers [], ['x']), fullWorld) := by
  have htemplate : (templateAt "t".toList : Run Text).run fullWorld = (.ok ['x'], fullWorld) :=
    run_templateAt_of_read rfl
  have hcatalog : (catalogFrom "c".toList : Run Catalog).run fullWorld =
      (.ok (.ofMembers []), fullWorld) := by
    rw [catalogFrom_of_path (by decide)]
    exact run_catalogAt_of_parse rfl Catalog.parse_braces
  have hrender : (renderTemplate (.ofMembers []) .substitute ['x'] : Run Text).run fullWorld =
      (.ok ['x'], fullWorld) := by
    rw [renderTemplate_of_ok (Template.render_of_no_marker rfl _)]
    rfl
  simp only [prepared, htemplate, hcatalog, hrender]

/-- It goes over the template. -/
theorem generate_fullWorld :
    ((generate "c".toList "t".toList (some "t".toList) .substitute : Run Stats).run fullWorld).1 =
      .ok (Stats.of (.ofMembers []) ['x']) := by
  have hdeliver : (deliver (some "t".toList) ['x'] : Run Unit).run fullWorld =
      (.ok (), fullWorld) := rfl
  rw [(generate_sameButLog_driven _ _ _ _ _).1]
  simp only [driven, prepared_fullWorld, hdeliver]
  rfl

/-- The catalog is missing. -/
theorem generate_fullWorld_missing :
    ((generate "d".toList "t".toList none .substitute : Run Stats).run fullWorld).1 =
      .error (.read "d".toList .notFound) := by
  have htemplate : (templateAt "t".toList : Run Text).run fullWorld = (.ok ['x'], fullWorld) :=
    run_templateAt_of_read rfl
  have hmissing : (catalogFrom "d".toList : Run Catalog).run fullWorld =
      (.error (.read "d".toList .notFound), fullWorld) := by
    rw [catalogFrom_of_path (by decide)]
    rfl
  rw [(generate_sameButLog_driven _ _ _ _ _).1]
  simp only [driven, prepared, htemplate, hmissing]
  rfl

/-- A letter cannot be printed, but it can be written; and a catalog that the environment names is
missing. -/
theorem run_refines_generate_letter :
    let run (environment : Environment) (arguments : List Text) : Exit × World :=
      (run environment arguments : StateM World Exit) fullWorld
    (run ⟨none, none⟩ ["-json=c".toList, "-tt".toList]).1 =
        ⟨1, ["error: failed to write <stdout>: No space left on device (os error 28)".toList,
          "  caused by: No space left on device (os error 28)".toList], false⟩ ∧
      ((run ⟨none, none⟩ ["-json=c".toList, "-tt".toList, "-ot".toList]).1 = ⟨0, [], false⟩ ∧
        (run ⟨none, none⟩ ["-json=c".toList, "-tt".toList, "-ot".toList]).2.printed = []) ∧
      (run ⟨some "d".toList, none⟩ ["-tt".toList]).1.status = 1 ∧
        Tells (.read "d".toList .notFound)
          (Text.linesOf (run ⟨some "d".toList, none⟩ ["-tt".toList]).1.said) := by
  have hparse : Request.parse ["-json=c".toList, "-tt".toList] =
      .ok (.generate ⟨some "c".toList, some "t".toList, none, none, false⟩) := by
    have hline : Line [.setting .json ['c'], .setting .template ['t']]
        ["-json=c".toList, "-tt".toList] :=
      .append .dashedSigned (.append (.letters (.attached rfl)) .nil)
    exact parse_of_line hline (by simp [Given.Fits])
  have hparse' : Request.parse ["-json=c".toList, "-tt".toList, "-ot".toList] =
      .ok (.generate ⟨some "c".toList, some "t".toList, some "t".toList, none, false⟩) := by
    have hline : Line [.setting .json ['c'], .setting .template ['t'], .setting .output ['t']]
        ["-json=c".toList, "-tt".toList, "-ot".toList] :=
      .append .dashedSigned
        (.append (.letters (.attached rfl)) (.append (.letters (.attached rfl)) .nil))
    exact parse_of_line hline (by simp [Given.Fits])
  have hparse'' : Request.parse ["-tt".toList] =
      .ok (.generate ⟨none, some "t".toList, none, none, false⟩) := by
    have hline : Line [.setting .template ['t']] ["-tt".toList] :=
      .append (.letters (.attached rfl)) .nil
    exact parse_of_line hline (by simp [Given.Fits])
  have hnamed (template? output? : Option Text) :
      (⟨some "c".toList, template?, output?, none, false⟩ : Options).json? = some "c".toList ∨
        (⟨some "c".toList, template?, output?, none, false⟩ : Options).json? = none ∧
          (⟨none, none⟩ : Environment).json? = some "c".toList := .inl rfl
  have hmissing : (⟨none, some "t".toList, none, none, false⟩ : Options).json? = some "d".toList ∨
      (⟨none, some "t".toList, none, none, false⟩ : Options).json? = none ∧
        (⟨some "d".toList, none⟩ : Environment).json? = some "d".toList := .inr ⟨rfl, rfl⟩
  -- one line for each of the three cases: nothing can be printed, a file, no catalog
  obtain ⟨-, -, -, hfull⟩ := run_refines_generate hparse (hnamed _ _) rfl fullWorld
  obtain ⟨-, hwriting, -, -⟩ := run_refines_generate hparse' (hnamed _ _) rfl fullWorld
  obtain ⟨-, -, hlacking, -⟩ := run_refines_generate hparse'' hmissing rfl fullWorld
  obtain ⟨hexit, catalog, output, -, hprinted⟩ := hwriting _ generate_fullWorld
  obtain ⟨hstopped, -, htells⟩ := hlacking _ generate_fullWorld_missing
  have hnoSpace := hfull rfl rfl _ _ (congrArg Prod.fst prepared_fullWorld)
  rw [if_neg (List.cons_ne_nil _ _)] at hnoSpace
  refine ⟨?_, ⟨?_, ?_⟩, ?_, ?_⟩
  · exact hnoSpace.2
  · exact hexit
  · rw [hprinted]
    rfl
  · exact congrArg Exit.status hstopped
  · exact htells (by decide) (by decide) fun path => (absurd · (Option.not_mem_none path))

end CommandLine

end Codebook
