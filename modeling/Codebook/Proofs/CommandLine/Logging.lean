import Codebook.Proofs.CommandLine.Quiet
import Codebook.Proofs.CommandLine.Status
import Codebook.Proofs.Generation.Progress

/-!
# What the log shows

Which events are shown is chosen in the first step of a run, and no other step asks for it. So runs
of one request that show different events do and say the same, and what they tell is the same as
well: each log has, of the events that the run with all of them shows, those that it is to show.
A switch that only chooses what is shown may be added wherever an option may stand.
-/

namespace Codebook.CommandLine

open World (Told)

/-- Which events are shown for what a command line asks for. -/
def shownFor (environment : Environment) (request : Request) : Threshold :=
  threshold environment (request.options?.getD .none)

/-! ## Behind the choice of the events -/

/-- What a run does once it is known which events are shown. -/
def runShown (source? : Option Text) (options : Options) : StateM World Exit :=
  match source?, options.template? with
  | none, _ => return ⟨0, [], true⟩
  | some _, none => do
    match ← Host.print (Utf8.encode missingTemplate) with
    | .ok _ => return ⟨1, [], true⟩
    | .error fault =>
      return ⟨brokenOutputStatus, ["failed printing to stdout: ".toList ++ fault.message], false⟩
  | some source, some template => runGeneration source template options

theorem runOptions_eq_runShown (environment : Environment) (options : Options) (world : World) :
    (runOptions environment options : StateM World Exit) world =
      runShown (source? environment options) options
        { world with threshold := threshold environment options } := rfl

theorem runShown_quieted (source? : Option Text) (options : Options) :
    runShown source? options.quieted = runShown source? options := rfl

theorem sameTelling_runGeneration (source template : Text) (options : Options) :
    World.sameTelling.Rel (runGeneration source template options)
      (runGeneration source template options) := by
  have hgenerate := Congruence.rel_generate World.sameTelling_reads World.sameTelling_writes source
    template options.output? options.mapMode
  refine World.sameTelling.bind hgenerate fun result => ?_
  cases result with
  | error e => exact World.sameTelling.pure _
  | ok stats =>
    exact World.sameTelling.bind (World.sameTelling_report _) fun _ => World.sameTelling.pure _

theorem sameTelling_runShown (source? : Option Text) (options : Options) :
    World.sameTelling.Rel (runShown source? options) (runShown source? options) := by
  unfold runShown
  split
  · exact World.sameTelling.pure _
  · refine World.sameTelling.bind (World.sameTelling_writes.print _) fun result => ?_
    cases result <;> exact World.sameTelling.pure _
  · exact sameTelling_runGeneration _ _ options

/-! ## What is asked for -/

/-- What is done for what a command line asks for. -/
def perform (environment : Environment) : Request → StateM World Exit
  | .generate options => runOptions environment options
  | .version => answer versionLine
  | .help => answer usage

theorem outcome_eq_perform {environment : Environment} {arguments : List Text} {request : Request}
    (hparse : Request.parse arguments = .ok request) (world : World) :
    outcome environment arguments world = perform environment request world := by
  rw [outcome, run, hparse]
  cases request <;> rfl

/-- The environment in which everything is shown. -/
def tracing (json? : Option Text) : Environment := ⟨json?, some "trace".toList⟩

theorem told_answer (t : Text) (world : World) :
    Told [] world ((answer t : StateM World Exit) world).2 :=
  World.told_write (Utf8.encode t) world

/-- A generation, with the options as they are or with quiet ones. -/
theorem perform_generate (json? log? : Option Text) {options options' : Options}
    (h : options' = options ∨ options' = options.quieted) (world : World) :
    perform ⟨json?, log?⟩ (.generate options') world =
      runShown (source? (tracing json?) options) options
        { world with threshold := threshold ⟨json?, log?⟩ options' } := by
  rcases h with rfl | rfl
  · exact runOptions_eq_runShown _ _ world
  · -- apart from what is shown, the switch decides nothing
    rw [← runShown_quieted]
    exact runOptions_eq_runShown _ _ world

/-- **What is asked for does and says the same, whatever is shown of it.** There is one list of
events for all runs, of which each shows those that it is to show. -/
theorem told_perform (json? : Option Text) (request : Request) (world : World) :
    ∃ events, ∀ log? request', request' = request ∨ request' = request.quieted →
      let ended := perform ⟨json?, log?⟩ request' world
      let traced := perform (tracing json?) request world
      ended.1 = traced.1 ∧ ended.2.SameButLog traced.2 ∧
        ended.2.log = world.log ++ (shownFor ⟨json?, log?⟩ request').shown events := by
  cases request with
  | version =>
    refine ⟨[], fun log? request' hrequest => ?_⟩
    obtain rfl : request' = .version := hrequest.elim id id
    exact ⟨rfl, .refl _, (told_answer versionLine world).log⟩
  | help =>
    refine ⟨[], fun log? request' hrequest => ?_⟩
    obtain rfl : request' = .help := hrequest.elim id id
    exact ⟨rfl, .refl _, (told_answer usage world).log⟩
  | generate options =>
    have hrel := sameTelling_runShown (source? (tracing json?) options) options
    obtain ⟨-, -, events, htold, -⟩ := hrel { world with threshold := .upTo .trace }
      { world with threshold := .upTo .trace } (.refl _)
    refine ⟨events, fun log? request' hrequest => ?_⟩
    obtain ⟨options', rfl, hoptions⟩ : ∃ options', request' = .generate options' ∧
        (options' = options ∨ options' = options.quieted) := by
      rcases hrequest with rfl | rfl
      · exact ⟨options, rfl, .inl rfl⟩
      · exact ⟨options.quieted, rfl, .inr rfl⟩
    have htraced : perform (tracing json?) (.generate options) world =
        runShown (source? (tracing json?) options) options
          { world with threshold := .upTo .trace } := rfl
    have hended := perform_generate json? log? hoptions world
    obtain ⟨hexit, hworld, others, hothers, hothers'⟩ := hrel
      { world with threshold := threshold ⟨json?, log?⟩ options' }
      { world with threshold := .upTo .trace } ⟨rfl, rfl, rfl, rfl⟩
    -- the run that shows everything tells which events these are
    obtain rfl := Told.unique rfl hothers' htold
    intro ended traced
    rw [show ended = _ from hended, show traced = _ from htraced]
    exact ⟨hexit, hworld, hothers.log⟩

/-- Where the environment says what is shown, the switch changes nothing at all. -/
theorem perform_quieted (json? : Option Text) (word : Text) (request : Request) :
    perform ⟨json?, some word⟩ request.quieted = perform ⟨json?, some word⟩ request := by
  cases request <;> rfl

/-! ## Success -/

/-- What a run that succeeds was about. -/
theorem delivered_of_generate {source template : Text} {output? : Option Text}
    {mode : Phrase.MapMode} {world : World} {stats : Stats}
    (h : ((generate source template output? mode : Run Stats).run world).1 = .ok stats) :
    ∃ catalog output, (prepared source template mode world).1 = .ok (catalog, output) ∧
      Stats.of catalog output = stats ∧
      Delivered output? output world
        ((generate source template output? mode : Run Stats).run world).2 := by
  obtain ⟨hdriven, -, hdelivered, -⟩ := generate_eq_driven source template output? mode world
  obtain ⟨⟨catalog, output⟩, hbyHand, hstats⟩ := Except.map_eq_ok_iff.1 (hdriven.symm.trans h)
  have hprinted := printed_of_driven source template output? mode world
  rw [hbyHand] at hprinted
  exact ⟨catalog, output, hprinted.1, hstats, hdelivered catalog output hbyHand⟩

section Success

variable {environment : Environment} {arguments : List Text} {options : Options}
  {source template : Text} {world : World}

/-- The status is that of a success if the generation succeeds, and not otherwise. -/
theorem status_eq_zero_iff (hparse : Request.parse arguments = .ok (.generate options))
    (hsource : source? environment options = some source)
    (htemplate : options.template? = some template) :
    (outcome environment arguments world).1.status = 0 ↔
      ∃ stats, ((generate source template options.output? options.mapMode : Run Stats).run
        world).1 = .ok stats := by
  obtain ⟨-, hexit⟩ := run_comes_to hparse hsource htemplate world
  rw [outcome, hexit]
  -- every error of generating ends with status 1
  cases ((generate source template options.output? options.mapMode : Run Stats).run world).1 with
  | ok stats => exact ⟨fun _ => ⟨stats, rfl⟩, fun _ => rfl⟩
  | error e =>
    constructor
    · intro h
      exact absurd h Nat.one_ne_zero
    · rintro ⟨_, h⟩
      cases h

/-- The log of a run that succeeds ends with the completion. -/
theorem log_of_generate (hparse : Request.parse arguments = .ok (.generate options))
    (hsource : source? environment options = some source)
    (htemplate : options.template? = some template) {stats : Stats}
    (h : ((generate source template options.output? options.mapMode : Run Stats).run world).1 =
      .ok stats) :
    ∃ removed, (outcome environment arguments world).2.log = world.log ++
      (threshold environment options).shown (progress source options.output? removed stats ++
        [.complete stats.codes stats.bytes]) := by
  have hshown : World.SameButLog { world with threshold := threshold environment options } world :=
    ⟨rfl, rfl, rfl, rfl⟩
  -- the threshold does not change what is generated
  obtain ⟨hsame, -⟩ :=
    generate_sameButLog source template options.output? options.mapMode hshown
  rw [outcome, run_of_named hparse hsource htemplate]
  rcases hrun : (generate source template options.output? options.mapMode : Run Stats).run
    { world with threshold := threshold environment options } with ⟨e | stats', last⟩
  · rw [hrun, h] at hsame
    cases hsame
  · rw [hrun, h] at hsame
    obtain rfl := Except.ok.inj hsame
    obtain ⟨removed, htold⟩ := told_of_generate hrun
    exact ⟨removed, (htold.trans (World.told_note _ last)).log⟩

/-- If a run succeeds, then what is told is its progress and the completion, with the numbers of
what was rendered and has arrived. -/
theorem told_of_success {json? log? : Option Text}
    (hparse : Request.parse arguments = .ok (.generate options))
    (hsource : (options.json? <|> json?) = some source)
    (htemplate : options.template? = some template)
    (hstatus : (outcome ⟨json?, log?⟩ arguments world).1.status = 0) :
    ∃ catalog output removed,
      (prepared source template options.mapMode world).1 = .ok (catalog, output) ∧
      Delivered options.output? output world (outcome ⟨json?, log?⟩ arguments world).2 ∧
      (outcome (tracing json?) arguments world).2.log = world.log ++
        (progress source options.output? removed (Stats.of catalog output) ++
          [.complete catalog.codes.toFinset.card (Utf8.encode output).length]) := by
  have hnamed (log? : Option Text) : source? ⟨json?, log?⟩ options = some source := hsource
  obtain ⟨stats, hstats⟩ := (status_eq_zero_iff hparse (hnamed log?) htemplate).1 hstatus
  obtain ⟨catalog, output, hprepared, rfl, hdelivered⟩ := delivered_of_generate hstats
  -- the run that shows everything says which events these are
  obtain ⟨removed, hlog⟩ :=
    log_of_generate hparse (hnamed (some "trace".toList)) htemplate hstats
  rw [show threshold ⟨json?, some "trace".toList⟩ options = .upTo .trace from rfl,
    Threshold.shown_trace] at hlog
  have hlast := (run_comes_to hparse (hnamed log?) htemplate world).1
  exact ⟨catalog, output, removed, hprepared,
    hdelivered.of_outside rfl (Prod.ext hlast.files.symm hlast.printed.symm), hlog⟩

end Success

/-! ## All runs of a request -/

/--
**What is shown of a run changes nothing else.**

For every command line that is accepted and every world there is one list of events, which is what
the run adds to the log if everything is to be shown. With whatever is said in the environment, the
run ends in the same way, leaves the same world but for the log, and adds to the log those events
that are shown, in the same order. Each threshold has a word for the environment to say.

Wherever an option may stand, one more `-q` is refused only for being repeated, and in a generation
just where it is there already. Where it is taken, it changes which events are shown, and nothing
else, and not even that if the environment says what is shown.

If the run succeeds, the events are those of its progress: their numbers of codes are that of the
different codes of the catalog, and their numbers of bytes that of the output, which has arrived.
-/
theorem run_of_shown {arguments : List Text} {request : Request}
    (hparse : Request.parse arguments = .ok request) (json? : Option Text) (world : World) :
    ∃ events,
      let traced := outcome (tracing json?) arguments world
      traced.2.log = world.log ++ events ∧
      (∀ log?,
        let ended := outcome ⟨json?, log?⟩ arguments world
        ended.1 = traced.1 ∧ ended.2.SameButLog traced.2 ∧
          ended.2.log = world.log ++ (shownFor ⟨json?, log?⟩ request).shown events) ∧
      (∀ level : Threshold, (outcome ⟨json?, some level.word⟩ arguments world).2.log =
        world.log ++ level.shown events) ∧
      (∀ front back, arguments = front ++ back → OptionMayFollow front →
        let line := front ++ "-q".toList :: back
        (Request.parse line = .error (.repeated (.switch .quiet)) ∧
          ∀ options ∈ request.options?, options.quiet = true) ∨
        (Request.parse line = .ok request.quieted ∧
          (∀ options ∈ request.options?, options.quiet = false) ∧
          ∀ log?,
            let ended := outcome ⟨json?, log?⟩ arguments world
            let quieted := outcome ⟨json?, log?⟩ line world
            quieted.1 = ended.1 ∧ quieted.2.SameButLog ended.2 ∧
              quieted.2.log =
                world.log ++ (shownFor ⟨json?, log?⟩ request.quieted).shown events ∧
              (log?.isSome = true → quieted = ended))) ∧
      ∀ options source template, request = .generate options →
        (options.json? <|> json?) = some source → options.template? = some template →
        ∀ log?, (outcome ⟨json?, log?⟩ arguments world).1.status = 0 →
          ∃ catalog output removed,
            (prepared source template options.mapMode world).1 = .ok (catalog, output) ∧
            Delivered options.output? output world (outcome ⟨json?, log?⟩ arguments world).2 ∧
            events = progress source options.output? removed (Stats.of catalog output) ++
              [.complete catalog.codes.toFinset.card (Utf8.encode output).length] := by
  obtain ⟨events, hevents⟩ := told_perform json? request world
  have hline (log? : Option Text) :
      outcome ⟨json?, log?⟩ arguments world = perform ⟨json?, log?⟩ request world :=
    outcome_eq_perform hparse world
  -- all events are shown at the level that shows most
  have htraced : (outcome (tracing json?) arguments world).2.log = world.log ++ events := by
    have hlog := (hevents (some "trace".toList) request (.inl rfl)).2.2
    rw [← hline] at hlog
    rwa [show shownFor ⟨json?, some "trace".toList⟩ request = .upTo .trace from rfl,
      Threshold.shown_trace] at hlog
  refine ⟨events, htraced, fun log? => ?_, fun level => ?_, fun front back hsplit hfront => ?_, ?_⟩
  · dsimp only
    rw [tracing, hline, hline]
    exact hevents log? request (.inl rfl)
  · have hlog := (hevents (some level.word) request (.inl rfl)).2.2
    have hlevel : shownFor ⟨json?, some level.word⟩ request = level := level.ofWord_word
    rw [hline, hlog, hlevel]
  -- with `-q` put in, the line is refused or read to the same request but for the level
  · have hinsert := quietBefore_insert hfront (hsplit ▸ hparse)
    dsimp only
    generalize hresult : Request.parse (front ++ "-q".toList :: back) = result at hinsert
    cases hinsert with
    | repeated h => exact .inl ⟨rfl, h request rfl⟩
    | read h =>
      refine .inr ⟨rfl, h, fun log? => ?_⟩
      obtain ⟨hexit, hworld, -⟩ := hevents log? request (.inl rfl)
      obtain ⟨hexit', hworld', hlog'⟩ := hevents log? request.quieted (.inr rfl)
      rw [hline, outcome_eq_perform hresult]
      refine ⟨hexit'.trans hexit.symm, hworld'.trans hworld.symm, hlog', fun hword => ?_⟩
      -- a level that the environment gives goes before the option
      obtain ⟨word, rfl⟩ := Option.isSome_iff_exists.1 hword
      rw [perform_quieted]
  · rintro options source template rfl hsource htemplate log? hstatus
    obtain ⟨catalog, output, removed, hprepared, hdelivered, hlog⟩ :=
      told_of_success hparse hsource htemplate hstatus
    -- both describe the log behind what was there, so the events are the same
    exact ⟨catalog, output, removed, hprepared, hdelivered,
      List.append_cancel_left (htraced.symm.trans hlog)⟩

/-- A letter that is written, with a `-q` among the arguments and without it. -/
theorem run_of_shown_letter :
    let line := ["-json=c".toList, "-tt".toList, "-ot".toList]
    let quieted := ["-json=c".toList] ++ "-q".toList :: ["-tt".toList, "-ot".toList]
    (outcome ⟨none, none⟩ line fullWorld).2.log =
        [.loaded 0, .wrote "t".toList 1, .complete 0 1] ∧
      (outcome ⟨none, none⟩ quieted fullWorld).2.log = [] ∧
      (outcome ⟨none, none⟩ quieted fullWorld).1 = (outcome ⟨none, none⟩ line fullWorld).1 ∧
      outcome ⟨none, some "debug".toList⟩ quieted fullWorld =
        outcome ⟨none, some "debug".toList⟩ line fullWorld := by
  have hparse : Request.parse ["-json=c".toList, "-tt".toList, "-ot".toList] =
      .ok (.generate ⟨some "c".toList, some "t".toList, some "t".toList, none, false⟩) := by
    have hline : Line [.setting .json ['c'], .setting .template ['t'], .setting .output ['t']]
        ["-json=c".toList, "-tt".toList, "-ot".toList] :=
      .append .dashedSigned
        (.append (.letters (.attached rfl)) (.append (.letters (.attached rfl)) .nil))
    exact parse_of_line hline (by simp [Given.Fits])
  have hfront : OptionMayFollow ["-json=c".toList] := by
    have hline : Line [.setting .json ['c']] ["-json=c".toList] := .append .dashedSigned .nil
    exact ⟨by decide, _, parse_of_line hline (by simp [Given.Fits])⟩
  have hstatus : (outcome ⟨none, none⟩ ["-json=c".toList, "-tt".toList, "-ot".toList]
      fullWorld).1.status = 0 :=
    (status_eq_zero_iff hparse rfl rfl).2 ⟨_, generate_fullWorld⟩
  obtain ⟨events, -, hshown, -, hquiet, hsuccess⟩ := run_of_shown hparse none fullWorld
  obtain ⟨catalog, output, removed, hprepared, -, hevents⟩ :=
    hsuccess _ "c".toList "t".toList rfl rfl rfl none hstatus
  -- what was rendered is known, so the figures in the events are
  have hrendered := (congrArg Prod.fst prepared_fullWorld).symm.trans hprepared
  obtain ⟨rfl, rfl⟩ := Prod.mk.inj (Except.ok.inj hrendered)
  have hstats : Stats.of (.ofMembers []) ['x'] = ⟨0, 1⟩ := Stats.of_eq _ _
  have hannounced : announced "c".toList = [] := if_neg (by decide)
  rw [progress, hstats, hannounced] at hevents
  have hprogress : events = [.stripped removed, .loaded 0, .rendering 0, .wrote "t".toList 1,
      .complete 0 1] := hevents
  subst hprogress
  -- the line has no `-q` yet, so it is not refused with one
  rcases hquiet ["-json=c".toList] _ rfl hfront with ⟨-, hrepeated⟩ | ⟨-, -, hquieted⟩
  · exact absurd (hrepeated _ rfl) (by decide)
  · obtain ⟨hexit, -, hlog, -⟩ := hquieted none
    obtain ⟨-, -, -, hsame⟩ := hquieted (some "debug".toList)
    obtain ⟨-, -, hlog'⟩ := hshown none
    intro line quieted
    refine ⟨?_, ?_, hexit, hsame rfl⟩
    · rw [hlog']
      rfl
    · rw [hlog]
      rfl

end Codebook.CommandLine
