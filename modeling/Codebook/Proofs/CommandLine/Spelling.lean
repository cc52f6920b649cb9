import Codebook.CommandLine.Run
import Codebook.World
import Codebook.Proofs.CommandLine.Giving

/-!
# Spellings of a command line

What is given on a command line can be spelled in several ways: a value stands in an argument of its
own or behind the name of its option, a name is long or a letter, and `-q` may share its dash with
the letter behind it. `Line` says which arguments spell what is given.

However it is spelled, an argument adds to the options just what is given (`readArguments_spells`),
so that a command line comes to what it gives (`parse_of_line`). The rest is about what is given.
-/

namespace Codebook.CommandLine

/-! ## What is spelled -/

/-- What stands behind one dash, with the arguments that follow. -/
inductive Letters : List Given → Text → List Text → Prop where
  /-- As in `-t T`. -/
  | apart {setting : Setting} {c : Char} {value : Text}
      (h : (Item.setting setting).letter? = some c) :
      Letters [.setting setting value] [c] [value]
  /-- As in `-tT`. -/
  | attached {setting : Setting} {c : Char} {value : Text}
      (h : (Item.setting setting).letter? = some c) :
      Letters [.setting setting value] (c :: value) []
  /-- As in `-t=T`. -/
  | signed {setting : Setting} {c : Char} {value : Text}
      (h : (Item.setting setting).letter? = some c) :
      Letters [.setting setting value] (c :: '=' :: value) []
  /-- As in `-q`. -/
  | quiet : Letters [.quiet] ['q'] []
  /-- As in `-qt T`. -/
  | bundled {givens : List Given} {letters : Text} {more : List Text}
      (h : Letters givens letters more) :
      Letters (.quiet :: givens) ('q' :: letters) more

/-- A long name behind its dashes. -/
def Item.long (item : Item) : Text := '-' :: '-' :: item.longName

/-- Arguments that spell something given, or a few things that share a dash. -/
inductive Spells : List Given → List Text → Prop where
  /-- As in `-json J`. -/
  | dashed {value : Text} : Spells [.setting .json value] ["-json".toList, value]
  /-- As in `-json=J`. -/
  | dashedSigned {value : Text} : Spells [.setting .json value] ["-json".toList ++ '=' :: value]
  /-- As in `--template T`. -/
  | long {setting : Setting} {value : Text} :
      Spells [.setting setting value] [(Item.setting setting).long, value]
  /-- As in `--template=T`. -/
  | longSigned {setting : Setting} {value : Text} :
      Spells [.setting setting value] [(Item.setting setting).long ++ '=' :: value]
  /-- As in `--quiet`. -/
  | longQuiet : Spells [.quiet] [(Item.switch .quiet).long]
  /-- As in `-t T`, `-tT`, `-t=T`, `-q` or `-qt T`. -/
  | letters {givens : List Given} {letters : Text} {more : List Text}
      (h : Letters givens letters more) :
      Spells givens (('-' :: letters) :: more)

/-- Arguments that spell what is given, in this order. -/
inductive Line : List Given → List Text → Prop where
  | nil : Line [] []
  | append {givens others : List Given} {arguments more : List Text} (h : Spells givens arguments)
      (hmore : Line others more) : Line (givens ++ others) (arguments ++ more)

/-! ## Reading what is spelled -/

/-- What is read behind an argument that has come to something. -/
def follow (rest : List Text) : Progress → Except Rejection Request
  | .asks request => .ok request
  | .given options => readArguments options rest
  | .awaits setting options =>
    match rest with
    | [] => .error (.missingValue setting)
    | value :: rest =>
      if isOption value then .error (.missingValue setting)
      else options.set setting value >>= fun options => readArguments options rest

theorem readArguments_cons {argument : Text} (h : argument ≠ separator) (options : Options)
    (rest : List Text) :
    readArguments options (argument :: rest) = readArgument options argument >>= follow rest := by
  rw [readArguments.eq_def]
  simp only [if_neg h]
  cases readArgument options argument with
  | error rejection => rfl
  | ok progress =>
    cases progress with
    | given options => rfl
    | asks request => rfl
    | awaits setting options =>
      -- a setting that waits takes the next argument, if there is one
      cases rest with
      | nil => rfl
      | cons value rest =>
        show (if isOption value then _ else _) = if isOption value then _ else _
        cases options.set setting value <;> rfl

section Values

variable {setting : Setting} {value : Text}

theorem isOption_of_fits (h : (Given.setting setting value).Fits) : isOption value = false := by
  obtain ⟨-, hdash, -⟩ := h
  rcases value with _ | ⟨c, _ | ⟨c', value⟩⟩
  · rfl
  · simp [isOption]
  · have hc : c ≠ '-' := fun heq => hdash (congrArg some heq)
    simp [isOption, hc]

theorem withSecondDash_of_fits (h : (Given.setting setting value).Fits) :
    withSecondDash value = value := by
  obtain ⟨-, hdash, -⟩ := h
  cases value with
  | nil => rfl
  | cons c value =>
    have hc : c ≠ '-' := fun heq => hdash (congrArg some heq)
    simp [withSecondDash, hc, hc.symm]

theorem attachedValue_of_fits (h : (Given.setting setting value).Fits) :
    attachedValue value = value := by
  obtain ⟨-, -, hsign⟩ := h
  cases value with
  | nil => rfl
  | cons c value =>
    have hc : c ≠ '=' := fun heq => hsign (congrArg some heq)
    simp [attachedValue, hc]

/-- A setting that waits for its value gets it from the next argument. -/
theorem follow_awaits (h : (Given.setting setting value).Fits) (options : Options)
    (rest : List Text) :
    follow (value :: rest) (.awaits setting options) =
      options.giveAll [.setting setting value] >>= fun options => readArguments options rest := by
  show (if isOption value then _ else _) = _
  rw [isOption_of_fits h, if_neg Bool.false_ne_true]
  simp only [Options.giveAll, Options.give, bind_assoc, Except.ok_bind]

theorem follow_given (result : Except Rejection Options) (rest : List Text) :
    (result.map .given >>= follow rest) = result >>= fun options => readArguments options rest := by
  cases result <;> rfl

end Values

/-! ### Behind one dash -/

theorem ofLetter?_of_letter? {item : Item} {c : Char} (h : item.letter? = some c) :
    Item.ofLetter? c = some item := by
  rcases item with ⟨_ | _ | _ | _⟩ | ⟨_ | _ | _⟩ <;> cases h <;> rfl

/-- A setting behind a dash, with its value attached. -/
theorem readLetters_setting {setting : Setting} {c : Char}
    (h : (Item.setting setting).letter? = some c) (options : Options) {rest : Text}
    (hrest : rest ≠ []) :
    readLetters options (c :: rest) =
      (options.giveAll [.setting setting (attachedValue rest)]).map .given := by
  simp only [readLetters, ofLetter?_of_letter? h, if_neg hrest, Options.giveAll, Options.give]
  cases options.set setting (attachedValue rest) <;> rfl

/-- A `q` behind a dash, with letters behind it. -/
theorem readLetters_quiet (options : Options) (letters : Text) :
    readLetters options ('q' :: letters) =
      options.give .quiet >>= fun options => readLetters options letters := by
  have hletter : Item.ofLetter? 'q' = some (.switch .quiet) := ofLetter?_of_letter? rfl
  simp only [readLetters, hletter, Options.turn, Options.give]
  cases options.quiet <;> rfl

/-- What stands behind a dash gives just what it spells. -/
theorem follow_readLetters {givens : List Given} {letters : Text} {more : List Text}
    (h : Letters givens letters more) (hfits : ∀ given ∈ givens, given.Fits) (options : Options)
    (rest : List Text) :
    (readLetters options letters >>= follow (more ++ rest)) =
      options.giveAll givens >>= fun options => readArguments options rest := by
  induction h generalizing options with
  | @apart setting c value h =>
    have hread : readLetters options [c] = .ok (.awaits setting options) := by
      simp only [readLetters, ofLetter?_of_letter? h, if_true]
    rw [hread]
    exact follow_awaits (hfits _ List.mem_cons_self) options rest
  | @attached setting c value h =>
    have hvalue := hfits _ List.mem_cons_self
    rw [readLetters_setting h options hvalue.1, attachedValue_of_fits hvalue]
    exact follow_given _ rest
  | @signed setting c value h =>
    rw [readLetters_setting h options (List.cons_ne_nil _ _)]
    exact follow_given _ rest
  | quiet =>
    rw [readLetters_quiet, Options.giveAll, bind_assoc, bind_assoc]
    rfl
  | bundled h ih =>
    -- the `q` is given first, and the letters behind it are read with the options it leaves
    rw [readLetters_quiet, Options.giveAll, bind_assoc, bind_assoc]
    refine congrArg (options.give .quiet >>= ·) (funext fun options => ?_)
    exact ih (fun given hgiven => hfits given (List.mem_cons_of_mem _ hgiven)) options

/-- What stands behind a dash starts with neither another dash nor the name `json`. -/
theorem Letters.head {givens : List Given} {letters : Text} {more : List Text}
    (h : Letters givens letters more) : ∃ c rest, letters = c :: rest ∧ c ≠ '-' ∧ c ≠ 'j' := by
  cases h with
  | apart h | attached h | signed h =>
    refine ⟨_, _, rfl, ?_, ?_⟩ <;> rintro rfl <;> exact nomatch ofLetter?_of_letter? h
  | quiet | bundled => exact ⟨_, _, rfl, by decide, by decide⟩

theorem Letters.more_fits {givens : List Given} {letters : Text} {more : List Text}
    (h : Letters givens letters more) (hfits : ∀ given ∈ givens, given.Fits) :
    more.map withSecondDash = more := by
  induction h with
  | apart h => exact congrArg (· :: []) (withSecondDash_of_fits (hfits _ List.mem_cons_self))
  | attached | signed | quiet => rfl
  | bundled h ih => exact ih fun given hgiven => hfits given (List.mem_cons_of_mem _ hgiven)

/-! ### Behind two dashes -/

theorem ofLongName?_longName (item : Item) : Item.ofLongName? item.longName = some item := by
  rcases item with ⟨_ | _ | _ | _⟩ | ⟨_ | _ | _⟩ <;> rfl

theorem takeWhile_longName (item : Item) (rest : Text) :
    (item.longName ++ rest).takeWhile (· != '=') =
      item.longName ++ rest.takeWhile (· != '=') := by
  have hname : item.longName.all (· != '=') = true := by
    rcases item with ⟨_ | _ | _ | _⟩ | ⟨_ | _ | _⟩ <;> rfl
  exact List.takeWhile_append_of_pos (List.all_eq_true.1 hname)

theorem readArgument_long (options : Options) (item : Item) :
    readArgument options item.long = readLong options item.longName none := by
  have hname := takeWhile_longName item []
  rw [List.append_nil, List.takeWhile_nil, List.append_nil] at hname
  rw [Item.long, readArgument, hname, List.drop_length]

theorem readArgument_longSigned (options : Options) (item : Item) (value : Text) :
    readArgument options (item.long ++ '=' :: value) =
      readLong options item.longName (some value) := by
  have hname := takeWhile_longName item ('=' :: value)
  rw [List.takeWhile_cons_of_neg (by decide), List.append_nil] at hname
  rw [Item.long, List.cons_append, List.cons_append, readArgument, hname, List.drop_left]

/-- A long name is more than the dashes in front of it. -/
theorem long_append_ne_separator (item : Item) (rest : Text) : item.long ++ rest ≠ separator := by
  have hne : item.longName ≠ [] := by
    rcases item with ⟨_ | _ | _ | _⟩ | ⟨_ | _ | _⟩ <;> decide
  simp [Item.long, separator, hne]

theorem readArguments_long {setting : Setting} {value : Text}
    (h : (Given.setting setting value).Fits) (options : Options) (rest : List Text) :
    readArguments options ((Item.setting setting).long :: value :: rest) =
      options.giveAll [.setting setting value] >>= fun options => readArguments options rest := by
  have hne := long_append_ne_separator (.setting setting) []
  rw [List.append_nil] at hne
  have hread : readLong options (Item.setting setting).longName none =
      .ok (.awaits setting options) := by
    simp only [readLong, ofLongName?_longName]
  rw [readArguments_cons hne, readArgument_long, hread]
  exact follow_awaits h options rest

theorem readArguments_longSigned (options : Options) (setting : Setting) (value : Text)
    (rest : List Text) :
    readArguments options (((Item.setting setting).long ++ '=' :: value) :: rest) =
      options.giveAll [.setting setting value] >>= fun options => readArguments options rest := by
  have hread : readLong options (Item.setting setting).longName (some value) =
      (options.giveAll [.setting setting value]).map .given := by
    simp only [readLong, ofLongName?_longName, Options.giveAll, Options.give]
    cases options.set setting value <;> rfl
  rw [readArguments_cons (long_append_ne_separator _ _), readArgument_longSigned, hread]
  exact follow_given _ rest

theorem readArguments_longQuiet (options : Options) (rest : List Text) :
    readArguments options ((Item.switch .quiet).long :: rest) =
      options.giveAll [.quiet] >>= fun options => readArguments options rest := by
  have hread : readLong options (Item.switch .quiet).longName none =
      (options.giveAll [.quiet]).map .given := by
    simp only [readLong, ofLongName?_longName, Options.giveAll, Options.give, Options.turn]
    cases options.quiet <;> rfl
  rw [readArguments_cons (by decide), readArgument_long, hread]
  exact follow_given _ rest

/-! ### A whole command line -/

/-- Only where `json` follows the dash, another dash is put in front. -/
theorem withSecondDash_dash {c : Char} (h : c ≠ 'j') (rest : Text) :
    withSecondDash ('-' :: c :: rest) = '-' :: c :: rest := by
  simp [withSecondDash, h, h.symm]

theorem withSecondDash_long (item : Item) (rest : Text) :
    withSecondDash (item.long ++ rest) = item.long ++ rest :=
  withSecondDash_dash (by decide) _

theorem withSecondDash_json {rest : Text} (h : rest = [] ∨ rest.head? = some '=') :
    withSecondDash ("-json".toList ++ rest) = (Item.setting .json).long ++ rest := by
  rcases h with rfl | h
  · rfl
  · obtain ⟨value, rfl⟩ := List.head?_eq_some_iff.1 h
    exact if_pos (Or.inr (List.isPrefixOf_iff_prefix.2 ⟨value, rfl⟩))

/-- **However it is spelled, an argument adds to the options just what is given.** -/
theorem readArguments_spells {givens : List Given} {arguments : List Text}
    (h : Spells givens arguments) (hfits : ∀ given ∈ givens, given.Fits) (options : Options)
    (rest : List Text) :
    readArguments options (arguments.map withSecondDash ++ rest) =
      options.giveAll givens >>= fun options => readArguments options rest := by
  cases h with
  | @dashed value =>
    have hvalue := hfits _ List.mem_cons_self
    have hargument : withSecondDash "-json".toList = _ := withSecondDash_json (.inl rfl)
    rw [List.append_nil] at hargument
    rw [List.map_cons, List.map_singleton, hargument, withSecondDash_of_fits hvalue]
    exact readArguments_long hvalue options rest
  | @dashedSigned value =>
    rw [List.map_singleton, withSecondDash_json (.inr rfl)]
    exact readArguments_longSigned options .json value rest
  | @long setting value =>
    have hvalue := hfits _ List.mem_cons_self
    have hargument := withSecondDash_long (.setting setting) []
    rw [List.append_nil] at hargument
    rw [List.map_cons, List.map_singleton, hargument, withSecondDash_of_fits hvalue]
    exact readArguments_long hvalue options rest
  | @longSigned setting value =>
    rw [List.map_singleton, withSecondDash_long]
    exact readArguments_longSigned options setting value rest
  | longQuiet => exact readArguments_longQuiet options rest
  | letters hletters =>
    -- a bundle of letters is none of the words that get a second dash
    obtain ⟨c, letters, rfl, hdash, hjson⟩ := hletters.head
    have hne : '-' :: c :: letters ≠ separator := fun heq => hdash (by cases heq; rfl)
    have hread : readArgument options ('-' :: c :: letters) =
        readLetters options (c :: letters) := by
      simp [readArgument]
    rw [List.map_cons, withSecondDash_dash hjson, hletters.more_fits hfits, List.cons_append,
      readArguments_cons hne, hread]
    exact follow_readLetters hletters hfits options rest

/-- A command line that is spelled out asks for a generation with what it gives. -/
theorem parse_of_line {givens : List Given} {arguments : List Text} (h : Line givens arguments)
    (hfits : ∀ given ∈ givens, given.Fits) :
    Request.parse arguments = (Options.none.giveAll givens).map .generate := by
  -- by induction on the line, from any options on
  have hread : ∀ options, readArguments options (arguments.map withSecondDash) =
      (options.giveAll givens).map .generate := by
    induction h with
    | nil => exact fun options => rfl
    | @append givens others arguments more h hmore ih =>
      intro options
      rw [List.map_append, readArguments_spells h fun given hgiven =>
        hfits given (List.mem_append_left _ hgiven), Options.giveAll_append]
      have hothers : ∀ given ∈ others, given.Fits := fun given hgiven =>
        hfits given (List.mem_append_right _ hgiven)
      cases options.giveAll givens with
      | error rejection => rfl
      | ok options => exact ih hothers options
  exact hread .none

/-! ## What a run does -/

section Runs

variable {m : Type → Type} [Monad m] [Host m]

/-- Which catalog the environment names does not matter where the command line names one. -/
theorem runOptions_withSource {environment environment' : Environment}
    (hlog : environment.log? = environment'.log?) {options : Options} (hnone : options.json? = none)
    (source : Text) :
    (runOptions environment (options.withSource source) : m Exit) =
      runOptions { environment' with json? := some source } options := by
  have hthreshold : threshold environment (options.withSource source) =
      threshold { environment' with json? := some source } options := by
    simp only [threshold, hlog]
    rfl
  have hsource : source? { environment' with json? := some source } options = some source := by
    simp only [source?, hnone]
    rfl
  rw [runOptions, runOptions, hthreshold, hsource]
  rfl

/-- What a run does with what is given. -/
def runGivens (environment : Environment) (givens : List Given) : m Exit :=
  match Options.none.giveAll givens with
  | .error rejection => return ⟨2, ["error: ".toList ++ rejection.message], true⟩
  | .ok options => runOptions environment options

theorem run_eq_runGivens {givens : List Given} {arguments : List Text} (h : Line givens arguments)
    (hfits : ∀ given ∈ givens, given.Fits) (environment : Environment) :
    (run environment arguments : m Exit) = runGivens environment givens := by
  rw [run, runGivens, parse_of_line h hfits]
  cases Options.none.giveAll givens <;> rfl

/-- The catalog may be left to the environment. -/
theorem runGivens_source {givens others : List Given} {source : Text}
    {environment environment' : Environment} (hlog : environment.log? = environment'.log?)
    (hperm : (.setting .json source :: others).Perm givens) (hfits : ∀ given ∈ givens, given.Fits)
    (hdistinct : (givens.map Given.item).Nodup) :
    (runGivens environment givens : m Exit) =
      runGivens { environment' with json? := some source } others := by
  have hothers : ∀ given ∈ others, given.Fits := fun given hgiven =>
    hfits given (hperm.mem_iff.1 (List.mem_cons_of_mem _ hgiven))
  rw [runGivens, runGivens, Options.giveAll_source hperm hfits hdistinct]
  cases hgiven : Options.none.giveAll others with
  | error rejection => rfl
  | ok options =>
    have hitems := (hperm.map Given.item).nodup_iff.2 hdistinct
    have hnew : options.has (.setting .json) ≠ true := by
      rw [Ne, Options.has_of_giveAll hothers hgiven, or_iff_left (by decide)]
      exact (List.nodup_cons.1 hitems).1
    -- the others leave the source open, so the environment fills it in
    have hnone : options.json? = none := Option.not_isSome_iff_eq_none.1 hnew
    exact runOptions_withSource hlog hnone source

/-- **However a command line is spelled, and in whatever order, it is the same run.** Nor does it
matter whether it names the catalog or leaves that to the environment, and what it names counts.
But it may give nothing twice: such a run does nothing but complain. -/
theorem run_of_line {source : Text} {environment environment' : Environment}
    (hlog : environment.log? = environment'.log?) {givens : List Given} {arguments : List Text}
    (hsource : .setting .json source ∈ givens) (hfits : ∀ given ∈ givens, given.Fits)
    (hdistinct : (givens.map Given.item).Nodup) (hline : Line givens arguments) :
    (∀ givens' arguments', givens'.Perm givens → Line givens' arguments' →
        (run environment arguments : m Exit) = run environment' arguments') ∧
      (∀ others arguments', (.setting .json source :: others).Perm givens →
        Line others arguments' →
        (run environment arguments : m Exit) =
          run { environment' with json? := some source } arguments') ∧
      ∀ repeated arguments', (∀ given ∈ repeated, given.Fits) →
        ¬ (repeated.map Given.item).Nodup → Line repeated arguments' →
        ∃ complaint, (run environment arguments' : m Exit) = pure ⟨2, [complaint], true⟩ := by
  refine ⟨?_, ?_, ?_⟩
  · intro givens' arguments' hperm hline'
    have hfits' : ∀ given ∈ givens', given.Fits := fun given hgiven =>
      hfits given (hperm.mem_iff.1 hgiven)
    have hdistinct' := (hperm.map Given.item).nodup_iff.2 hdistinct
    -- both runs come to the one that finds the catalog in the environment
    have hfirst := (List.perm_cons_erase hsource).symm
    rw [run_eq_runGivens hline hfits, run_eq_runGivens hline' hfits',
      runGivens_source hlog hfirst hfits hdistinct,
      runGivens_source rfl (hfirst.trans hperm.symm) hfits' hdistinct']
  · intro others arguments' hperm hline'
    have hothers : ∀ given ∈ others, given.Fits := fun given hgiven =>
      hfits given (hperm.mem_iff.1 (List.mem_cons_of_mem _ hgiven))
    rw [run_eq_runGivens hline hfits, run_eq_runGivens hline' hothers,
      runGivens_source hlog hperm hfits hdistinct]
  · intro repeated arguments' hfits' hrepeated hline'
    obtain ⟨rejection, hrejection⟩ := Options.giveAll_of_repeated hfits' hrepeated .none
    rw [run_eq_runGivens hline' hfits', runGivens, hrejection]
    exact ⟨_, rfl⟩

/-- A catalog, a template and a `-q`, in a few of their spellings; the last line has two of `-q`. -/
theorem run_of_line_bundled :
    (run ⟨none, none⟩ ["-json=c".toList, "-qtt".toList] : StateM World Exit) =
        run ⟨some "d".toList, none⟩
          ["-t=t".toList, "--quiet".toList, "--json".toList, "c".toList] ∧
      (run ⟨none, none⟩ ["-json=c".toList, "-qtt".toList] : StateM World Exit) =
        run ⟨some "c".toList, none⟩ ["-qt".toList, "t".toList] ∧
      ∃ complaint, (run ⟨none, none⟩ ["-qtt".toList, "-json".toList, "c".toList, "-q".toList] :
        StateM World Exit) = pure ⟨2, [complaint], true⟩ := by
  have hline : Line [.setting .json ['c'], .quiet, .setting .template ['t']]
      ["-json=c".toList, "-qtt".toList] :=
    .append .dashedSigned (.append (.letters (.bundled (.attached rfl))) .nil)
  have hline' : Line [.setting .template ['t'], .quiet, .setting .json ['c']]
      ["-t=t".toList, "--quiet".toList, "--json".toList, "c".toList] :=
    .append (.letters (.signed rfl)) (.append .longQuiet (.append .long .nil))
  have hbare : Line [.quiet, .setting .template ['t']] ["-qt".toList, "t".toList] :=
    .append (.letters (.bundled (.apart rfl))) .nil
  have hrepeated : Line [.quiet, .setting .template ['t'], .setting .json ['c'], .quiet]
      ["-qtt".toList, "-json".toList, "c".toList, "-q".toList] :=
    .append (.letters (.bundled (.attached rfl)))
      (.append .dashed (.append (.letters .quiet) .nil))
  have hlog : (⟨none, none⟩ : Environment).log? = (⟨some ['d'], none⟩ : Environment).log? := rfl
  have hsource : Given.setting .json ['c'] ∈
      [.setting .json ['c'], .quiet, .setting .template ['t']] := List.mem_cons_self
  -- the same three options in another order, with the source elsewhere, and one too many
  obtain ⟨hsame, helsewhere, hrefused⟩ := run_of_line (m := StateM World) hlog hsource
    (by simp [Given.Fits]) (by decide) hline
  exact ⟨hsame _ _ (by decide) hline', helsewhere _ _ (List.Perm.refl _) hbare,
    hrefused _ _ (by simp [Given.Fits]) (by decide) hrepeated⟩

end Runs

end Codebook.CommandLine
