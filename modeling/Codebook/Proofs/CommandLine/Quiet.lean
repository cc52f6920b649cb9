import Codebook.Proofs.CommandLine.Spelling

/-!
# One more switch

`-q` may be put wherever an option may stand. What is read behind it is read as before, except that
the options are quiet: no other option looks at the switch. The one thing that can come of it is
that the switch is refused for being repeated, and then it was there before. `QuietBefore` says this
of each step of the reader, from the letters behind a dash up to the whole line.
-/

namespace Codebook.CommandLine

/-! ## Quiet options -/

namespace Options

/-- The options with the switch turned on. -/
def quieted (options : Options) : Options := { options with quiet := true }

theorem exists_quieted {options : Options} (h : options.quiet = true) :
    ∃ options' : Options, options'.quiet = false ∧ options'.quieted = options := by
  obtain ⟨json?, template?, output?, mapMode?, quiet⟩ := options
  obtain rfl : quiet = true := h
  exact ⟨⟨json?, template?, output?, mapMode?, false⟩, rfl, rfl⟩

theorem set_quieted (options : Options) (setting : Setting) (value : Text) :
    options.quieted.set setting value = (options.set setting value).map quieted := by
  -- no setting looks at the switch
  obtain ⟨json?, template?, output?, mapMode?, quiet⟩ := options
  cases setting with
  | json => cases json? <;> rfl
  | template =>
    cases template? with
    | some => rfl
    | none =>
      simp only [set, quieted]
      cases readPath .template value <;> rfl
  | output =>
    cases output? with
    | some => rfl
    | none =>
      simp only [set, quieted]
      cases readPath .output value <;> rfl
  | mapMode =>
    cases mapMode? with
    | some => rfl
    | none =>
      simp only [set, quieted]
      cases readMapMode value <;> rfl

/-- A setting does not touch the switch. -/
theorem quiet_of_set {options options' : Options} {setting : Setting} {value : Text}
    (h : options.set setting value = .ok options') : options'.quiet = options.quiet := by
  cases setting with
  | json =>
    obtain ⟨_, -, h⟩ := Except.bind_eq_ok_iff.1 h
    cases h
    rfl
  | template | output | mapMode =>
    obtain ⟨_, -, h⟩ := Except.bind_eq_ok_iff.1 h
    obtain ⟨_, -, h⟩ := Except.bind_eq_ok_iff.1 h
    cases h
    rfl

end Options

/-- The options of a generation that is asked for. -/
def Request.options? : Request → Option Options
  | .generate options => some options
  | .version | .help => none

/-- The same, with quiet options. -/
def Request.quieted : Request → Request
  | .generate options => .generate options.quieted
  | .version => .version
  | .help => .help

/-- The options that something comes to. -/
def Progress.options? : Progress → Option Options
  | .given options | .awaits _ options => some options
  | .asks request => request.options?

/-- The same, with quiet options. -/
def Progress.quieted : Progress → Progress
  | .given options => .given options.quieted
  | .awaits setting options => .awaits setting options.quieted
  | .asks request => .asks request.quieted

theorem Request.quiet_of_quieted {request : Request} :
    ∀ options ∈ request.quieted.options?, options.quiet = true := by
  cases request <;> rintro _ ⟨⟩
  rfl

theorem Progress.quiet_of_quieted {progress : Progress} :
    ∀ options ∈ progress.quieted.options?, options.quiet = true := by
  cases progress with
  | asks request => exact Request.quiet_of_quieted
  | given | awaits =>
    rintro _ ⟨⟩
    rfl

/-! ## Reading with quiet options -/

/-- What something comes to, and what it comes to with options that are quiet before. -/
inductive QuietBefore {α : Type} (quieted : α → α) (options? : α → Option Options) :
    Except Rejection α → Except Rejection α → Prop where
  /-- The same, with quiet options. -/
  | read {a : α} : (∀ options ∈ options? a, options.quiet = false) →
      QuietBefore quieted options? (.ok a) (.ok (quieted a))
  /-- The switch is there twice then. -/
  | repeated {result : Except Rejection α} :
      (∀ a, result = .ok a → ∀ options ∈ options? a, options.quiet = true) →
      QuietBefore quieted options? result (.error (.repeated (.switch .quiet)))
  | refused {rejection rejection' : Rejection} :
      QuietBefore quieted options? (.error rejection) (.error rejection')

/-- Quiet options stay quiet. -/
theorem QuietBefore.quiet_of_ok {α : Type} {quieted : α → α} {options? : α → Option Options}
    {result result' : Except Rejection α} (h : QuietBefore quieted options? result result')
    (hquieted : ∀ a, ∀ options ∈ options? (quieted a), options.quiet = true) {a : α}
    (ha : result' = .ok a) : ∀ options ∈ options? a, options.quiet = true := by
  cases h with
  | read => exact Except.ok.inj ha ▸ hquieted _
  | repeated | refused => exact nomatch ha

/-- What an argument comes to, and what it comes to with quiet options. -/
abbrev Progress.QuietBefore : Except Rejection Progress → Except Rejection Progress → Prop :=
  CommandLine.QuietBefore quieted options?

/-- What a command line asks for, and what it asks for with quiet options. -/
abbrev Request.QuietBefore : Except Rejection Request → Except Rejection Request → Prop :=
  CommandLine.QuietBefore quieted options?

/-! ### One argument -/

section Argument

variable {options : Options}

theorem turn_quiet (hquiet : options.quiet = false) :
    options.turn .quiet = .ok (.given options.quieted) := by
  rw [Options.turn, if_neg (by simp [hquiet])]
  rfl

theorem quietBefore_asks {request : Request} (h : request.options? = none) :
    Progress.QuietBefore (.ok (.asks request)) (.ok (.asks request.quieted)) := by
  refine .read fun options hmem => ?_
  have hnone : options ∈ (none : Option Options) := h ▸ hmem
  exact absurd hnone (Option.not_mem_none options)

theorem quietBefore_turn (hquiet : options.quiet = false) (switch : Switch) :
    Progress.QuietBefore (options.turn switch)
      (options.quieted.turn switch) := by
  cases switch with
  | quiet =>
    rw [turn_quiet hquiet]
    refine .repeated fun progress hprogress => ?_
    cases hprogress
    rintro _ ⟨⟩
    rfl
  | version => exact quietBefore_asks rfl
  | help => exact quietBefore_asks rfl

theorem quietBefore_set (hquiet : options.quiet = false) (setting : Setting) (value : Text) :
    Progress.QuietBefore ((options.set setting value).map .given)
      ((options.quieted.set setting value).map .given) := by
  rw [Options.set_quieted]
  cases hset : options.set setting value with
  | error rejection => exact .refused
  | ok options' =>
    refine .read ?_
    rintro _ ⟨⟩
    rw [Options.quiet_of_set hset, hquiet]

theorem quietBefore_awaits (hquiet : options.quiet = false) (setting : Setting) :
    Progress.QuietBefore (.ok (.awaits setting options))
      (.ok (.awaits setting options.quieted)) := by
  refine .read ?_
  rintro _ ⟨⟩
  exact hquiet

theorem quietBefore_readLong (hquiet : options.quiet = false) (name : Text)
    (value? : Option Text) :
    Progress.QuietBefore (readLong options name value?)
      (readLong options.quieted name value?) := by
  unfold readLong
  split
  · exact .refused
  · exact quietBefore_awaits hquiet _
  · exact quietBefore_set hquiet _ _
  · exact quietBefore_turn hquiet _
  · exact .refused

theorem quietBefore_readLetters (hquiet : options.quiet = false) (letters : Text) :
    Progress.QuietBefore (readLetters options letters)
      (readLetters options.quieted letters) := by
  induction letters with
  | nil =>
    refine .read ?_
    rintro _ ⟨⟩
    exact hquiet
  | cons c rest ih =>
    rw [readLetters, readLetters]
    split
    · exact .refused
    · split
      · exact quietBefore_awaits hquiet _
      · exact quietBefore_set hquiet _ _
    · next switch _ =>
      cases switch with
      | quiet =>
        -- the letters behind it are read with quiet options
        rw [turn_quiet hquiet]
        exact .repeated fun progress => ih.quiet_of_ok fun _ => Progress.quiet_of_quieted
      | version => exact quietBefore_asks rfl
      | help => exact quietBefore_asks rfl

theorem quietBefore_readArgument (hquiet : options.quiet = false) (argument : Text) :
    Progress.QuietBefore (readArgument options argument)
      (readArgument options.quieted argument) := by
  unfold readArgument
  split
  · dsimp only
    split
    · exact quietBefore_readLong hquiet _ _
    · exact quietBefore_readLong hquiet _ _
  · exact quietBefore_readLetters hquiet _
  · exact .refused

end Argument

/-! ### All arguments -/

/-- Options that are quiet make requests that are. -/
theorem quiet_of_readArguments {arguments : List Text}
    (h : ∀ options : Options, options.quiet = false →
      Request.QuietBefore (readArguments options arguments)
        (readArguments options.quieted arguments))
    {options : Options} (hquiet : options.quiet = true) {request : Request}
    (hread : readArguments options arguments = .ok request) :
    ∀ o ∈ request.options?, o.quiet = true := by
  obtain ⟨options', hquiet', rfl⟩ := Options.exists_quieted hquiet
  exact (h options' hquiet').quiet_of_ok (fun _ => Request.quiet_of_quieted) hread

section Follow

variable {rest : List Text}

/-- What follows an argument, if that is so of every shorter line. -/
theorem quietBefore_follow
    (ih : ∀ arguments : List Text, arguments.length ≤ rest.length → ∀ options : Options,
      options.quiet = false → Request.QuietBefore (readArguments options arguments)
        (readArguments options.quieted arguments))
    {progress : Progress} (hquiet : ∀ o ∈ progress.options?, o.quiet = false) :
    Request.QuietBefore (follow rest progress) (follow rest progress.quieted) := by
  cases progress with
  | asks request => exact .read hquiet
  | given options => exact ih rest (Nat.le_refl _) options (hquiet options rfl)
  | awaits setting options =>
    cases rest with
    | nil => exact .refused
    | cons value rest =>
      show Request.QuietBefore (if isOption value then _ else _) (if isOption value then _ else _)
      split
      · exact .refused
      -- the value is taken alike, with the switch set and without
      · rw [Options.set_quieted]
        cases hset : options.set setting value with
        | error rejection => exact .refused
        | ok options' =>
          have hquiet' : options'.quiet = false :=
            (Options.quiet_of_set hset).trans (hquiet options rfl)
          exact ih rest (Nat.le_succ _) options' hquiet'

/-- Behind options that are quiet, requests are quiet. -/
theorem quiet_of_follow
    (ih : ∀ arguments : List Text, arguments.length ≤ rest.length → ∀ options : Options,
      options.quiet = false → Request.QuietBefore (readArguments options arguments)
        (readArguments options.quieted arguments))
    {progress : Progress} (hquiet : ∀ o ∈ progress.options?, o.quiet = true) {request : Request}
    (hfollow : follow rest progress = .ok request) : ∀ o ∈ request.options?, o.quiet = true := by
  cases progress with
  | asks request' =>
    cases hfollow
    exact hquiet
  | given options =>
    exact quiet_of_readArguments (ih rest (Nat.le_refl _)) (hquiet options rfl) hfollow
  | awaits setting options =>
    cases rest with
    | nil => exact nomatch hfollow
    | cons value rest =>
      have hvalue : (if isOption value then .error (.missingValue setting)
        else options.set setting value >>= fun options => readArguments options rest) =
          .ok request := hfollow
      split at hvalue
      · exact nomatch hvalue
      -- the value that was waited for leaves the switch as it is
      · obtain ⟨options', hset, hread⟩ := Except.bind_eq_ok_iff.1 hvalue
        have hquiet' : options'.quiet = true :=
          (Options.quiet_of_set hset).trans (hquiet options rfl)
        exact quiet_of_readArguments (ih rest (Nat.le_succ _)) hquiet' hread

end Follow

/-- **With quiet options a line is read as without them, but for the options, unless it turns the
switch on itself.** -/
theorem quietBefore_readArguments (arguments : List Text) (options : Options)
    (hquiet : options.quiet = false) :
    Request.QuietBefore (readArguments options arguments)
      (readArguments options.quieted arguments) := by
  -- an argument may take the next one for its value, so the induction is on the length
  induction hlength : arguments.length using Nat.strongRecOn generalizing arguments options
    with
  | ind n ih =>
    cases arguments with
    | nil =>
      refine .read ?_
      rintro _ ⟨⟩
      exact hquiet
    | cons argument rest =>
      have hshorter (others : List Text) (hle : others.length ≤ rest.length) (options : Options)
          (hquiet : options.quiet = false) :
          Request.QuietBefore (readArguments options others)
            (readArguments options.quieted others) :=
        ih others.length (by rw [← hlength, List.length_cons]; omega) others options hquiet rfl
      by_cases hseparator : argument = separator
      · subst hseparator
        cases rest with
        | nil =>
          refine .read ?_
          rintro _ ⟨⟩
          exact hquiet
        | cons behind rest => exact .refused
      · rw [readArguments_cons hseparator, readArguments_cons hseparator]
        generalize hread : readArgument options argument = result
        generalize hread' : readArgument options.quieted argument = result'
        have hargument := quietBefore_readArgument hquiet argument
        rw [hread, hread'] at hargument
        cases hargument with
        | read h => exact quietBefore_follow hshorter h
        | refused => exact .refused
        | repeated h =>
          refine .repeated fun request hrequest => ?_
          obtain ⟨progress, hprogress, hfollow⟩ := Except.bind_eq_ok_iff.1 hrequest
          exact quiet_of_follow hshorter (h progress hprogress) hfollow

/-! ## Where an option may stand -/

section Asks

variable {options : Options} {request : Request}

/-- An argument asks for the version or the usage, and never for a generation. -/
theorem options?_of_turn {switch : Switch} (h : options.turn switch = .ok (.asks request)) :
    request.options? = none := by
  cases switch with
  | quiet =>
    rw [Options.turn] at h
    split at h
    · cases h
    · cases h
  | version | help =>
    cases h
    rfl

theorem options?_of_map_given {result : Except Rejection Options}
    (h : result.map Progress.given = .ok (.asks request)) : request.options? = none := by
  obtain ⟨_, -, h⟩ := Except.map_eq_ok_iff.1 h
  cases h

theorem options?_of_readLong {name : Text} {value? : Option Text}
    (h : readLong options name value? = .ok (.asks request)) : request.options? = none := by
  unfold readLong at h
  split at h
  · cases h
  · cases h
  · exact options?_of_map_given h
  · exact options?_of_turn h
  · cases h

theorem options?_of_readLetters {letters : Text}
    (h : readLetters options letters = .ok (.asks request)) : request.options? = none := by
  induction letters generalizing options with
  | nil => cases h
  | cons c rest ih =>
    rw [readLetters] at h
    split at h
    · cases h
    · split at h
      · cases h
      · exact options?_of_map_given h
    · split at h
      · exact ih h
      · exact options?_of_turn h

theorem options?_of_readArgument {argument : Text}
    (h : readArgument options argument = .ok (.asks request)) : request.options? = none := by
  unfold readArgument at h
  split at h
  · dsimp only at h
    split at h
    · exact options?_of_readLong h
    · exact options?_of_readLong h
  · exact options?_of_readLetters h
  · cases h

end Asks

/-- What is asked for by the arguments behind those that asked for something. -/
def Request.behind (rest : List Text) : Request → Except Rejection Request
  | .generate options => readArguments options rest
  | .version => .ok .version
  | .help => .ok .help

theorem Request.behind_of_options? {request : Request} (h : request.options? = none)
    (rest : List Text) : request.behind rest = .ok request := by
  cases request with
  | generate options => exact nomatch h
  | version | help => rfl

/-- **Arguments that do not end the options may be read on their own, and then what follows.** -/
theorem readArguments_append {front : List Text} (hseparator : separator ∉ front)
    {options : Options} {request : Request} (h : readArguments options front = .ok request)
    (rest : List Text) : readArguments options (front ++ rest) = request.behind rest := by
  induction hlength : front.length using Nat.strongRecOn generalizing front options with
  | ind n ih =>
    cases front with
    | nil =>
      cases h
      rfl
    | cons argument front =>
      obtain ⟨hargument, hfront⟩ := not_or.1 (mt List.mem_cons.2 hseparator)
      rw [readArguments_cons (Ne.symm hargument)] at h
      rw [List.cons_append, readArguments_cons (Ne.symm hargument)]
      obtain ⟨progress, hread, hfollow⟩ := Except.bind_eq_ok_iff.1 h
      rw [hread, Except.ok_bind]
      cases progress with
      | asks asked =>
        cases hfollow
        exact (Request.behind_of_options? (options?_of_readArgument hread) rest).symm
      | given options' =>
        exact ih front.length (by rw [← hlength]; exact Nat.lt_succ_self _) hfront hfollow rfl
      | awaits setting options' =>
        -- the value is one of the arguments in front
        cases front with
        | nil => exact nomatch hfollow
        | cons value front =>
          have hvalue : (if isOption value then .error (.missingValue setting)
            else options'.set setting value >>= fun options => readArguments options front) =
              .ok request := hfollow
          show (if isOption value then .error (.missingValue setting)
            else options'.set setting value >>= fun options =>
              readArguments options (front ++ rest)) = _
          split at hvalue
          · exact nomatch hvalue
          · next hoption =>
            obtain ⟨options'', hset, hread'⟩ := Except.bind_eq_ok_iff.1 hvalue
            rw [if_neg hoption, hset, Except.ok_bind]
            have hshorter : front.length < n := by
              rw [← hlength, List.length_cons, List.length_cons]
              omega
            exact ih front.length hshorter (mt (List.mem_cons_of_mem _) hfront) hread' rfl

/-- An option may stand behind the arguments: no setting waits for its value there, and no argument
has ended the options. -/
def OptionMayFollow (front : List Text) : Prop :=
  separator ∉ front ∧ ∃ request, Request.parse front = .ok request

theorem separator_of_withSecondDash {argument : Text} (h : withSecondDash argument = separator) :
    argument = separator := by
  unfold withSecondDash at h
  split at h
  · next hjson =>
    obtain rfl : argument = ['-'] := (List.cons.inj h).2
    exact absurd hjson (by decide)
  · exact h

/-- Behind arguments where an option may stand, reading starts over with what they have given. -/
theorem parse_append {front : List Text} (h : OptionMayFollow front) :
    ∃ request, Request.parse front = .ok request ∧
      ∀ rest, Request.parse (front ++ rest) = request.behind (rest.map withSecondDash) := by
  obtain ⟨hseparator, request, hparse⟩ := h
  refine ⟨request, hparse, fun rest => ?_⟩
  have hmapped : separator ∉ front.map withSecondDash := fun hmem => by
    obtain ⟨argument, hargument, heq⟩ := List.mem_map.1 hmem
    exact hseparator (separator_of_withSecondDash heq ▸ hargument)
  rw [Request.parse, List.map_append]
  exact readArguments_append hmapped hparse _

theorem readArguments_quiet (options : Options) (rest : List Text) :
    readArguments options ("-q".toList :: rest) =
      if options.quiet then .error (.repeated (.switch .quiet))
      else readArguments options.quieted rest := by
  have hspells : Spells [.quiet] ["-q".toList] := .letters .quiet
  have hread := readArguments_spells hspells (by simp [Given.Fits]) options rest
  rw [Options.giveAll, Options.give] at hread
  refine Eq.trans hread ?_
  cases options.quiet <;> rfl

/-- **One more `-q` makes the options quiet, and is refused only if they are.** -/
theorem quietBefore_insert {front back : List Text} {request : Request}
    (hfront : OptionMayFollow front) (hparse : Request.parse (front ++ back) = .ok request) :
    Request.QuietBefore (.ok request) (Request.parse (front ++ "-q".toList :: back)) := by
  obtain ⟨asked, -, hbehind⟩ := parse_append hfront
  rw [hbehind] at hparse ⊢
  cases asked with
  | version | help =>
    cases hparse
    exact .read nofun
  | generate options =>
    show Request.QuietBefore _ (readArguments options ("-q".toList :: back.map withSecondDash))
    have hread : readArguments options (back.map withSecondDash) = .ok request := hparse
    rw [readArguments_quiet]
    -- `-q` is either new here or given before already
    cases hquiet : options.quiet with
    | false =>
      rw [← hread]
      exact quietBefore_readArguments _ options hquiet
    | true =>
      refine .repeated fun request' hrequest => ?_
      cases hrequest
      exact quiet_of_readArguments (quietBefore_readArguments _) hquiet hread

end Codebook.CommandLine
