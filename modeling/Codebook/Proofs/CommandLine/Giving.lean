import Codebook.CommandLine.Request
import Codebook.Proofs.Outcome

/-!
# What is given on a command line

A command line gives some options, one after the other, and each adds to those before it.

An option that was given before is refused (`give_of_has`), and one that is new changes its own
part and no other, in a way that does not depend on what was given before (`give_eq_change`). So
options that are given once may be given in any order (`giveAll_perm`), and one that is given again
is refused wherever that happens (`giveAll_of_repeated`).
-/

namespace Codebook.CommandLine

/-- An option that is given, with its value if it takes one. -/
inductive Given where
  | setting (setting : Setting) (value : Text)
  | quiet
  deriving DecidableEq, Repr

namespace Given

/-- The option. -/
def item : Given → Item
  | setting s _ => .setting s
  | quiet => .switch .quiet

/-- Whether the value can be told from an option and from the sign in front of a value. -/
def Fits : Given → Prop
  | setting _ value => value ≠ [] ∧ value.head? ≠ some '-' ∧ value.head? ≠ some '='
  | quiet => True

end Given

/-! ## One after the other -/

namespace Options

/-- The options with one more that is given. -/
def give (options : Options) : Given → Except Rejection Options
  | .setting s value => options.set s value
  | .quiet =>
    if options.quiet then .error (.repeated (.switch .quiet))
    else .ok { options with quiet := true }

/-- The options with some more that are given. -/
def giveAll (options : Options) : List Given → Except Rejection Options
  | [] => .ok options
  | given :: rest => options.give given >>= fun options => options.giveAll rest

theorem giveAll_append (options : Options) (givens others : List Given) :
    options.giveAll (givens ++ others) =
      options.giveAll givens >>= fun options => options.giveAll others := by
  induction givens generalizing options with
  | nil => rfl
  | cons given givens ih =>
    rw [List.cons_append, giveAll, giveAll]
    cases options.give given with
    | ok options => exact ih options
    | error rejection => rfl

/-- Whether an option has been given. -/
def has (options : Options) : Item → Bool
  | .setting .json => options.json?.isSome
  | .setting .template => options.template?.isSome
  | .setting .output => options.output?.isSome
  | .setting .mapMode => options.mapMode?.isSome
  | .switch .quiet => options.quiet
  | .switch _ => false

/-- What has been given is refused. -/
theorem give_of_has {options : Options} {given : Given} (h : options.has given.item = true) :
    ∃ rejection, options.give given = .error rejection := by
  cases given with
  | quiet =>
    have hquiet : options.quiet = true := h
    exact ⟨_, by rw [give, if_pos hquiet]⟩
  | setting s value =>
    cases s with
    | json | template | output | mapMode =>
      obtain ⟨old, hold⟩ := Option.isSome_iff_exists.1 h
      exact ⟨_, by simp only [give, set, hold]; rfl⟩

/-- What a given option does to options that do not have it. Only the mode can be refused. -/
def change : Given → Except Rejection (Options → Options)
  | .setting .json value => .ok fun options => { options with json? := some value }
  | .setting .template value => .ok fun options => { options with template? := some value }
  | .setting .output value => .ok fun options => { options with output? := some value }
  | .setting .mapMode value =>
    (readMapMode value).map fun mode options => { options with mapMode? := some mode }
  | .quiet => .ok fun options => { options with quiet := true }

theorem has_of_change {given : Given} {f : Options → Options} (h : change given = .ok f)
    (options : Options) (item : Item) :
    (f options).has item = (item == given.item || options.has item) := by
  cases given with
  | quiet =>
    cases h
    rcases item with ⟨_ | _⟩ | ⟨_ | _⟩ <;> rfl
  | setting s value =>
    cases s with
    | json | template | output =>
      cases h
      rcases item with ⟨_ | _⟩ | ⟨_ | _⟩ <;> rfl
    -- the only setting whose value can be refused
    | mapMode =>
      obtain ⟨mode, -, rfl⟩ := Except.map_eq_ok_iff.1 h
      rcases item with ⟨_ | _⟩ | ⟨_ | _⟩ <;> rfl

theorem give_eq_change {options : Options} {given : Given} (hfits : given.Fits)
    (h : options.has given.item = false) :
    options.give given = (change given).map fun change => change options := by
  cases given with
  | quiet =>
    have hquiet : options.quiet = false := h
    simp only [give, hquiet, Bool.false_eq_true, if_false]
    rfl
  | setting s value =>
    -- a path may not be empty, and no option has been given before
    have hvalue : value ≠ [] := hfits.1
    cases s with
    | json =>
      have hnone : options.json? = .none := by simpa [has, Given.item] using h
      simp only [give, set, hnone]
      rfl
    | template =>
      have hnone : options.template? = .none := by simpa [has, Given.item] using h
      simp only [give, set, hnone, readPath, if_neg hvalue]
      rfl
    | output =>
      have hnone : options.output? = .none := by simpa [has, Given.item] using h
      simp only [give, set, hnone, readPath, if_neg hvalue]
      rfl
    | mapMode =>
      have hnone : options.mapMode? = .none := by simpa [has, Given.item] using h
      simp only [give, set, hnone, change]
      cases readMapMode value with
      | ok mode => rfl
      | error rejection => rfl

/-- Different options change different parts, and at most one of them is refused. -/
theorem change_comm {a b : Given} (h : a.item ≠ b.item) (options : Options) :
    (change a >>= fun first => change b >>= fun second => .ok (second (first options))) =
      (change b >>= fun second => change a >>= fun first => .ok (first (second options)) :
        Except Rejection Options) := by
  rcases a with ⟨_ | _ | _ | _, value⟩ | _ <;> rcases b with ⟨_ | _ | _ | _, value'⟩ | _ <;>
    first
      | exact absurd rfl h
      | rfl
      | cases hmode : readMapMode value <;> simp only [change, hmode] <;> rfl
      | cases hmode : readMapMode value' <;> simp only [change, hmode] <;> rfl

/-- **What can be given was not given before, and has been given then; nothing else changes.** -/
theorem has_of_give {options options' : Options} {given : Given} (hfits : given.Fits)
    (h : options.give given = .ok options') :
    options.has given.item = false ∧
      ∀ item, options'.has item = (item == given.item || options.has item) := by
  cases hhas : options.has given.item with
  | true =>
    obtain ⟨rejection, hrefused⟩ := give_of_has hhas
    exact nomatch h.symm.trans hrefused
  | false =>
    rw [give_eq_change hfits hhas] at h
    obtain ⟨f, hf, rfl⟩ := Except.map_eq_ok_iff.1 h
    exact ⟨rfl, has_of_change hf options⟩

/-! ## Order and repetition -/

/-- Two options that are both new may be given in either order. -/
theorem give_comm {options : Options} {a b : Given} (hne : a.item ≠ b.item) (hfits : a.Fits)
    (hfits' : b.Fits) (ha : options.has a.item = false) (hb : options.has b.item = false) :
    (options.give a >>= fun options => options.give b) =
      options.give b >>= fun options => options.give a := by
  -- neither option is in the way of the other, so both sides come down to their changes
  have hcomm := change_comm hne options
  rw [give_eq_change hfits ha, give_eq_change hfits' hb]
  cases hchange : change a with
  | error rejection =>
    rw [hchange] at hcomm
    cases hchange' : change b with
    | error rejection' =>
      rw [hchange'] at hcomm
      exact hcomm
    | ok second =>
      have hhas : (second options).has a.item = false := by
        rw [has_of_change hchange', ha, Bool.or_false, beq_eq_false_iff_ne]
        exact hne
      show Except.error rejection = (second options).give a
      rw [give_eq_change hfits hhas, hchange]
      rfl
  | ok first =>
    rw [hchange] at hcomm
    have hhas : (first options).has b.item = false := by
      rw [has_of_change hchange, hb, Bool.or_false, beq_eq_false_iff_ne]
      exact hne.symm
    show (first options).give b = _
    rw [give_eq_change hfits' hhas]
    cases hchange' : change b with
    | error rejection' => rfl
    | ok second =>
      rw [hchange'] at hcomm
      have hhas' : (second options).has a.item = false := by
        rw [has_of_change hchange', ha, Bool.or_false, beq_eq_false_iff_ne]
        exact hne
      show Except.ok (second (first options)) = (second options).give a
      rw [give_eq_change hfits hhas', hchange]
      exact hcomm

/-- **Options that are given once may be given in any order.** -/
theorem giveAll_perm {givens givens' : List Given} (h : givens.Perm givens')
    (hfits : ∀ given ∈ givens, given.Fits) (hdistinct : (givens.map Given.item).Nodup)
    {options : Options} (hnew : ∀ given ∈ givens, options.has given.item = false) :
    options.giveAll givens = options.giveAll givens' := by
  -- a permutation is made of swaps, and each of them meets two options that are still new
  induction h generalizing options with
  | nil => rfl
  | cons given hperm ih =>
    rw [giveAll, giveAll]
    cases hgive : options.give given with
    | error rejection => rfl
    | ok options' =>
      obtain ⟨hitem, hrest⟩ := List.nodup_cons.1 (List.map_cons ▸ hdistinct)
      refine ih (fun other hother => hfits other (List.mem_cons_of_mem _ hother)) hrest ?_
      intro other hother
      have hne : other.item ≠ given.item := fun heq =>
        hitem (heq ▸ List.mem_map_of_mem hother)
      -- what has just been given is another option, so this one is new as before
      rw [(has_of_give (hfits given List.mem_cons_self) hgive).2,
        hnew other (List.mem_cons_of_mem _ hother), Bool.or_false, beq_eq_false_iff_ne]
      exact hne
  | swap a b rest =>
    have hne : b.item ≠ a.item := by
      intro heq
      simp [heq] at hdistinct
    have hcomm := give_comm hne (hfits b (by simp)) (hfits a (by simp)) (hnew b (by simp))
      (hnew a (by simp))
    simp only [giveAll, ← bind_assoc]
    rw [hcomm]
  | trans hfirst hsecond ih ih' =>
    rw [ih hfits hdistinct hnew]
    refine ih' (fun given hgiven => hfits given (hfirst.mem_iff.2 hgiven)) ?_
      fun given hgiven => hnew given (hfirst.mem_iff.2 hgiven)
    exact (hfirst.map Given.item).nodup_iff.1 hdistinct

/-- An option that was given stays given, so that it cannot be given again. -/
theorem giveAll_of_has {givens : List Given} (hfits : ∀ given ∈ givens, given.Fits)
    {options : Options} {item : Item} (hitem : item ∈ givens.map Given.item)
    (h : options.has item = true) : ∃ rejection, options.giveAll givens = .error rejection := by
  induction givens generalizing options with
  | nil => exact absurd hitem List.not_mem_nil
  | cons given rest ih =>
    rw [giveAll]
    cases hgive : options.give given with
    | error rejection => exact ⟨rejection, rfl⟩
    | ok options' =>
      -- what could be given was not there before, and what was there stays
      obtain ⟨hnew, hhas⟩ := has_of_give (hfits given List.mem_cons_self) hgive
      rw [List.map_cons, List.mem_cons] at hitem
      rcases hitem with rfl | hitem
      · rw [hnew] at h
        exact nomatch h
      · exact ih (fun other hother => hfits other (List.mem_cons_of_mem _ hother)) hitem
          (by rw [hhas, h, Bool.or_true])

/-- **An option that is given again is refused, wherever that happens.** -/
theorem giveAll_of_repeated {givens : List Given} (hfits : ∀ given ∈ givens, given.Fits)
    (hrepeated : ¬ (givens.map Given.item).Nodup) (options : Options) :
    ∃ rejection, options.giveAll givens = .error rejection := by
  induction givens generalizing options with
  | nil => exact absurd List.nodup_nil hrepeated
  | cons given rest ih =>
    have hrest : ∀ other ∈ rest, other.Fits := fun other hother =>
      hfits other (List.mem_cons_of_mem _ hother)
    rw [giveAll]
    cases hgive : options.give given with
    | error rejection => exact ⟨rejection, rfl⟩
    | ok options' =>
      -- either this option comes again, or the repetition is all behind it
      by_cases hitem : given.item ∈ rest.map Given.item
      · have hhas := (has_of_give (hfits given List.mem_cons_self) hgive).2 given.item
        rw [beq_self_eq_true, Bool.true_or] at hhas
        exact giveAll_of_has hrest hitem hhas
      · refine ih hrest (fun hnodup => hrepeated ?_) options'
        rw [List.map_cons]
        exact List.nodup_cons.2 ⟨hitem, hnodup⟩

/-! ## Where the catalog is -/

/-- Just what is given has been given then. -/
theorem has_of_giveAll {givens : List Given} (hfits : ∀ given ∈ givens, given.Fits)
    {options options' : Options} (h : options.giveAll givens = .ok options') (item : Item) :
    options'.has item = true ↔ item ∈ givens.map Given.item ∨ options.has item = true := by
  induction givens generalizing options with
  | nil =>
    cases h
    simp
  | cons given rest ih =>
    obtain ⟨between, hgive, hrest⟩ := Except.bind_eq_ok_iff.1 h
    rw [ih (fun other hother => hfits other (List.mem_cons_of_mem _ hother)) hrest,
      (has_of_give (hfits given List.mem_cons_self) hgive).2, Bool.or_eq_true, beq_iff_eq,
      List.map_cons, List.mem_cons, or_left_comm, or_assoc]

/-- The options with a catalog, whatever they had for one. -/
def withSource (options : Options) (source : Text) : Options :=
  { options with json? := some source }

theorem give_withSource {given : Given} (h : given.item ≠ .setting .json) (options : Options)
    (source : Text) :
    (options.withSource source).give given =
      (options.give given).map (·.withSource source) := by
  obtain ⟨json?, template?, output?, mapMode?, quiet⟩ := options
  cases given with
  | quiet => cases quiet <;> rfl
  | setting s value =>
    cases s with
    | json => exact absurd rfl h
    -- only `--json` looks at the field of the source
    | template =>
      cases template? with
      | some => rfl
      | none =>
        simp only [give, set, withSource]
        cases readPath .template value <;> rfl
    | output =>
      cases output? with
      | some => rfl
      | none =>
        simp only [give, set, withSource]
        cases readPath .output value <;> rfl
    | mapMode =>
      cases mapMode? with
      | some => rfl
      | none =>
        simp only [give, set, withSource]
        cases readMapMode value <;> rfl

/-- Where the catalog is does not get in the way of other options. -/
theorem giveAll_withSource {givens : List Given} (h : .setting .json ∉ givens.map Given.item)
    (options : Options) (source : Text) :
    (options.withSource source).giveAll givens =
      (options.giveAll givens).map (·.withSource source) := by
  induction givens generalizing options with
  | nil => rfl
  | cons given rest ih =>
    rw [List.map_cons, List.mem_cons, not_or] at h
    rw [giveAll, giveAll, give_withSource (Ne.symm h.1)]
    cases options.give given with
    | error rejection => rfl
    | ok options => exact ih h.2 options

/-- **A catalog that is given once may as well be put in at the end.** -/
theorem giveAll_source {givens others : List Given} {source : Text}
    (h : (.setting .json source :: others).Perm givens) (hfits : ∀ given ∈ givens, given.Fits)
    (hdistinct : (givens.map Given.item).Nodup) :
    none.giveAll givens = (none.giveAll others).map (·.withSource source) := by
  have hitems := (h.map Given.item).nodup_iff.2 hdistinct
  have hothers : .setting .json ∉ others.map Given.item := (List.nodup_cons.1 hitems).1
  calc none.giveAll givens = none.giveAll (.setting .json source :: others) :=
        (giveAll_perm h (fun given hgiven => hfits given (h.mem_iff.1 hgiven)) hitems
          fun given _ => by rcases given with ⟨_ | _ | _ | _, _⟩ | _ <;> rfl).symm
    _ = (none.withSource source).giveAll others := rfl
    _ = (none.giveAll others).map (·.withSource source) := giveAll_withSource hothers none source

end Options

end Codebook.CommandLine
