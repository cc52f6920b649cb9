import Codebook.Proofs.Generation.Rendering
import Codebook.Proofs.Source.Codes
import Codebook.Proofs.Template.Breaking
import Codebook.Proofs.Template.Phrasing

/-!
# Names that stand for nothing

A template knows the codes, the version and the functions, and in a loop its variable and the loop
itself. Any other name has no value in any frame, and whatever has no value cannot be shown. But the
name is looked up only where the rendering comes to it: a loop without items never does.
-/

namespace Codebook

open Template

namespace Template

/-- Names that the language of templates keeps for itself or may bring along. -/
def languageNames : List Text :=
  Parser.reservedNames ++ ["not".toList, "super".toList, "range".toList, "dict".toList,
    "debug".toList, "namespace".toList]

/-- All names that may stand for something in a loop over the codes. -/
def knownNames : List Text :=
  ["codes".toList, "version".toList, "code".toList] ++ Function.all.map Function.name ++
    languageNames

/-! ## Looking up -/

section Lookup

variable {name : Text}

theorem Function.ofName?_eq_none (h : name ∉ Function.all.map Function.name) :
    Function.ofName? name = none := by
  refine List.find?_eq_none.2 fun f hf hname => h (List.mem_map.2 ⟨f, hf, ?_⟩)
  exact beq_iff_eq.1 hname

theorem Builtin.ofName?_eq_none (h : name ∉ Builtin.all.map Builtin.name) :
    Builtin.ofName? name = none := by
  refine List.find?_eq_none.2 fun b hb hname => h (List.mem_map.2 ⟨b, hb, ?_⟩)
  exact beq_iff_eq.1 hname

theorem functionOf?_eq_none (hfunction : name ∉ Function.all.map Function.name)
    (hbuiltin : name ∉ Builtin.all.map Builtin.name) : functionOf? name = none := by
  rw [functionOf?, Function.ofName?_eq_none hfunction, Builtin.ofName?_eq_none hbuiltin]
  rfl

variable {context : Context} {store : Store}

theorem Frame.value?_eq_none {frame : Frame} (hlocals : ∀ entry ∈ frame.locals, entry.1 ≠ name)
    (hloop : name ≠ loopName) (hbehind : frame.behind? context store name = none) :
    frame.value? context store name = none := by
  have hlookup : frame.locals.lookup name = none :=
    List.lookup_eq_none_iff.2 fun entry hentry => bne_iff_ne.2 (hlocals entry hentry).symm
  rw [Frame.value?, hlookup, if_neg hloop]
  exact hbehind

/-- **A name has no value where no frame has one for it**, unless a function has the name. -/
theorem Scope.value?_eq_none {scope : Scope}
    (hscope : ∀ frame ∈ scope, frame.value? context store name = none)
    (hfunction : functionOf? name = none) : scope.value? context store name = none := by
  rw [Scope.value?, List.findSome?_eq_none_iff.2 hscope]
  exact hfunction

end Lookup

/-! ## Unknown names -/

section Unknown

variable {name : Text} (hunknown : name ∉ knownNames)
include hunknown

theorem ne_of_unknown {known : Text} (hknown : known ∈ knownNames) : name ≠ known := by
  rintro rfl
  exact hunknown hknown

theorem constantWord?_of_unknown : Parser.constantWord? name = none := by
  refine List.lookup_eq_none_iff.2 fun entry hentry =>
    bne_iff_ne.2 (ne_of_unknown hunknown ?_)
  simp only [List.mem_cons, List.not_mem_nil, or_false] at hentry
  rcases hentry with rfl | rfl | rfl | rfl | rfl | rfl <;> decide

theorem Context.value?_of_unknown (context : Context) : context.value? name = none := by
  rw [Context.value?, if_neg (ne_of_unknown hunknown (by decide)),
    if_neg (ne_of_unknown hunknown (by decide))]

theorem functionOf?_of_unknown : functionOf? name = none := by
  refine functionOf?_eq_none
    (fun hmem => hunknown (List.mem_append_left _ (List.mem_append_right _ hmem))) fun hmem => ?_
  have hlanguage : ∀ known ∈ Builtin.all.map Builtin.name, known ∈ knownNames := by decide
  exact hunknown (hlanguage name hmem)

/-- Nothing has been put into a cell yet. -/
theorem Frame.behind?_of_unknown (context : Context) (frame : Frame) :
    frame.behind? context .empty name = none := by
  unfold Frame.behind?
  split
  · rfl
  · exact Context.value?_of_unknown hunknown context
  · rfl

/-- **An unknown name has no value where nothing but the codes is gone through.** -/
theorem Scope.value?_of_unknown (context : Context) {scope : Scope}
    (hscope : ∀ frame ∈ scope, ∀ entry ∈ frame.locals, entry.1 = "code".toList) :
    scope.value? context .empty name = none := by
  have hloop : name ≠ loopName := ne_of_unknown hunknown (by decide)
  have hcode : name ≠ "code".toList := ne_of_unknown hunknown (by decide)
  refine Scope.value?_eq_none (fun frame hframe => ?_) (functionOf?_of_unknown hunknown)
  exact Frame.value?_eq_none (fun entry hentry => hscope frame hframe entry hentry ▸ hcode.symm)
    hloop (Frame.behind?_of_unknown hunknown context frame)

end Unknown

/-- A word that is unknown is a name. -/
def Name.ofUnknown {name : Text} (hword : isWord name = true) (hunknown : name ∉ knownNames) :
    Name :=
  ⟨name, hword, ne_of_unknown hunknown (by decide), constantWord?_of_unknown hunknown⟩

/-! ## Showing a name without a value -/

open Codebook.Template.Part

theorem Part.breaksOff_of_no_value {context : Context} {scope : Scope} {n : Name}
    {rest : List Part} (h : scope.value? context .empty n.text = none) :
    BreaksOff context .undefinedValue scope (emit (.name n) :: rest) := by
  have hvalue : (Term.name n).value? context scope = some .undefined := by
    rw [Term.value?, h]
    rfl
  exact .emit hvalue rfl

/-- A tag that shows an expression. -/
def showing (inner : Text) : Text :=
  "\x7b\x7b ".toList ++ inner ++ " \x7d\x7d".toList

theorem showing_eq_showTag (inner : Text) : showing inner = showTag (' ' :: (inner ++ [' '])) := by
  have hopen : "\x7b\x7b ".toList = TagKind.opening .variable false ++ [' '] := rfl
  have hclose : " \x7d\x7d".toList = ' ' :: TagKind.close .variable := rfl
  unfold showing showTag
  rw [hopen, hclose]
  simp only [List.append_assoc, List.cons_append, List.nil_append]

section Rendering

variable {context : Context} {n : Name} {before behind : Text} (hbefore : '\x7b' ∉ before)
  (hbehind : '\x7b' ∉ behind)
include hbefore hbehind

/-- Outside loops such a name is always reached. -/
theorem render_showing (hnone : Scope.value? context .empty [.outermost] n.text = none) :
    ∃ line, render context (before ++ showing n.text ++ behind) =
      .error (.failed .undefinedValue line) := by
  have hname : Written (Term.name n).tokens n.text := (Term.name n).written_text rfl
  have hlexes : Lexes (.text false) (before ++ showTag (' ' :: (n.text ++ [' '])) ++ behind)
      (tokensOfAll [.data before, .emit (.name n), .data behind]) := by
    have h := Lexes.showTag (unmarked_of_not_mem hbefore) hname.spaced
      (.plain (findMarker_of_not_mem hbehind))
    simpa [tokensOfAll, tokens] using h
  have hfits : AllFit [.data before, .emit (.name n), .data behind] Parser.maxDepth := by
    simp only [AllFit, Fits, Term.Fits, true_and, and_true]
    decide
  rw [showing_eq_showTag]
  exact render_parts_broken hlexes hfits (.later (by rw [text?]) (breaksOff_of_no_value hnone))

/-- In a loop over the codes it is reached with the first of them. -/
theorem render_phrasing_name
    (hnone : ∀ code turn, (codeScope code turn).value? context .empty n.text = none) :
    (context.catalog.codes = [] →
      render context (before ++ phrasing n.text ++ behind) = .ok (before ++ behind)) ∧
    (context.catalog.codes ≠ [] →
      ∃ line, render context (before ++ phrasing n.text ++ behind) =
        .error (.failed .undefinedValue line)) := by
  have hname : Written (Term.name n).tokens n.text := (Term.name n).written_text rfl
  have hloop : before ++ phrasing n.text ++ behind =
      codeLoop false false before ([] ++ showTag (' ' :: (n.text ++ [' '])) ++ []) behind := by
    rw [phrasing_eq_codeLoop]
    simp only [codeLoop, List.append_assoc, List.nil_append, List.append_nil]
  have hbody : WrittenBody false [.data [], .emit (.name n), .data []]
      ([] ++ showTag (' ' :: (n.text ++ [' '])) ++ []) :=
    .emit rfl hname.spaced (.last rfl)
  have hfits : AllFit [.data [], .emit (.name n), .data []] (Parser.maxDepth - 1) := by
    simp only [AllFit, Fits, Term.Fits, true_and, and_true]
    decide
  have hfront := unmarked_of_not_mem hbefore
  have hrest := findMarker_of_not_mem hbehind
  rw [hloop]
  refine ⟨render_codeLoop_of_no_code hfront hbody hrest hfits, fun hcodes => ?_⟩
  obtain ⟨code, after, hcons⟩ := List.exists_cons_of_ne_nil hcodes
  -- no code comes before the first one, so no text has to be shown
  have hfirst : context.catalog.codes = [] ++ code :: after := hcons
  refine render_codeLoop_broken hfirst (fun _ h => absurd h List.not_mem_nil) (fun turn => ?_)
    hfront hbody hrest hfits
  exact .later (by rw [text?]) (breaksOff_of_no_value (hnone code turn))

end Rendering

end Template

/-! ## The rendering as a whole -/

section Whole

variable {m : Type → Type} [Monad m] [Host m]

/--
**An unknown name fails where it is reached, and nowhere else.**

In a tag of its own it always is. In a loop over the codes it is reached if there are codes; if
there are none, the texts around the loop are all that is rendered. A rendering that fails has no
text, not even that in front of the name.
-/
theorem renderTemplate_unknown_name [LawfulMonad m] {name before behind : Text}
    (hword : isWord name = true) (hunknown : name ∉ knownNames) (hbefore : '\x7b' ∉ before)
    (hbehind : '\x7b' ∉ behind) (catalog : Catalog) (mode : Phrase.MapMode) :
    (∃ error, error.category = .undefinedError ∧
      (renderTemplate catalog mode (before ++ showing name ++ behind) : ExceptT Error m Text) =
        renderedAs catalog (.error error)) ∧
    (catalog.isEmpty = true →
      (renderTemplate catalog mode (before ++ phrasing name ++ behind) : ExceptT Error m Text) =
        renderedAs catalog (.ok (before ++ behind))) ∧
    (catalog.isEmpty = false → ∃ error, error.category = .undefinedError ∧
      (renderTemplate catalog mode (before ++ phrasing name ++ behind) : ExceptT Error m Text) =
        renderedAs catalog (.error error)) := by
  let n := Name.ofUnknown hword hunknown
  -- no scope has a value for the name: neither outside the loop nor in a turn of it
  have houtside : Scope.value? ⟨catalog, mode⟩ .empty [.outermost] n.text = none :=
    Scope.value?_of_unknown hunknown _ (by simp [Frame.outermost, Frame.empty])
  have hinside (code : Code) (turn : Turn) :
      (codeScope code turn).value? ⟨catalog, mode⟩ .empty n.text = none := by
    refine Scope.value?_of_unknown hunknown _ ?_
    simp [codeScope, Part.turnFrame, Frame.withLocal, Frame.ofTurn, Frame.outermost, Frame.empty,
      ItemName.code]
  have hloop := render_phrasing_name hbefore hbehind hinside
  refine ⟨?_, fun hempty => ?_, fun hfull => ?_⟩
  · obtain ⟨line, hline⟩ := render_showing hbefore hbehind houtside
    exact ⟨_, rfl, renderTemplate_of_failed hline⟩
  · exact renderTemplate_of_ok (hloop.1 (Catalog.codes_eq_nil_iff.2 hempty))
  · have hcodes : catalog.codes ≠ [] := fun hnil => by
      rw [Catalog.codes_eq_nil_iff.1 hnil] at hfull
      cases hfull
    obtain ⟨line, hline⟩ := hloop.2 hcodes
    exact ⟨_, rfl, renderTemplate_of_failed hline⟩

/-- A name that other things are called, between two texts with braces that open nothing. -/
theorem renderTemplate_unknown_name_descriptions :
    isWord "descriptions".toList = true ∧ "descriptions".toList ∉ knownNames ∧
    '\x7b' ∉ "a \x7d\x7d".toList ∧ '\x7b' ∉ "\nb".toList ∧
    (∃ error, error.category = .undefinedError ∧
      (renderTemplate (.ofMembers []) .legacy
        ("a \x7d\x7d".toList ++ showing "descriptions".toList ++ "\nb".toList) : Run Text) =
          renderedAs (.ofMembers []) (.error error)) ∧
    (renderTemplate (.ofMembers []) .legacy
      ("a \x7d\x7d".toList ++ phrasing "descriptions".toList ++ "\nb".toList) : Run Text) =
        renderedAs (.ofMembers []) (.ok "a \x7d\x7d\nb".toList) ∧
    ∃ error, error.category = .undefinedError ∧
      (renderTemplate (.ofMembers [(⟨7, by decide, by decide⟩, ['x'])]) .substitute
        ("a \x7d\x7d".toList ++ phrasing "descriptions".toList ++ "\nb".toList) : Run Text) =
          renderedAs (.ofMembers [(⟨7, by decide, by decide⟩, ['x'])]) (.error error) := by
  have hunknown : "descriptions".toList ∉ knownNames := by decide
  have hbefore : '\x7b' ∉ "a \x7d\x7d".toList := by decide
  have hbehind : '\x7b' ∉ "\nb".toList := by decide
  have hempty := renderTemplate_unknown_name (m := StateM World) rfl hunknown hbefore hbehind
    (.ofMembers []) .legacy
  have hfull := renderTemplate_unknown_name (m := StateM World) rfl hunknown hbefore hbehind
    (.ofMembers [(⟨7, by decide, by decide⟩, ['x'])]) .substitute
  exact ⟨rfl, hunknown, hbefore, hbehind, hempty.1, hempty.2.1 rfl, hfull.2.2 rfl⟩

end Whole

end Codebook
