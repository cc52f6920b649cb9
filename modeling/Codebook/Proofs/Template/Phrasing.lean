import Codebook.Proofs.Catalog.Contents
import Codebook.Proofs.Template.CodeLoop
import Codebook.Proofs.Template.Spelling

/-!
# Expressions over the functions

Applied to texts and lists of texts, the functions of a template are the operations on phrases: an
expression that is built from them, however it is nested and whatever blanks are in it, shows for
each code what the operations give directly. Values of a template and texts of the library are two
worlds here, and every function crosses from one to the other and back; `TextExpr.value?_term` says
that nothing is lost on the way.
-/

namespace Codebook.Template

/-! ## Expressions that are texts or lists of texts -/

mutual

/-- An expression for a text. -/
inductive TextExpr where
  | literal (text : Text)
  | version
  /-- The description of the code that a loop has come to. -/
  | key
  | normalize (description : TextExpr)
  | join (separator : TextExpr) (values : ListExpr)

/-- An expression for a list of texts. -/
inductive ListExpr where
  | items (items : List TextExpr)
  | split (separator value : TextExpr)
  | title (values : ListExpr)
  | map (old new : TextExpr) (values : ListExpr)

end

/-- The name of the version. -/
def Name.version : Name := ⟨"version".toList, rfl, by decide, rfl⟩

/-- The name of a function. -/
def Name.ofFunction (f : Function) : Name :=
  ⟨f.name, by cases f <;> rfl, by cases f <;> decide, by cases f <;> rfl⟩

mutual

/-- The expression as it is written. -/
def TextExpr.term : TextExpr → Term
  | .literal text => .literal text
  | .version => .name .version
  | .key => .call (.ofFunction .key) [.name .code]
  | .normalize description => .call (.ofFunction .normalize) [description.term]
  | .join separator values => .call (.ofFunction .join) [separator.term, values.term]

/-- The expression as it is written. -/
def ListExpr.term : ListExpr → Term
  | .items items => .list (TextExpr.terms items)
  | .split separator value => .call (.ofFunction .split) [separator.term, value.term]
  | .title values => .call (.ofFunction .title) [values.term]
  | .map old new values => .call (.ofFunction .map) [old.term, new.term, values.term]

/-- Some expressions as they are written. -/
def TextExpr.terms : List TextExpr → List Term
  | [] => []
  | first :: rest => first.term :: TextExpr.terms rest

end

mutual

/-- What the expression gives for a code, by the operations on phrases. -/
def TextExpr.value (context : Context) (code : Code) : TextExpr → Text
  | .literal text => text
  | .version => Template.version
  | .key => context.catalog.get code
  | .normalize description => Phrase.normalize (description.value context code)
  | .join separator values =>
    Phrase.join (separator.value context code) (values.values context code)

/-- What the expression gives for a code, by the operations on phrases. -/
def ListExpr.values (context : Context) (code : Code) : ListExpr → List Text
  | .items items => TextExpr.valuesOfAll context code items
  | .split separator value => Phrase.split (separator.value context code) (value.value context code)
  | .title values => Phrase.title (values.values context code)
  | .map old new values =>
    Phrase.map context.mode (old.value context code) (new.value context code)
      (values.values context code)

/-- What each of some expressions gives for a code. -/
def TextExpr.valuesOfAll (context : Context) (code : Code) : List TextExpr → List Text
  | [] => []
  | first :: rest => first.value context code :: TextExpr.valuesOfAll context code rest

end

mutual

/-- How many levels of the parser the expression takes. -/
def TextExpr.levels : TextExpr → Nat
  | .literal _ => 2
  | .version => 2
  | .key => 3
  | .normalize description => description.levels + 1
  | .join separator values => max separator.levels values.levels + 1

/-- How many levels of the parser the expression takes. -/
def ListExpr.levels : ListExpr → Nat
  | .items items => TextExpr.levelsOfAll items + 2
  | .split separator value => max separator.levels value.levels + 1
  | .title values => values.levels + 1
  | .map old new values => max (max old.levels new.levels) values.levels + 1

/-- How many levels of the parser the deepest of some expressions takes. -/
def TextExpr.levelsOfAll : List TextExpr → Nat
  | [] => 0
  | first :: rest => max first.levels (TextExpr.levelsOfAll rest)

end

/-! ## Levels -/

theorem TextExpr.levels_pos (e : TextExpr) : 0 < e.levels := by
  cases e <;> simp [levels]

theorem ListExpr.levels_pos (e : ListExpr) : 0 < e.levels := by
  cases e <;> simp [levels]

/-- A call takes a level more than the deepest of its arguments. -/
theorem Term.fits_call_iff {n : Name} {ts : List Term} {depth levels : Nat}
    (h : AllFit ts (depth - 1) ↔ levels ≤ depth - 1) (hlevels : 0 < levels)
    (hlength : ts.length ≤ Parser.maxArguments) :
    (call n ts).Fits depth ↔ levels + 1 ≤ depth := by
  rw [Fits, h, and_iff_left hlength]
  omega

mutual

/-- The levels are what the parser needs. -/
theorem TextExpr.fits_term_iff (depth : Nat) :
    ∀ e : TextExpr, e.term.Fits depth ↔ e.levels ≤ depth
  | .literal text => by rw [TextExpr.term, Term.Fits, TextExpr.levels]
  | .version => by rw [TextExpr.term, Term.Fits, TextExpr.levels]
  | .key => by
    rw [TextExpr.term, TextExpr.levels]
    exact Term.fits_call_iff (by simp [Term.AllFit, Term.Fits]) (by decide) (by decide)
  | .normalize description => by
    have h := TextExpr.fits_term_iff (depth - 1) description
    rw [TextExpr.term, TextExpr.levels]
    exact Term.fits_call_iff (by simp [Term.AllFit, h]) description.levels_pos
      (by simp [Parser.maxArguments])
  -- the deeper argument counts, one level further in
  | .join separator values => by
    have hseparator := TextExpr.fits_term_iff (depth - 1) separator
    have hvalues := ListExpr.fits_term_iff (depth - 1) values
    rw [TextExpr.term, TextExpr.levels]
    exact Term.fits_call_iff (by simp only [Term.AllFit, hseparator, hvalues, and_true, Nat.max_le])
      (Nat.lt_of_lt_of_le separator.levels_pos (Nat.le_max_left _ _))
      (by simp [Parser.maxArguments])

theorem ListExpr.fits_term_iff (depth : Nat) :
    ∀ e : ListExpr, e.term.Fits depth ↔ e.levels ≤ depth
  -- the items of a list are two levels further in: inside the brackets, and each by itself
  | .items items => by
    rw [ListExpr.term, ListExpr.levels, Term.Fits, TextExpr.allFit_terms_iff (depth - 2) items]
    omega
  | .split separator value => by
    have hseparator := TextExpr.fits_term_iff (depth - 1) separator
    have hvalue := TextExpr.fits_term_iff (depth - 1) value
    rw [ListExpr.term, ListExpr.levels]
    exact Term.fits_call_iff (by simp only [Term.AllFit, hseparator, hvalue, and_true, Nat.max_le])
      (Nat.lt_of_lt_of_le separator.levels_pos (Nat.le_max_left _ _))
      (by simp [Parser.maxArguments])
  | .title values => by
    have h := ListExpr.fits_term_iff (depth - 1) values
    rw [ListExpr.term, ListExpr.levels]
    exact Term.fits_call_iff (by simp [Term.AllFit, h]) values.levels_pos
      (by simp [Parser.maxArguments])
  | .map old new values => by
    have hold := TextExpr.fits_term_iff (depth - 1) old
    have hnew := TextExpr.fits_term_iff (depth - 1) new
    have hvalues := ListExpr.fits_term_iff (depth - 1) values
    rw [ListExpr.term, ListExpr.levels]
    exact Term.fits_call_iff
      (by simp only [Term.AllFit, hold, hnew, hvalues, and_true, Nat.max_le, and_assoc])
      (Nat.lt_of_lt_of_le values.levels_pos (Nat.le_max_right _ _))
      (by simp [Parser.maxArguments])

theorem TextExpr.allFit_terms_iff (depth : Nat) :
    ∀ es : List TextExpr, Term.AllFit (TextExpr.terms es) depth ↔ TextExpr.levelsOfAll es ≤ depth
  | [] => by simp [TextExpr.terms, Term.AllFit, TextExpr.levelsOfAll]
  | first :: rest => by
    rw [TextExpr.terms, Term.AllFit, TextExpr.levelsOfAll, TextExpr.fits_term_iff depth first,
      TextExpr.allFit_terms_iff depth rest, Nat.max_le]

end

/-! ## Functions on texts -/

theorem codeArgument_integer (code : Code) :
    codeArgument (some (.integer code.value)) = .ok code := by
  have hcode : (Value.integer code.value).code? = some code := dif_pos ⟨code.lower, code.upper⟩
  simp only [codeArgument, hcode]

theorem textsArgument_ofTexts (texts : List Text) :
    textsArgument (some (.ofTexts texts)) = .ok texts := by
  show (texts.map Value.text).mapM (fun item => textArgument (some item)) = .ok texts
  induction texts with
  | nil => rfl
  | cons text texts ih =>
    rw [List.map_cons, List.mapM_cons, ih]
    rfl

section Functions

variable (context : Context)

theorem Function.apply_key (code : Code) :
    Function.key.apply context [.integer code.value] =
      .ok (.text (context.catalog.get code)) := by
  show (codeArgument (some (.integer code.value)) >>= _) = _
  rw [codeArgument_integer]
  rfl

theorem Function.apply_normalize (description : Text) :
    Function.normalize.apply context [.text description] =
      .ok (.text (Phrase.normalize description)) := rfl

theorem Function.apply_split (separator value : Text) :
    Function.split.apply context [.text separator, .text value] =
      .ok (.ofTexts (Phrase.split separator value)) := rfl

theorem Function.apply_join (separator : Text) (values : List Text) :
    Function.join.apply context [.text separator, .ofTexts values] =
      .ok (.text (Phrase.join separator values)) := by
  show (textsArgument (some (.ofTexts values)) >>= _) = _
  rw [textsArgument_ofTexts]
  rfl

theorem Function.apply_title (values : List Text) :
    Function.title.apply context [.ofTexts values] = .ok (.ofTexts (Phrase.title values)) := by
  show (textsArgument (some (.ofTexts values)) >>= _) = _
  rw [textsArgument_ofTexts]
  rfl

theorem Function.apply_map (old new : Text) (values : List Text) :
    Function.map.apply context [.text old, .text new, .ofTexts values] =
      .ok (.ofTexts (Phrase.map context.mode old new values)) := by
  show (textsArgument (some (.ofTexts values)) >>= _) = _
  rw [textsArgument_ofTexts]
  rfl

end Functions

/-! ## Values -/

section Values

variable (context : Context) (code : Code) (turn : Turn)

/-- A function is called by its name. -/
theorem Term.value?_call {f : Function} {ts : List Term} {values : List Value} {value : Value}
    (hvalues : valuesOfAll? context (codeScope code turn) ts = some values)
    (happly : f.apply context values = .ok value) :
    (call (.ofFunction f) ts).value? context (codeScope code turn) = some value := by
  have hcall : callValue? context (codeScope code turn) f.name values =
      (f.apply context values).toOption := by
    cases f <;> rfl
  rw [value?, hvalues]
  show callValue? context (codeScope code turn) f.name values = _
  rw [hcall, happly]
  rfl

mutual

/-- **The value of an expression is what the operations on phrases give.** -/
theorem TextExpr.value?_term : ∀ e : TextExpr,
    e.term.value? context (codeScope code turn) = some (.text (e.value context code))
  | .literal text => by rw [TextExpr.term, Term.value?, TextExpr.value]
  | .version => by
    rw [TextExpr.term, Term.value?, TextExpr.value]
    rfl
  -- each call gives what the function of its name does
  | .key => by
    rw [TextExpr.term, TextExpr.value]
    exact Term.value?_call context code turn (by simp [Term.valuesOfAll?, Term.value?_code])
      (Function.apply_key context code)
  | .normalize description => by
    have h := TextExpr.value?_term description
    rw [TextExpr.term, TextExpr.value]
    exact Term.value?_call context code turn (by simp [Term.valuesOfAll?, h])
      (Function.apply_normalize context _)
  | .join separator values => by
    have hseparator := TextExpr.value?_term separator
    have hvalues := ListExpr.value?_term values
    rw [TextExpr.term, TextExpr.value]
    exact Term.value?_call context code turn (by simp [Term.valuesOfAll?, hseparator, hvalues])
      (Function.apply_join context _ _)

theorem ListExpr.value?_term : ∀ e : ListExpr,
    e.term.value? context (codeScope code turn) = some (.ofTexts (e.values context code))
  -- a list that is written out has the values of its items; any other one a function gives
  | .items items => by
    have h := TextExpr.valuesOfAll?_terms items
    rw [ListExpr.term, Term.value?, h, ListExpr.values]
    rfl
  | .split separator value => by
    have hseparator := TextExpr.value?_term separator
    have hvalue := TextExpr.value?_term value
    rw [ListExpr.term, ListExpr.values]
    exact Term.value?_call context code turn (by simp [Term.valuesOfAll?, hseparator, hvalue])
      (Function.apply_split context _ _)
  | .title values => by
    have h := ListExpr.value?_term values
    rw [ListExpr.term, ListExpr.values]
    exact Term.value?_call context code turn (by simp [Term.valuesOfAll?, h])
      (Function.apply_title context _)
  | .map old new values => by
    have hold := TextExpr.value?_term old
    have hnew := TextExpr.value?_term new
    have hvalues := ListExpr.value?_term values
    rw [ListExpr.term, ListExpr.values]
    exact Term.value?_call context code turn (by simp [Term.valuesOfAll?, hold, hnew, hvalues])
      (Function.apply_map context _ _ _)

theorem TextExpr.valuesOfAll?_terms : ∀ es : List TextExpr,
    Term.valuesOfAll? context (codeScope code turn) (TextExpr.terms es) =
      some ((TextExpr.valuesOfAll context code es).map .text)
  | [] => by rw [TextExpr.terms, Term.valuesOfAll?, TextExpr.valuesOfAll]; rfl
  | first :: rest => by
    have h := TextExpr.value?_term first
    have hrest := TextExpr.valuesOfAll?_terms rest
    rw [TextExpr.terms, Term.valuesOfAll?, TextExpr.valuesOfAll, h, hrest]
    rfl

end

end Values

/-! ## Templates -/

/-- A template that shows an expression for each code. -/
def phrasing (inner : Text) : Text :=
  "\x7b% for code in codes %\x7d\x7b\x7b ".toList ++ inner ++
    " \x7d\x7d\x7b% endfor %\x7d".toList

theorem phrasing_eq_codeLoop (inner : Text) :
    phrasing inner =
      codeLoop false false [] ([] ++ showTag (' ' :: (inner ++ [' '])) ++ []) [] := by
  have hfront : "\x7b% for code in codes %\x7d\x7b\x7b ".toList =
      forTag false ++ (TagKind.opening .variable false ++ [' ']) := rfl
  have hbehind : " \x7d\x7d\x7b% endfor %\x7d".toList =
      ' ' :: (TagKind.close .variable ++ endTag false) := rfl
  unfold phrasing codeLoop showTag
  rw [hfront, hbehind]
  simp only [List.append_assoc, List.nil_append, List.cons_append, List.append_nil]

/--
**An expression over the functions means what the operations on phrases mean.**

However it is written, the template that shows it for each code gives what the operations give for
the codes one after another, in ascending order. The one exception is an expression that is nested
deeper than the parser allows, which is a syntax error.
-/
theorem render_phrasing (e : TextExpr) {inner : Text} (hinner : Written e.term.tokens inner)
    (context : Context) :
    context.catalog.codes.Pairwise (fun a b => a.value < b.value) ∧
    (e.levels < Parser.maxDepth →
      render context (phrasing inner) = .ok (context.catalog.codes.flatMap (e.value context))) ∧
    (Parser.maxDepth ≤ e.levels →
      ∃ line, render context (phrasing inner) = .error (.unreadable line)) := by
  have hunmarked : Unmarked [] := rfl
  have hnothing : findMarker [] = none := rfl
  have hbody : WrittenBody false [.data [], .emit e.term, .data []]
      ([] ++ showTag (' ' :: (inner ++ [' '])) ++ []) :=
    .emit hunmarked hinner.spaced (.last hunmarked)
  -- the loop takes one of the levels of the parser
  have hfits : Part.AllFit [.data [], .emit e.term, .data []] (Parser.maxDepth - 1) ↔
      e.levels < Parser.maxDepth := by
    simp only [Part.AllFit, Part.Fits, e.fits_term_iff, true_and, and_true]
    exact Nat.le_sub_one_iff_lt (by decide)
  rw [phrasing_eq_codeLoop]
  refine ⟨context.catalog.ascending_codes, fun hlevels => ?_, fun hlevels => ?_⟩
  · have htext (code : Code) (turn : Turn) :
        Part.textOfAll? context (codeScope code turn) [.data [], .emit e.term, .data []] =
          some (e.value context code) := by
      have hshow : (Value.text (e.value context code)).shownAs false =
          .ok (e.value context code) := rfl
      simp [Part.textOfAll?, Part.text?, e.value?_term, hshow, Except.toOption]
    refine (render_codeLoop hunmarked hbody hnothing (hfits.2 hlevels) htext).trans ?_
    simp [trimmedIf]
  · exact render_codeLoop_unreadable hunmarked hbody hnothing
      (mt hfits.1 (Nat.not_lt.2 hlevels)) context

/-- Five functions and an empty text, where every item of the list is counted once more. -/
def dashed : TextExpr :=
  .join (.literal ['-']) (.map (.literal ['a']) .version
    (.items [.literal ['a'], .normalize .key, .literal []]))

theorem render_phrasing_dashed :
    Written dashed.term.tokens
      "join(\"-\", map(\"a\", version, [\"a\", normalize(key(code)), \"\"]))".toList ∧
    dashed.levels < Parser.maxDepth ∧
    render ⟨.ofMembers [(⟨7, by decide, by decide⟩, "b-c (d) e".toList)], .legacy⟩
        (phrasing
          "join(\"-\", map(\"a\", version, [\"a\", normalize(key(code)), \"\"]))".toList) =
      .ok "---0.1.0-b c  d-".toList := by
  have hinner : Written dashed.term.tokens
      "join(\"-\", map(\"a\", version, [\"a\", normalize(key(code)), \"\"]))".toList :=
    dashed.term.written_text rfl
  have hlevels : dashed.levels < Parser.maxDepth := by decide
  refine ⟨hinner, hlevels, ?_⟩
  rw [(render_phrasing dashed hinner _).2.1 hlevels]
  rfl

end Codebook.Template
