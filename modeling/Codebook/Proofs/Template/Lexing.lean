import Codebook.Template.Lexer

/-!
# Taking a written template apart

A piece of a template is taken apart with what follows it in place, because a word ends only where
no character goes on with it, and text ends only where a marker stands. So `Lexes` says what the
tokens of all the rest are, and each lemma puts a piece in front: text and the opening of a tag,
what is written inside a tag (`Written`), the end of a tag. Lines do not matter here.
-/

namespace Codebook.Template

/-! ## One step -/

/-- The rest of a template has these tokens, whatever line it starts on. -/
def Lexes (place : Place) (cs : Text) (tokens : List Token) : Prop :=
  ∀ line, (lexemesFrom line place cs).map (·.token) = tokens

/-- The token of a text outside tags, if there is any text. -/
def dataTokens (text : Text) : List Token := if text.isEmpty then [] else [.data text]

theorem map_token_dataLexemes (line : Nat) (text : Text) :
    (dataLexemes line text).map (·.token) = dataTokens text := by
  unfold dataLexemes dataTokens
  split <;> rfl

/-- The marker that opens a tag. -/
def TagKind.marker : TagKind → Marker
  | .variable => .variable
  | .block => .block

/-- The token that opens a tag. -/
def TagKind.startToken : TagKind → Token
  | .variable => .variableStart
  | .block => .blockStart

/-- One step inside a tag. -/
theorem lexemesFrom_tag (line : Nat) (kind : TagKind) (braces : Nat) (cs : Text) :
    lexemesFrom line (.tag kind braces) cs =
      let line := line + Text.lineFeeds (cs.takeWhile isTagBlank)
      match cs.dropWhile isTagBlank with
      | [] => []
      | c :: rest =>
        match tagEndInside? kind braces (c :: rest) with
        | some (trims, behind) => ⟨kind.endToken, line⟩ :: lexemesFrom line (.text trims) behind
        | none =>
          let next := line + tokenLineFeeds c rest
          if (tagToken c rest).1.isFault then [⟨.fault, next⟩]
          else
            let behind := Token.bracesBehind braces (tagToken c rest).1
            ⟨(tagToken c rest).1, line⟩ ::
              lexemesFrom next (.tag kind behind) (tagToken c rest).2 := by
  rw [lexemesFrom]
  dsimp only
  -- with the blanks named, both sides go through the same cases
  split
  · next hnil => rw [hnil]
  · next c rest hcons =>
    rw [hcons]
    dsimp only
    split
    · next hend => rw [hend]
    · next hend => rw [hend]

namespace Lexes

variable {kind : TagKind} {cs front behind rest : Text} {tokens : List Token}

/-- There is only text. -/
theorem plain (h : findMarker cs = none) : Lexes (.text false) cs (dataTokens cs) := by
  intro line
  rw [lexemesFrom]
  dsimp only
  split
  · exact map_token_dataLexemes line cs
  · next hsome => cases h.symm.trans hsome

theorem start {trims : Bool} (hmarker : findMarker cs = some (front, kind.marker, behind))
    (hmark : afterMark behind = (trims, rest))
    (hraw : kind = .block → lonelyTag? "raw".toList rest = none)
    (h : Lexes (.tag kind 0) rest tokens) :
    Lexes (.text false) cs
      (dataTokens (if trims then front.trimEnd else front) ++ kind.startToken :: tokens) := by
  obtain ⟨rfl, rfl⟩ : (afterMark behind).1 = trims ∧ (afterMark behind).2 = rest :=
    Prod.ext_iff.1 hmark
  intro line
  rw [lexemesFrom]
  dsimp only
  split
  · next hnone => cases hmarker.symm.trans hnone
  · next front' marker' behind' hsome =>
    obtain ⟨rfl, rfl, rfl⟩ : front = front' ∧ kind.marker = marker' ∧ behind = behind' := by
      simpa using hmarker.symm.trans hsome
    rw [List.map_append, map_token_dataLexemes]
    congr 1
    -- a block could start a raw one, which `hraw` rules out
    cases kind
    · exact congrArg (_ :: ·) (h _)
    · dsimp only [TagKind.marker]
      split
      · exact congrArg (_ :: ·) (h _)
      · next hsome => cases (hraw rfl).symm.trans hsome

theorem stop (h : Lexes (.text false) rest tokens) :
    Lexes (.tag kind 0) (kind.close ++ rest) (kind.endToken :: tokens) := by
  intro line
  rw [lexemesFrom_tag]
  cases kind
  · exact congrArg (_ :: ·) (h _)
  · exact congrArg (_ :: ·) (h _)

theorem token {c : Char} {token : Token} (hblank : isTagBlank c = false)
    (hend : tagEnd? kind (c :: rest) = none) (htoken : tagToken c rest = (token, behind))
    (hfault : token.isFault = false) (hbraces : token.bracesBehind 0 = 0)
    (h : Lexes (.tag kind 0) behind tokens) :
    Lexes (.tag kind 0) (c :: rest) (token :: tokens) := by
  intro line
  rw [lexemesFrom_tag, List.dropWhile_cons_of_neg (by simp [hblank])]
  simp only [tagEndInside?, if_true, hend, htoken, hfault, Bool.false_eq_true, if_false, hbraces]
  exact congrArg (_ :: ·) (h _)

theorem blank {c : Char} (hc : isTagBlank c = true) (h : Lexes (.tag kind 0) cs tokens) :
    Lexes (.tag kind 0) (c :: cs) tokens := by
  intro line
  -- the blank is skipped together with those behind it, so only its line has to be accounted for
  have hline := h (line + Text.lineFeeds [c])
  rw [lexemesFrom_tag] at hline ⊢
  have hfeeds : line + Text.lineFeeds (c :: cs.takeWhile isTagBlank) =
      line + Text.lineFeeds [c] + Text.lineFeeds (cs.takeWhile isTagBlank) := by
    simp only [Text.lineFeeds, List.count_cons, List.count_nil]
    omega
  rw [List.dropWhile_cons_of_pos hc, List.takeWhile_cons_of_pos hc, hfeeds]
  exact hline

end Lexes

/-! ## What is written inside a tag -/

/-- The signs around and between arguments and items. -/
def listSigns : List (Char × Sign) :=
  [('(', .openParen), (')', .closeParen), ('[', .openBracket), (']', .closeBracket),
    (',', .comma)]

/-- No word goes on at the start of the text. -/
def EndsWord (text : Text) : Prop := ∀ c ∈ text.head?, continuesWord c = false

/-- The text writes these tokens inside a tag: words, strings in double quotes in which nothing is
escaped, and signs, with blanks wherever they may stand. -/
inductive Written : List Token → Text → Prop where
  | nil : Written [] []
  | blank {c : Char} {tokens : List Token} {text : Text} : isTagBlank c = true →
      Written tokens text → Written tokens (c :: text)
  | word {c : Char} {name : Text} {tokens : List Token} {text : Text} : startsWord c = true →
      (∀ d ∈ name, continuesWord d = true) → EndsWord text →
      Written tokens text → Written (.word (c :: name) :: tokens) (c :: name ++ text)
  | quoted {body : Text} {tokens : List Token} {text : Text} : '"' ∉ body → '\\' ∉ body →
      Written tokens text → Written (.text body :: tokens) ('"' :: body ++ '"' :: text)
  | sign {c : Char} {sign : Sign} {tokens : List Token} {text : Text} : (c, sign) ∈ listSigns →
      Written tokens text → Written (.sign sign :: tokens) (c :: text)

theorem endsWord_nil : EndsWord [] := nofun

theorem endsWord_cons {c : Char} (h : continuesWord c = false) (rest : Text) :
    EndsWord (c :: rest) := by
  rintro _ ⟨⟩
  exact h

theorem EndsWord.append {text rest : Text} (h : EndsWord text) (hrest : EndsWord rest) :
    EndsWord (text ++ rest) := by
  cases text with
  | nil => exact hrest
  | cons c text => exact h

theorem Written.append {tokens more : List Token} {text rest : Text} (h : Written tokens text)
    (hrest : EndsWord rest) (hmore : Written more rest) :
    Written (tokens ++ more) (text ++ rest) := by
  induction h with
  | nil => exact hmore
  | blank hc _ ih => exact .blank hc ih
  | word hc hname hend _ ih =>
    rw [List.append_assoc]
    exact .word hc hname (hend.append hrest) ih
  | quoted hquote hescape _ ih =>
    rw [List.append_assoc]
    exact .quoted hquote hescape ih
  | sign hsign _ ih => exact .sign hsign ih

/-- A blank may stand on either side. -/
theorem Written.spaced {tokens : List Token} {text : Text} (h : Written tokens text) :
    Written tokens (' ' :: (text ++ [' '])) := by
  have hblank : Written [] [' '] := .blank rfl .nil
  have happend := h.append (endsWord_cons rfl []) hblank
  rw [List.append_nil] at happend
  exact .blank rfl happend

theorem tagEnd?_eq_none {c : Char} (h : c ∉ ['-', '+', '\x7d', '%']) (kind : TagKind)
    (rest : Text) : tagEnd? kind (c :: rest) = none := by
  simp only [List.mem_cons, List.not_mem_nil, or_false, not_or] at h
  obtain ⟨hminus, hplus, hbrace, hpercent⟩ := h
  have hmark : afterMark (c :: rest) = (false, c :: rest) := by
    rw [afterMark, if_neg hminus, if_neg hplus]
  cases kind
  · simp [tagEnd?, hmark, TagKind.close, List.isPrefixOf, Ne.symm hbrace]
  · simp [tagEnd?, hmark, TagKind.close, List.isPrefixOf, Ne.symm hpercent]

theorem signAt?_of_not_long {c : Char} (hlong : ∀ entry ∈ longSigns, entry.1.1 ≠ c) (rest : Text) :
    signAt? c rest = (shortSigns.lookup c).map fun sign => (sign, rest) := by
  have hnone : (rest.head?.bind fun d => longSigns.lookup (c, d)) = none := by
    refine Option.bind_eq_none_iff.2 fun d _ => List.lookup_eq_none_iff.2 fun entry hentry => ?_
    have hne := hlong entry hentry
    exact bne_iff_ne.2 fun heq => hne (congrArg Prod.fst heq).symm
  unfold signAt?
  rw [hnone]

/-- No word starts with some characters, so a word starts with none of them. -/
theorem ne_of_startsWord {c d : Char} (h : startsWord c = true) (hd : startsWord d = false) :
    c ≠ d := by
  rintro rfl
  exact nomatch h.symm.trans hd

theorem signAt?_of_startsWord {c : Char} (h : startsWord c = true) (rest : Text) :
    signAt? c rest = none := by
  have hlong : ∀ entry ∈ longSigns, startsWord entry.1.1 = false := by decide
  have hshort : ∀ entry ∈ shortSigns, startsWord entry.1 = false := by decide
  have hnone : shortSigns.lookup c = none :=
    List.lookup_eq_none_iff.2 fun entry hentry =>
      bne_iff_ne.2 (ne_of_startsWord h (hshort entry hentry))
  rw [signAt?_of_not_long fun entry hentry => (ne_of_startsWord h (hlong entry hentry)).symm,
    hnone]
  rfl

theorem isDigit_of_startsWord {c : Char} (h : startsWord c = true) : c.isDigit = false := by
  unfold startsWord Char.isAlpha Char.isUpper Char.isLower at h
  simp only [Bool.or_eq_true, Bool.and_eq_true, decide_eq_true_eq, beq_iff_eq] at h
  rw [Char.isDigit, Bool.and_eq_false_iff, decide_eq_false_iff_not, decide_eq_false_iff_not]
  rcases h with ((h | h) | h)
  · right
    exact fun hle => absurd (UInt32.le_trans h.1 hle) (by decide)
  · right
    exact fun hle => absurd (UInt32.le_trans h.1 hle) (by decide)
  · subst h
    right
    decide

theorem tagToken_word {c : Char} {name rest : Text} (hc : startsWord c = true)
    (hname : ∀ d ∈ name, continuesWord d = true) (hrest : EndsWord rest) :
    tagToken c (name ++ rest) = (.word (c :: name), rest) := by
  -- a word is what is tried last, behind signs, strings and numbers
  have hquotes : ¬ ((decide (c = '"') || decide (c = '\'')) = true) := by
    simp [ne_of_startsWord hc (d := '"') rfl, ne_of_startsWord hc (d := '\'') rfl]
  have htake : (name ++ rest).takeWhile continuesWord = name := by
    rw [List.takeWhile_append_of_pos hname]
    cases rest with
    | nil => simp
    | cons d rest => rw [List.takeWhile_cons_of_neg (by simp [hrest d rfl]), List.append_nil]
  have hdrop : (name ++ rest).dropWhile continuesWord = rest := by
    rw [List.dropWhile_append_of_pos hname]
    cases rest with
    | nil => rfl
    | cons d rest => rw [List.dropWhile_cons_of_neg (by simp [hrest d rfl])]
  unfold tagToken
  rw [signAt?_of_startsWord hc]
  simp only [hquotes, isDigit_of_startsWord hc, hc, Bool.false_eq_true, if_false, if_true,
    htake, hdrop]

theorem stringBody_plain {body : Text} (hquote : '"' ∉ body) (hescape : '\\' ∉ body)
    (rest : Text) : stringBody '"' (body ++ '"' :: rest) = some (body, rest) := by
  induction body with
  | nil => rfl
  | cons c body ih =>
    rw [List.mem_cons, not_or] at hquote hescape
    rw [List.cons_append, stringBody]
    · rw [if_neg (Ne.symm hquote.1), ih hquote.2 hescape.2]
      rfl
    · rintro d rest' rfl
      exact absurd rfl hescape.1

theorem stringPieces_plain {body : Text} (hescape : '\\' ∉ body) :
    stringPieces body = some (body.map .char) := by
  induction body with
  | nil => rfl
  | cons c body ih =>
    rw [List.mem_cons, not_or] at hescape
    rw [stringPieces]
    · simp [ih hescape.2, Ne.symm hescape.1]
    · rintro _ _ _ _ _ rfl
      exact absurd rfl hescape.1
    · rintro _ _ rfl
      exact absurd rfl hescape.1

theorem joinPieces_chars (body : Text) : joinPieces (body.map .char) = some body := by
  induction body with
  | nil => rfl
  | cons c body ih => rw [List.map_cons, joinPieces, ih]; rfl

theorem tagToken_quoted {body : Text} (hquote : '"' ∉ body) (hescape : '\\' ∉ body)
    (rest : Text) : tagToken '"' (body ++ '"' :: rest) = (.text body, rest) := by
  have hsign : signAt? '"' (body ++ '"' :: rest) = none := by
    rw [signAt?_of_not_long (by decide)]
    rfl
  have htoken : stringToken body = .text body := by
    unfold stringToken
    rw [stringPieces_plain hescape, Option.bind_some, joinPieces_chars]
  unfold tagToken
  rw [hsign]
  simp [stringBody_plain hquote hescape, htoken]

theorem tagToken_sign {c : Char} {sign : Sign} (h : (c, sign) ∈ listSigns) (rest : Text) :
    tagToken c rest = (.sign sign, rest) := by
  have hlong : ∀ entry ∈ listSigns, ∀ long ∈ longSigns, long.1.1 ≠ entry.1 := by decide
  have hshort : ∀ entry ∈ listSigns, shortSigns.lookup entry.1 = some entry.2 := by decide
  unfold tagToken
  rw [signAt?_of_not_long (hlong _ h), hshort _ h]
  rfl

theorem isTagBlank_of_startsWord {c : Char} (h : startsWord c = true) : isTagBlank c = false := by
  simp [isTagBlank, ne_of_startsWord h (d := ' ') rfl, ne_of_startsWord h (d := '\t') rfl,
    ne_of_startsWord h (d := '\n') rfl, ne_of_startsWord h (d := '\r') rfl,
    ne_of_startsWord h (d := '\x0c') rfl]

/-- What is written starts neither like the end of a tag nor like the hyphen in one. -/
theorem Written.not_mark {tokens : List Token} {text : Text} (h : Written tokens text) :
    ∀ c ∈ text.head?, c ∉ ['-', '+', '\x7d', '%'] := by
  have hmarks : ∀ c ∈ ['-', '+', '\x7d', '%'], startsWord c = false ∧ isTagBlank c = false := by
    simp only [List.forall_mem_cons]
    exact ⟨⟨rfl, rfl⟩, ⟨rfl, rfl⟩, ⟨rfl, rfl⟩, ⟨rfl, rfl⟩, nofun⟩
  have hsigns : ∀ entry ∈ listSigns, entry.1 ∉ ['-', '+', '\x7d', '%'] := by decide
  rintro d hd hmark
  -- it is enough to look at what can stand first
  cases h with
  | nil => exact nomatch hd
  | blank hc _ =>
    cases hd
    exact nomatch hc.symm.trans (hmarks _ hmark).2
  | word hc _ _ _ =>
    cases hd
    exact nomatch hc.symm.trans (hmarks _ hmark).1
  | quoted _ _ _ =>
    cases hd
    exact absurd hmark (by decide)
  | sign hsign _ =>
    cases hd
    exact hsigns _ hsign hmark

/-- **What is written inside a tag has the tokens that it writes**, in front of whatever follows
that is not more of its last word. -/
theorem Lexes.written {kind : TagKind} {inner rest : Text} {tokens more : List Token}
    (hinner : Written tokens inner) (hrest : EndsWord rest) (h : Lexes (.tag kind 0) rest more) :
    Lexes (.tag kind 0) (inner ++ rest) (tokens ++ more) := by
  have hsigns : ∀ entry ∈ listSigns, isTagBlank entry.1 = false := by decide
  -- none of these signs opens a map, so no brace is left open
  have hbraces : ∀ entry ∈ listSigns, (Token.sign entry.2).bracesBehind 0 = 0 := by decide
  induction hinner with
  | nil => exact h
  | blank hc _ ih => exact .blank hc ih
  | word hc hname hend htext ih =>
    have hmark := (Written.word hc hname hend htext).not_mark _ rfl
    rw [List.append_assoc]
    exact .token (isTagBlank_of_startsWord hc) (tagEnd?_eq_none hmark kind _)
      (tagToken_word hc hname (hend.append hrest)) rfl rfl ih
  | quoted hquote hescape _ ih =>
    rw [List.append_assoc]
    exact .token rfl (tagEnd?_eq_none (by decide) kind _) (tagToken_quoted hquote hescape _) rfl
      rfl ih
  | sign hsign htext ih =>
    have hmark := (Written.sign hsign htext).not_mark _ rfl
    exact .token (hsigns _ hsign) (tagEnd?_eq_none hmark kind _) (tagToken_sign hsign _) rfl
      (hbraces _ hsign) ih

/-! ## Text in front of a tag -/

/-- No marker is in the text, nor is one made by a brace behind it. -/
def Unmarked (text : Text) : Prop := findMarker (text ++ ['\x7b']) = none

theorem findMarker_cons_eq_none_iff {c : Char} {rest : Text} :
    findMarker (c :: rest) = none ↔ markerAt? c rest = none ∧ findMarker rest = none := by
  rw [findMarker]
  cases markerAt? c rest with
  | none => simp
  | some marker => simp

/-- The characters that make a marker of a brace in front of them. -/
def markerMarks : List Char := ['\x7b', '%', '#']

theorem Marker.ofChar?_eq_none_iff {c : Char} : Marker.ofChar? c = none ↔ c ∉ markerMarks := by
  simp only [markerMarks, List.mem_cons, List.not_mem_nil, or_false, not_or]
  unfold Marker.ofChar?
  split <;> simp_all

theorem markerAt?_eq_none_iff {c : Char} {rest : Text} :
    markerAt? c rest = none ↔ ∀ mark ∈ markerMarks, ¬ ['\x7b', mark] <+: c :: rest := by
  unfold markerAt?
  split
  · next hbrace =>
    subst hbrace
    -- the brace decides nothing before the next character is known
    cases rest with
    | nil => simp [List.cons_prefix_cons]
    | cons d rest =>
      rw [List.head?_cons, Option.bind_some, Marker.ofChar?_eq_none_iff]
      simp only [List.cons_prefix_cons, List.nil_prefix, true_and, and_true]
      exact ⟨fun hd mark hmark heq => hd (heq ▸ hmark), fun h hd => h d hd rfl⟩
  · next hbrace =>
    simp only [List.cons_prefix_cons, true_iff]
    exact fun _ _ h => hbrace h.1.symm

/-- **There is no tag and no comment in a text if none of the markers stands in it.** -/
theorem findMarker_eq_none_iff {text : Text} :
    findMarker text = none ↔ ∀ mark ∈ markerMarks, ¬ ['\x7b', mark] <:+: text := by
  induction text with
  | nil => simp [findMarker]
  | cons c text ih =>
    simp only [findMarker_cons_eq_none_iff, markerAt?_eq_none_iff, ih, List.infix_cons_iff, not_or,
      forall_and]

theorem findMarker_of_not_mem {text : Text} (h : '\x7b' ∉ text) : findMarker text = none :=
  findMarker_eq_none_iff.2 fun _ _ hin => h (hin.subset List.mem_cons_self)

theorem unmarked_of_not_mem {text : Text} (h : '\x7b' ∉ text) : Unmarked text := by
  unfold Unmarked
  induction text with
  | nil => rfl
  | cons c text ih =>
    rw [List.mem_cons, not_or] at h
    exact findMarker_cons_eq_none_iff.2 ⟨if_neg (Ne.symm h.1), ih h.2⟩

/-- The first marker is the one that opens the tag. -/
theorem findMarker_unmarked {front : Text} (hfront : Unmarked front) {c : Char} {marker : Marker}
    (hc : Marker.ofChar? c = some marker) (rest : Text) :
    findMarker (front ++ '\x7b' :: c :: rest) = some (front, marker, rest) := by
  induction front with
  | nil =>
    have hmarker : markerAt? '\x7b' (c :: rest) = some marker := hc
    rw [List.nil_append, findMarker, hmarker]
    rfl
  | cons d front ih =>
    obtain ⟨hd, hfront⟩ := findMarker_cons_eq_none_iff.1 hfront
    have hmarker : markerAt? d (front ++ '\x7b' :: c :: rest) = none := by
      -- only the next character matters, and there is one in both texts
      cases front with
      | nil => exact hd
      | cons e front => exact hd
    rw [List.cons_append, findMarker, hmarker]
    simp only [ih hfront, Option.map_some]

/-- The character behind the brace that opens a tag. -/
def TagKind.mark : TagKind → Char
  | .variable => '\x7b'
  | .block => '%'

/-- How a tag is opened, with a hyphen if white space in front of it goes. -/
def TagKind.opening (kind : TagKind) (trims : Bool) : Text :=
  '\x7b' :: kind.mark :: if trims then ['-'] else []

theorem afterMark_opening (kind : TagKind) {inner : Text} {tokens : List Token} (trims : Bool)
    (hinner : Written tokens inner) (rest : Text) :
    afterMark ((if trims then ['-'] else []) ++ (inner ++ (kind.close ++ rest))) =
      (trims, inner ++ (kind.close ++ rest)) := by
  cases trims with
  | true => rfl
  | false =>
    cases inner with
    | nil => cases kind <;> rfl
    | cons c inner =>
      have hmark := hinner.not_mark c rfl
      simp only [List.mem_cons, not_or] at hmark
      -- the first character inside is neither of the two marks that trim
      show afterMark (c :: (inner ++ (kind.close ++ rest))) = _
      rw [afterMark, if_neg hmark.1, if_neg hmark.2.1]
      rfl

/-- A tag that starts with another word is no raw block. -/
theorem lonelyTag?_eq_none {inner : Text} (h : (inner.dropWhile isTagBlank).head? ≠ some 'r')
    (rest : Text) :
    lonelyTag? "raw".toList (inner ++ (TagKind.block.close ++ rest)) = none := by
  unfold lonelyTag?
  rw [List.dropWhile_append]
  cases hstart : inner.dropWhile isTagBlank with
  | nil => rfl
  | cons c start =>
    have hc : 'r' ≠ c := fun heq => h (by rw [hstart, heq]; rfl)
    refine if_neg ?_
    simp [List.isPrefixOf, hc]

/-- **A tag with the text in front of it.** -/
theorem Lexes.tag {kind : TagKind} {front inner rest : Text} {tokens more : List Token}
    (trims : Bool) (hfront : Unmarked front) (hinner : Written tokens inner)
    (hraw : kind = .block → (inner.dropWhile isTagBlank).head? ≠ some 'r')
    (h : Lexes (.text false) rest more) :
    Lexes (.text false) (front ++ (kind.opening trims ++ inner ++ kind.close) ++ rest)
      (dataTokens (if trims then front.trimEnd else front) ++
        kind.startToken :: (tokens ++ kind.endToken :: more)) := by
  have hkind : Marker.ofChar? kind.mark = some kind.marker := by cases kind <;> rfl
  have hclose : EndsWord (kind.close ++ rest) := by cases kind <;> rintro _ ⟨⟩ <;> rfl
  have hmark := afterMark_opening kind trims hinner rest
  -- a word that does not start with this letter is not `raw`
  have hstart : kind = .block → lonelyTag? "raw".toList (inner ++ (kind.close ++ rest)) = none := by
    rintro rfl
    exact lonelyTag?_eq_none (hraw rfl) rest
  have hlexes := start (findMarker_unmarked hfront hkind _) hmark hstart
    (written hinner hclose (stop h))
  simpa [TagKind.opening] using hlexes

end Codebook.Template
