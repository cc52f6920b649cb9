import Codebook.Template.Constant
import Codebook.Text.Split
import Codebook.Unicode.WhiteSpace

/-!
# Taking a template apart

Outside tags everything up to the next `{{`, `{%` or `{#` is text; inside tags blanks separate
words, signs and constants. A hyphen directly inside a delimiter takes away the white space on its
outer side. A comment leaves nothing behind, and a raw block leaves what stands between its two
tags.

The line that reading has come to goes along with the rest of the template, and every step adds the
line feeds that it goes over. A fault is on that line, which is the last one of all where a string,
a comment or a raw block has no end.
-/

namespace Codebook.Template

/-! ## Delimiters -/

/-- What a marker opens. -/
inductive Marker where
  | variable
  | block
  | comment
  deriving DecidableEq, Repr

/-- The marker that a character behind `{` makes. -/
def Marker.ofChar? : Char → Option Marker
  | '{' => some .variable
  | '%' => some .block
  | '#' => some .comment
  | _ => none

/-- The marker that a text starts with. -/
def markerAt? (c : Char) (rest : Text) : Option Marker :=
  if c = '{' then rest.head?.bind Marker.ofChar? else none

/-- The text before the first marker, the marker, and what follows it. -/
def findMarker : Text → Option (Text × Marker × Text)
  | [] => none
  | c :: rest =>
    match markerAt? c rest with
    | some marker => some ([], marker, rest.tail)
    | none => (findMarker rest).map fun (front, marker, behind) => (c :: front, marker, behind)

/-- Whether a hyphen stands next, and what follows it, or a plus sign, which does nothing. -/
def afterMark : Text → Bool × Text
  | [] => (false, [])
  | c :: rest =>
    if c = '-' then (true, rest) else if c = '+' then (false, rest) else (false, c :: rest)

/-- The two kinds of tags. -/
inductive TagKind where
  | variable
  | block
  deriving DecidableEq, Repr

/-- The sign that ends a tag. -/
def TagKind.close : TagKind → Text
  | .variable => ['}', '}']
  | .block => ['%', '}']

/-- The token that ends a tag. -/
def TagKind.endToken : TagKind → Token
  | .variable => .variableEnd
  | .block => .blockEnd

/-- What follows the end of a tag that stands next, and whether it takes away white space. -/
def tagEnd? (kind : TagKind) (cs : Text) : Option (Bool × Text) :=
  let mark := afterMark cs
  if kind.close.isPrefixOf mark.2 then some (mark.1, mark.2.drop kind.close.length) else none

/-- The same inside so many braces: none of them is closed by the end of a tag. -/
def tagEndInside? (kind : TagKind) (braces : Nat) (cs : Text) : Option (Bool × Text) :=
  if braces = 0 then tagEnd? kind cs else none

/-- How many braces are open behind a token, of those that were open in front of it. -/
def Token.bracesBehind (braces : Nat) : Token → Nat
  | .sign .openBrace => braces + 1
  | .sign .closeBrace => braces - 1
  | _ => braces

/-! ## Comments and raw blocks -/

/-- What follows the end of a comment, and whether it takes away white space. -/
def commentEnd? (cs : Text) : Option (Bool × Text) :=
  (Text.cut? ['#', '}'] cs).map fun (inside, behind) => (inside.getLast? == some '-', behind)

/-- What follows a tag that holds one word only, behind its marker, and whether its end takes away
white space. -/
def lonelyTag? (word : Text) (cs : Text) : Option (Bool × Text) :=
  let start := cs.dropWhile isTagBlank
  if word.isPrefixOf start then
    tagEnd? .block ((start.drop word.length).dropWhile isTagBlank)
  else none

/-- The end of a raw block: whether its tag takes away white space on either side, and what
follows it. -/
structure RawEnd where
  trimsBefore : Bool
  trimsBehind : Bool
  behind : Text

/-- The tag that ends a raw block, behind its marker. -/
def rawEndAt? (cs : Text) : Option RawEnd :=
  let mark := afterMark cs
  (lonelyTag? "endraw".toList mark.2).map fun (trimsBehind, behind) =>
    ⟨mark.1, trimsBehind, behind⟩

/-- What a raw block holds, and its end. -/
def findRawEnd : Text → Option (Text × RawEnd)
  | [] => none
  | c :: rest =>
    match if markerAt? c rest = some .block then rawEndAt? rest.tail else none with
    | some rawEnd => some ([], rawEnd)
    | none => (findRawEnd rest).map fun (front, rawEnd) => (c :: front, rawEnd)

/-- What a raw block shows. -/
def rawText (trimsStart : Bool) (inside : Text) (rawEnd : RawEnd) : Text :=
  let inside := if trimsStart then inside.trimStart else inside
  if rawEnd.trimsBefore then inside.trimEnd else inside

/-! ## Inside tags -/

/-- The signs of two characters. -/
def longSigns : List ((Char × Char) × Sign) := [
  (('/', '/'), .doubleSlash), (('*', '*'), .doubleStar), (('=', '='), .equal),
  (('!', '='), .notEqual), (('>', '='), .greaterEqual), (('<', '='), .lessEqual)]

/-- The signs of one character. -/
def shortSigns : List (Char × Sign) := [
  ('+', .plus), ('-', .minus), ('*', .star), ('/', .slash), ('%', .percent), ('.', .dot),
  (',', .comma), (':', .colon), ('~', .tilde), ('|', .bar), ('=', .assign), ('>', .greater),
  ('<', .less), ('(', .openParen), (')', .closeParen), ('[', .openBracket), (']', .closeBracket),
  ('{', .openBrace), ('}', .closeBrace)]

/-- The sign that stands next, and what follows it. -/
def signAt? (c : Char) (rest : Text) : Option (Sign × Text) :=
  match rest.head?.bind fun d => longSigns.lookup (c, d) with
  | some sign => some (sign, rest.tail)
  | none => (shortSigns.lookup c).map fun sign => (sign, rest)

/-- The token that starts with a character inside a tag, and what follows it. A string without an
end goes as far as the template. -/
def tagToken (c : Char) (rest : Text) : Token × Text :=
  match signAt? c rest with
  | some (sign, behind) => (.sign sign, behind)
  | none =>
    if c = '"' || c = '\'' then
      match stringBody c rest with
      | some (body, behind) => (stringToken body, behind)
      | none => (.fault, [])
    else if c.isDigit then number (c :: rest)
    else if startsWord c then
      (.word (c :: rest.takeWhile continuesWord), rest.dropWhile continuesWord)
    else (.fault, rest)

/-! ## Every lexeme takes something away -/

theorem length_le_afterMark (cs : Text) : (afterMark cs).2.length ≤ cs.length := by
  cases cs with
  | nil => simp [afterMark]
  | cons c rest => simp only [afterMark]; split <;> (try split) <;> simp

theorem length_lt_of_findMarker {cs front behind : Text} {marker : Marker}
    (h : findMarker cs = some (front, marker, behind)) : behind.length < cs.length := by
  induction cs generalizing front with
  | nil => simp [findMarker] at h
  | cons c rest ih =>
    simp only [findMarker] at h
    split at h
    · simp only [Option.some.injEq, Prod.mk.injEq] at h
      simp only [← h.2.2, List.length_tail, List.length_cons]; omega
    · obtain ⟨⟨front', marker', behind'⟩, hrest, hpair⟩ := Option.map_eq_some_iff.1 h
      simp only [Prod.mk.injEq] at hpair
      obtain ⟨-, rfl, rfl⟩ := hpair
      exact Nat.lt_succ_of_lt (ih hrest)

theorem length_lt_of_tagEnd? {kind : TagKind} {cs behind : Text} {trims : Bool}
    (h : tagEnd? kind cs = some (trims, behind)) : behind.length < cs.length := by
  have hle := length_le_afterMark cs
  simp only [tagEnd?] at h
  split at h
  · next hclose =>
    simp only [Option.some.injEq, Prod.mk.injEq] at h
    have hclose := (List.isPrefixOf_iff_prefix.1 hclose).length_le
    rw [← h.2, List.length_drop]
    have : 0 < kind.close.length := by cases kind <;> simp [TagKind.close]
    omega
  · simp at h

theorem length_lt_of_tagEndInside? {kind : TagKind} {braces : Nat} {cs behind : Text} {trims : Bool}
    (h : tagEndInside? kind braces cs = some (trims, behind)) : behind.length < cs.length := by
  unfold tagEndInside? at h
  split at h
  · exact length_lt_of_tagEnd? h
  · exact nomatch h

theorem length_le_of_commentEnd? {cs behind : Text} {trims : Bool}
    (h : commentEnd? cs = some (trims, behind)) : behind.length < cs.length := by
  obtain ⟨⟨inside, behind'⟩, hcut, hpair⟩ := Option.map_eq_some_iff.1 h
  simp only [Prod.mk.injEq] at hpair
  exact hpair.2 ▸ Text.length_lt_of_cut? (by simp) hcut

theorem length_lt_of_lonelyTag? {word cs behind : Text} {trims : Bool}
    (h : lonelyTag? word cs = some (trims, behind)) : behind.length < cs.length := by
  simp only [lonelyTag?] at h
  split at h
  · have hend := length_lt_of_tagEnd? h
    have h₁ := (List.dropWhile_suffix (l := (cs.dropWhile isTagBlank).drop word.length)
      isTagBlank).length_le
    have h₂ := (List.dropWhile_suffix (l := cs) isTagBlank).length_le
    have h₃ := List.length_drop (i := word.length) (l := cs.dropWhile isTagBlank)
    omega
  · simp at h

theorem length_lt_of_findRawEnd {cs inside : Text} {rawEnd : RawEnd}
    (h : findRawEnd cs = some (inside, rawEnd)) : rawEnd.behind.length < cs.length := by
  induction cs generalizing inside with
  | nil => simp [findRawEnd] at h
  | cons c rest ih =>
    simp only [findRawEnd] at h
    split at h
    · next found hfound =>
      simp only [Option.some.injEq, Prod.mk.injEq] at h
      split at hfound
      · obtain ⟨⟨trims, behind⟩, htag, hend⟩ := Option.map_eq_some_iff.1 hfound
        have h₁ := length_lt_of_lonelyTag? htag
        have h₂ := length_le_afterMark rest.tail
        rw [← h.2, ← hend]
        simp only [List.length_tail] at h₂
        simp only [List.length_cons]; omega
      · simp at hfound
    · obtain ⟨⟨front, found⟩, hrest, hpair⟩ := Option.map_eq_some_iff.1 h
      simp only [Prod.mk.injEq] at hpair
      exact Nat.lt_succ_of_lt (ih (hpair.2 ▸ hrest))

theorem length_lt_tagToken (c : Char) (rest : Text) :
    (tagToken c rest).2.length < (c :: rest).length := by
  unfold tagToken
  -- a sign, a string, a number, a word, or something that is none of them
  split
  · next sign behind hsign =>
    simp only [signAt?] at hsign
    split at hsign
    · simp only [Option.some.injEq, Prod.mk.injEq] at hsign
      simp only [← hsign.2, List.length_tail, List.length_cons]; omega
    · obtain ⟨found, _, hpair⟩ := Option.map_eq_some_iff.1 hsign
      simp only [Prod.mk.injEq] at hpair
      simp [← hpair.2]
  · split
    · split
      · next hbody => exact Nat.lt_succ_of_lt (length_lt_of_stringBody hbody)
      · simp
    · split
      · next hdigit => exact length_lt_number hdigit rest
      · split
        · exact Nat.lt_succ_of_le (List.dropWhile_suffix _).length_le
        · simp

theorem length_trimStart_le (t : Text) : t.trimStart.length ≤ t.length :=
  (List.dropWhile_suffix _).length_le

/-! ## The whole template -/

/-- Where reading has come to: outside tags, where white space may have to be skipped first, or
inside one, where so many braces are open. -/
inductive Place where
  | text (trims : Bool)
  | tag (kind : TagKind) (braces : Nat)

/-- Text outside tags, if there is any. -/
def dataLexemes (line : Nat) (text : Text) : List Lexeme :=
  if text.isEmpty then [] else [⟨.data text, line⟩]

/-- How many line feeds there are between two places, of which the second is the later one. -/
def lineFeedsBetween (cs behind : Text) : Nat := cs.lineFeeds - behind.lineFeeds

/-- How many line feeds the token goes over that starts with a character inside a tag. -/
def tokenLineFeeds (c : Char) (rest : Text) : Nat :=
  if c = '"' || c = '\'' then (stringBody c rest).elim rest.lineFeeds (·.1.lineFeeds) else 0

/-- The lexemes of the rest of a template, which starts on `line`. -/
def lexemesFrom (line : Nat) (place : Place) (cs : Text) : List Lexeme :=
  match place with
  | .text trims =>
    let start := if trims then cs.trimStart else cs
    have hstart : start.length ≤ cs.length := by
      simp only [start]; split
      · exact length_trimStart_le cs
      · exact Nat.le_refl _
    let line := if trims then line + Text.lineFeeds (cs.takeWhile Unicode.isWhiteSpace) else line
    match hmarker : findMarker start with
    | none => dataLexemes line start
    | some (front, marker, behind) =>
      have hbehind := length_lt_of_findMarker hmarker
      have hmark := length_le_afterMark behind
      let next := line + front.lineFeeds
      dataLexemes line (if (afterMark behind).1 then front.trimEnd else front) ++
        match marker with
        | .variable =>
          ⟨.variableStart, next⟩ :: lexemesFrom next (.tag .variable 0) (afterMark behind).2
        | .comment =>
          match hcomment : commentEnd? (afterMark behind).2 with
          | none => [⟨.fault, next + behind.lineFeeds⟩]
          | some (trims, rest) =>
            have := length_le_of_commentEnd? hcomment
            lexemesFrom (next + lineFeedsBetween behind rest) (.text trims) rest
        | .block =>
          match hraw : lonelyTag? "raw".toList (afterMark behind).2 with
          | none => ⟨.blockStart, next⟩ :: lexemesFrom next (.tag .block 0) (afterMark behind).2
          | some (trims, body) =>
            have hbody := length_lt_of_lonelyTag? hraw
            match hinside : findRawEnd body with
            | none => [⟨.fault, next + behind.lineFeeds⟩]
            | some (inside, rawEnd) =>
              have := length_lt_of_findRawEnd hinside
              ⟨.data (rawText trims inside rawEnd), next + lineFeedsBetween behind body⟩ ::
                lexemesFrom (next + lineFeedsBetween behind rawEnd.behind)
                  (.text rawEnd.trimsBehind) rawEnd.behind
  | .tag kind braces =>
    let line := line + Text.lineFeeds (cs.takeWhile isTagBlank)
    match hcs : cs.dropWhile isTagBlank with
    | [] => []
    | c :: rest =>
      have hle : (c :: rest).length ≤ cs.length := hcs ▸ (List.dropWhile_suffix _).length_le
      match hend : tagEndInside? kind braces (c :: rest) with
      | some (trims, behind) =>
        have := length_lt_of_tagEndInside? hend
        ⟨kind.endToken, line⟩ :: lexemesFrom line (.text trims) behind
      | none =>
        have := length_lt_tagToken c rest
        let next := line + tokenLineFeeds c rest
        if (tagToken c rest).1.isFault then [⟨.fault, next⟩]
        else
          let behind := Token.bracesBehind braces (tagToken c rest).1
          ⟨(tagToken c rest).1, line⟩ :: lexemesFrom next (.tag kind behind) (tagToken c rest).2
termination_by cs.length

/-- The lexemes of a template. -/
def lexemes (template : Text) : List Lexeme := lexemesFrom 1 (.text false) template

end Codebook.Template
