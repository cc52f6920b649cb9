import Codebook.Text.Quoted

/-!
# What a quoted text shows

Between the quotes stand the characters of the text in their order, each as itself unless it would
not be told from what the quotes mean or would not show. `Escaped` lists the characters that have a
letter or a sign of their own behind a backslash; every other one that does not show (`Hidden`)
stands there by its number.
-/

namespace Codebook.Text

/-- The characters with an escape of their own, and what stands behind the backslash. -/
inductive Escaped : Char → Char → Prop where
  | quote : Escaped '"' '"'
  | backslash : Escaped '\\' '\\'
  | newline : Escaped '\n' 'n'
  | carriageReturn : Escaped '\r' 'r'
  | tab : Escaped '\t' 't'
  | null : Escaped '\x00' '0'

/-- The characters that do not show: the control characters of ASCII, and outside of it those that
the table lists. -/
def Hidden (c : Char) : Prop :=
  if c.toNat < 128 then c.toNat < 32 ∨ c.toNat = 127
  else ∃ range ∈ Unicode.escapedRanges, range.1 ≤ c.toNat ∧ c.toNat ≤ range.2

/-- What stands between quotes for a character. -/
inductive Shows : Char → Text → Prop where
  | escape {c sign : Char} : Escaped c sign → Shows c ['\\', sign]
  /-- The hexadecimal digits of the number, between braces. -/
  | number {c : Char} : (∀ sign, ¬ Escaped c sign) → Hidden c →
      Shows c ("\\u\x7b".toList ++ Nat.toDigits 16 c.toNat ++ "\x7d".toList)
  | itself {c : Char} : (∀ sign, ¬ Escaped c sign) → ¬ Hidden c → Shows c [c]

/-- What stands between quotes for the characters of a text. -/
inductive Inside : Text → Text → Prop where
  | nil : Inside [] []
  | cons {c : Char} {t shown rest : Text} :
      Shows c shown → Inside t rest → Inside (c :: t) (shown ++ rest)

/-- A text between double quotes. -/
inductive Quotes (t : Text) : Text → Prop where
  | mk {inside : Text} : Inside t inside → Quotes t ('"' :: inside ++ ['"'])

/-- In ASCII, the table lists the control characters. -/
theorem any_escapedRanges_ascii : ∀ n < 128,
    (Unicode.escapedRanges.any fun range => range.1 ≤ n && n ≤ range.2) =
      decide (n < 32 ∨ n = 127) := by
  decide +kernel

theorem hidden_iff {c : Char} : Hidden c ↔ Unicode.inRanges Unicode.escapedRanges c = true := by
  unfold Hidden Unicode.inRanges
  split
  · next hascii => rw [any_escapedRanges_ascii _ hascii, decide_eq_true_eq]
  · simp only [List.any_eq_true, Bool.and_eq_true, decide_eq_true_eq]

theorem shows_quotedChar (c : Char) : Shows c (quotedChar c) := by
  unfold quotedChar
  split
  · exact .escape .null
  · exact .escape .tab
  · exact .escape .carriageReturn
  · exact .escape .newline
  · exact .escape .backslash
  · exact .escape .quote
  · next hnull htab hreturn hnewline hbackslash hquote =>
    -- none of the escapes, so a number or the character itself
    have hescaped (sign : Char) : ¬ Escaped c sign := by
      rintro ⟨⟩ <;> contradiction
    split
    · next h => exact .number hescaped (hidden_iff.2 h)
    · next h => exact .itself hescaped (mt hidden_iff.1 h)

theorem inside_flatMap (t : Text) : Inside t (t.flatMap quotedChar) := by
  induction t with
  | nil => exact .nil
  | cons c t ih => exact .cons (shows_quotedChar c) ih

theorem quotes_quoted (t : Text) : Quotes t t.quoted := .mk (inside_flatMap t)

/-! ## Only one text shows so -/

theorem Escaped.eq {c sign sign' : Char} (h : Escaped c sign) (h' : Escaped c sign') :
    sign = sign' := by
  cases h <;> cases h' <;> rfl

/-- There is one way to show a character. -/
theorem Shows.eq {c : Char} {shown shown' : Text} (h : Shows c shown) (h' : Shows c shown') :
    shown = shown' := by
  -- the three ways exclude each other
  cases h with
  | escape h =>
      cases h' with
      | escape h' => rw [h.eq h']
      | number hnone => exact absurd h (hnone _)
      | itself hnone => exact absurd h (hnone _)
  | number hnone hhidden =>
      cases h' with
      | escape h' => exact absurd h' (hnone _)
      | number => rfl
      | itself _ hshows => exact absurd hhidden hshows
  | itself hnone hshows =>
      cases h' with
      | escape h' => exact absurd h' (hnone _)
      | number _ hhidden => exact absurd hhidden hshows
      | itself => rfl

theorem Inside.eq {t inside inside' : Text} (h : Inside t inside) (h' : Inside t inside') :
    inside = inside' := by
  induction h generalizing inside' with
  | nil =>
      cases h'
      rfl
  | cons hc _ ih =>
      cases h' with
      | cons hc' hrest => rw [hc.eq hc', ih hrest]

/-- **A text is quoted in one way**: its characters in order, or their escapes, between quotes. -/
theorem quotes_iff {t shown : Text} : Quotes t shown ↔ shown = t.quoted := by
  constructor
  · intro h
    obtain ⟨hinside⟩ := h
    rw [hinside.eq (inside_flatMap t), quoted]
  · rintro rfl
    exact quotes_quoted t

/-- The letters as they are, the quote behind a backslash, and the mark that joins the letter
before it by its number. -/
example : Quotes "\"é\u0301".toList "\"\\\"é\\u\x7b301\x7d\"".toList :=
  quotes_iff.2 (by decide +kernel)

end Codebook.Text
