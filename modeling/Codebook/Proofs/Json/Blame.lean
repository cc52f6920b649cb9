import Codebook.Proofs.Json.DocumentGrammar

/-!
# What a fault is about

A reader that is asked for a string finds nothing wrong but with the string, and one that looks at
something else finds nothing wrong but with that. So from the first byte of what should be a
description it is known what the fault can be, and likewise behind a key whose colon is missing.
-/

namespace Codebook.Json

open StringLiteral (quote)

/-- What can be wrong with a string. -/
inductive Cause.OfString : Cause → Prop where
  | endInString : OfString .endInString
  | invalidEscape : OfString .invalidEscape
  | controlCharacter : OfString .controlCharacter
  | unexpectedEndOfEscape : OfString .unexpectedEndOfEscape
  | loneSurrogate : OfString .loneSurrogate
  | invalidUnicode : OfString .invalidUnicode

/-- What can be wrong with something that stands in the place of a string: it is a value of another
kind, or not even that. -/
inductive Cause.OfOther : Cause → Prop where
  | notString (found : Found) : OfOther (.notString found)
  | expectedValue : OfOther .expectedValue
  | expectedWord : OfOther .expectedWord
  | endInValue : OfOther .endInValue
  | invalidNumber : OfOther .invalidNumber
  | numberOutOfRange : OfOther .numberOutOfRange

/-- What is wrong behind a key that no colon follows. -/
inductive ColonFault : Bytes → Cause → Prop where
  | ended {bs : Bytes} : Blanks bs → ColonFault bs .endInObject
  | other {blanks rest : Bytes} {b : UInt8} :
      Blanks blanks → isBlank b = false → b ≠ colon →
      ColonFault (blanks ++ b :: rest) .expectedColon

/-- What is wrong behind a colon that no string follows. -/
inductive ValueFault : Bytes → Cause → Prop where
  | ended {bs : Bytes} : Blanks bs → ValueFault bs .endInValue
  | string {blanks rest : Bytes} {cause : Cause} :
      Blanks blanks → cause.OfString → ValueFault (blanks ++ quote :: rest) cause
  | other {blanks rest : Bytes} {b : UInt8} {cause : Cause} :
      Blanks blanks → isBlank b = false → b ≠ quote → cause.OfOther →
      ValueFault (blanks ++ b :: rest) cause

/-! ## Strings -/

namespace StringLiteral

/-- The fault is one of strings. -/
def OfString (fault : Fault) : Prop := fault.cause.OfString

theorem fails_hexEscape (bs : Bytes) : (hexEscape bs).Fails OfString := by
  fun_cases hexEscape bs with
  | case1 => exact Except.fails_ok
  | case2 => exact Except.fails_error.2 .invalidEscape
  | case3 => exact Except.fails_error.2 .endInString

theorem fails_afterPairByte (expected : UInt8) (bs : Bytes) :
    (afterPairByte expected bs).Fails OfString := by
  fun_cases afterPairByte expected bs with
  | case1 => exact Except.fails_error.2 .endInString
  | case2 => exact Except.fails_ok
  | case3 => exact Except.fails_error.2 .unexpectedEndOfEscape

theorem fails_unicodeEscape (bs : Bytes) : (unicodeEscape bs).Fails OfString := by
  refine (fails_hexEscape bs).bind ?_
  rintro ⟨n, rest⟩
  dsimp only
  split
  · exact Except.fails_error.2 .loneSurrogate
  · split
    · -- the other half of the pair has to follow, again behind a backslash and its letter
      refine (fails_afterPairByte backslash rest).bind fun rest => ?_
      refine (fails_afterPairByte letterU rest).bind fun rest => ?_
      refine (fails_hexEscape rest).bind ?_
      rintro ⟨m, rest⟩
      dsimp only
      split
      · exact Except.fails_ok
      · exact Except.fails_error.2 .loneSurrogate
    · exact Except.fails_ok

theorem fails_escape (bs : Bytes) : (escape bs).Fails OfString := by
  fun_cases escape bs with
  | case1 => exact Except.fails_error.2 .endInString
  | case2 => exact Except.fails_ok
  | case3 rest => exact fails_unicodeEscape rest
  | case4 => exact Except.fails_error.2 .invalidEscape

theorem fails_body (bs : Bytes) : (body bs).Fails OfString := by
  fun_induction body bs with
  | case1 => exact Except.fails_error.2 .endInString
  | case2 => exact Except.fails_ok
  | case3 rest fault hescape => exact Except.fails_error.2 (fails_escape rest fault hescape)
  | case4 _ _ _ _ _ _ ih => exact ih.map _
  | case5 => exact Except.fails_error.2 .controlCharacter
  | case6 _ _ _ _ _ ih => exact ih.map _

/-- **Nothing but the string is wrong where a string is read.** -/
theorem fails_read (bs : Bytes) : (read bs).Fails OfString := by
  refine (fails_body bs).bind fun read => ?_
  dsimp only
  split
  · exact Except.fails_ok
  · exact Except.fails_error.2 .invalidUnicode

end StringLiteral

/-! ## Other values -/

/-- The fault is one of what is no string. -/
def OfOther (fault : Fault) : Prop := fault.cause.OfOther

namespace Number

theorem fails_toFloat (negative : Bool) (number : Scaled) (rest : Bytes) :
    (toFloat negative number rest).Fails OfOther := by
  fun_cases toFloat negative number rest with
  | case1 => exact Except.fails_ok
  | case2 => exact Except.fails_error.2 .numberOutOfRange

theorem fails_withExponent (negative : Bool) (number : Scaled) (bs : Bytes) :
    (withExponent negative number bs).Fails OfOther := by
  fun_cases withExponent negative number bs with
  | case1 => exact Except.fails_error.2 .endInValue
  | case2 => exact fails_toFloat _ _ _
  | case3 => exact Except.fails_error.2 .numberOutOfRange
  | case4 => exact Except.fails_ok
  | case5 => exact Except.fails_error.2 .invalidNumber

theorem fails_withFraction (negative : Bool) (number : Scaled) (bs : Bytes) :
    (withFraction negative number bs).Fails OfOther := by
  fun_cases withFraction negative number bs with
  | case1 => exact Except.fails_error.2 .endInValue
  | case2 => exact Except.fails_error.2 .invalidNumber
  | case3 | case5 => exact fails_toFloat _ _ _
  | case4 => exact fails_withExponent _ _ _

theorem fails_read (negative : Bool) (bs : Bytes) : (read negative bs).Fails OfOther := by
  fun_cases read negative bs with
  | case1 => exact Except.fails_error.2 .endInValue
  | case2 | case3 => exact Except.fails_error.2 .invalidNumber
  | case4 => exact fails_withFraction _ _ _
  | case5 => exact fails_withExponent _ _ _
  | case6 | case8 => exact Except.fails_ok
  | case7 | case9 => exact fails_toFloat _ _ _

end Number

theorem fails_afterWord (word bs : Bytes) : (afterWord word bs).Fails OfOther := by
  fun_induction afterWord word bs with
  | case1 => exact Except.fails_ok
  | case2 => exact Except.fails_error.2 .endInValue
  | case3 _ _ _ ih => exact ih
  | case4 => exact Except.fails_error.2 .expectedWord

/-- Nothing but the value is wrong where anything but a string is looked at. -/
theorem fails_foundValue {b : UInt8} (hb : b ≠ quote) (rest : Bytes) :
    (foundValue (b :: rest)).Fails OfOther := by
  generalize hbs : b :: rest = bs
  fun_cases foundValue bs with
  | case1 => exact nomatch hbs
  | case2 | case3 | case4 => exact (fails_afterWord _ _).map _
  | case5 | case6 => exact Number.fails_read _ _
  | case7 => exact absurd (List.cons.inj hbs).1 hb
  | case8 | case9 => exact Except.fails_ok
  | case10 => exact Except.fails_error.2 .expectedValue

theorem ofOther_wrongValue {b : UInt8} (hb : b ≠ quote) (rest : Bytes) :
    OfOther (wrongValue .notString (b :: rest)) := by
  unfold wrongValue
  split
  · exact .notString _
  · next fault hfound => exact fails_foundValue hb rest fault hfound

/-! ## The two parts behind a key -/

theorem isBlank_of_skipBlanks {bs rest : Bytes} {b : UInt8} (h : skipBlanks bs = b :: rest) :
    isBlank b = false := by
  have hhead := List.head?_dropWhile_not isBlank bs
  have hskip : bs.dropWhile isBlank = b :: rest := h
  rw [hskip] at hhead
  exact hhead

theorem fails_afterColon (bs : Bytes) :
    (afterColon bs).Fails fun fault => ColonFault bs fault.cause := by
  unfold afterColon
  split
  · next hskip => exact Except.fails_error.2 (.ended (skipBlanks_eq_nil_iff.1 hskip))
  · next b rest hskip =>
    split
    · exact Except.fails_ok
    · next hb =>
      obtain ⟨blanks, hblanks, rfl⟩ := blanks_of_skipBlanks hskip
      exact Except.fails_error.2 (.other hblanks (isBlank_of_skipBlanks hskip) hb)

theorem fails_description (bs : Bytes) :
    (description bs).Fails fun fault => ValueFault bs fault.cause := by
  unfold description
  split
  · next hskip => exact Except.fails_error.2 (.ended (skipBlanks_eq_nil_iff.1 hskip))
  · next b rest hskip =>
    obtain ⟨blanks, hblanks, rfl⟩ := blanks_of_skipBlanks hskip
    split
    · next hb =>
      subst hb
      exact fun fault hfault => .string hblanks (StringLiteral.fails_read rest fault hfault)
    · next hb =>
      exact Except.fails_error.2
        (.other hblanks (isBlank_of_skipBlanks hskip) hb (ofOther_wrongValue hb rest))

end Codebook.Json
