import Codebook.Utf8

/-!
# Block comments

A catalog may carry `/* … */` comments, which are taken out before it is read. The pass is purely
lexical: a comment opens at the first `/*` whose text is UTF-8 up to the `*/` that closes it, and
a `/*` without such a close is ordinary text. Nothing is done twice, so what is left may hold a
comment again.
-/

namespace Codebook.Comment

/-- The byte `/`. -/
abbrev slash : UInt8 := 47

/-- The byte `*`. -/
abbrev star : UInt8 := 42

/-- The bytes after the first `*/`, in front of which only whole characters may stand. -/
def afterClose? (bs : Bytes) : Option Bytes :=
  match bs with
  | [] => none
  | b :: rest =>
    if b = star ∧ rest.head? = some slash then some rest.tail
    else
      match h : Utf8.decodeChar? (b :: rest) with
      | none => none
      | some (_, rest') =>
        have : rest'.length < (b :: rest).length := Utf8.length_lt_of_decodeChar? h
        afterClose? rest'
termination_by bs.length
decreasing_by exact this

/-- The bytes after the comment that the bytes start with. -/
def afterComment? : Bytes → Option Bytes
  | a :: b :: body => if a = slash ∧ b = star then afterClose? body else none
  | _ => none

/-- What follows the close is shorter than the body. -/
theorem length_lt_of_afterClose? {bs rest : Bytes} (h : afterClose? bs = some rest) :
    rest.length < bs.length := by
  fun_induction afterClose? bs with
  | case1 => simp at h
  | case2 b r hclose =>
    obtain rfl := Option.some.inj h
    simp only [List.length_tail, List.length_cons]; omega
  | case3 => simp at h
  | case4 b r _ c rest' _ hlt ih => exact Nat.lt_trans (ih h) hlt

/-- What follows a comment is shorter than what starts with it. -/
theorem length_lt_of_afterComment? {bs rest : Bytes} (h : afterComment? bs = some rest) :
    rest.length < bs.length := by
  unfold afterComment? at h
  split at h
  · split at h
    · have := length_lt_of_afterClose? h
      simp only [List.length_cons]; omega
    · simp at h
  · simp at h

/-- The bytes without their comments, each taken out whole from the left. -/
def strip (bs : Bytes) : Bytes :=
  match h : afterComment? bs with
  | some rest =>
    have : rest.length < bs.length := length_lt_of_afterComment? h
    strip rest
  | none =>
    match bs with
    | [] => []
    | b :: rest => b :: strip rest
termination_by bs.length

end Codebook.Comment
