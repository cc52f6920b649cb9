import Mathlib.Algebra.GroupWithZero.Nat
import Codebook.Proofs.Comment.Shape

/-!
# Where the comments of a document are

Bytes are **cut** into gaps and comments when no comment begins inside a gap. There is exactly one
way to cut any bytes, whether they are UTF-8 or not, and `strip` is what its gaps make up. So the
scan from the left loses nothing but whole comments, each as short as it can be, and it goes on
right behind each of them and right behind each `/*` that opens none.
-/

namespace Codebook.Comment

/-- Gaps, each with the comment behind it, and the gap behind the last comment. -/
def joined : List (Bytes × Bytes) → Bytes → Bytes
  | [], last => last
  | (gap, comment) :: pieces, last => gap ++ comment ++ joined pieces last

/-- The gaps alone. -/
def gaps : List (Bytes × Bytes) → Bytes → Bytes
  | [], last => last
  | (gap, _) :: pieces, last => gap ++ gaps pieces last

/-- The gaps one by one, the one behind the last comment at the end. -/
def gapList (pieces : List (Bytes × Bytes)) (last : Bytes) : List Bytes :=
  pieces.map Prod.fst ++ [last]

theorem flatten_gapList (pieces : List (Bytes × Bytes)) (last : Bytes) :
    (gapList pieces last).flatten = gaps pieces last := by
  induction pieces with
  | nil => exact List.append_nil last
  | cons piece pieces ih =>
      rw [gaps, ← ih]
      rfl

/-- No comment begins inside the gap, given what stands behind it. -/
def Clear (gap behind : Bytes) : Prop :=
  ∀ i, i < gap.length → ¬ Begins ((gap ++ behind).drop i)

/-- Every comment is one, and none begins inside a gap. -/
inductive Leftmost : List (Bytes × Bytes) → Bytes → Prop where
  | last {gap : Bytes} : Clear gap [] → Leftmost [] gap
  | piece {gap comment last : Bytes} {pieces : List (Bytes × Bytes)} :
      IsComment comment → Clear gap (comment ++ joined pieces last) → Leftmost pieces last →
      Leftmost ((gap, comment) :: pieces) last

/-- Bytes cut into gaps and comments. -/
structure Cut (raw : Bytes) where
  pieces : List (Bytes × Bytes)
  last : Bytes
  joined_eq : joined pieces last = raw
  leftmost : Leftmost pieces last

namespace Cut

variable {raw : Bytes}

/-- What is left of the bytes without the comments. -/
def gaps (cut : Cut raw) : Bytes := Comment.gaps cut.pieces cut.last

/-- The gaps from the left to the right. -/
def gapList (cut : Cut raw) : List Bytes := Comment.gapList cut.pieces cut.last

/-- The comments from the left to the right. -/
def comments (cut : Cut raw) : List Bytes := cut.pieces.map Prod.snd

end Cut

/-! ## The scan -/

theorem strip_comment_append {comment : Bytes} (h : IsComment comment) (rest : Bytes) :
    strip (comment ++ rest) = strip rest := by
  have hafter : afterComment? (comment ++ rest) = some rest :=
    afterComment?_eq_some_iff.mpr ⟨comment, h, rfl⟩
  rw [strip]
  split
  · rename_i rest' hsome
    rw [hafter] at hsome
    obtain rfl := Option.some.inj hsome
    rfl
  · rename_i hnone; rw [hafter] at hnone; simp at hnone

theorem strip_nil : strip [] = [] := by
  rw [strip]
  split
  · rename_i hsome; simp [afterComment?] at hsome
  · rfl

/-- A byte at which no comment begins stays. -/
theorem strip_cons {b : UInt8} {rest : Bytes} (h : ¬ Begins (b :: rest)) :
    strip (b :: rest) = b :: strip rest := by
  rw [strip]
  split
  · rename_i rest' hsome; exact absurd (begins_iff.mpr ⟨rest', hsome⟩) h
  · rfl

theorem Clear.tail {b : UInt8} {gap behind : Bytes} (h : Clear (b :: gap) behind) :
    Clear gap behind :=
  fun i hi => h (i + 1) (Nat.succ_lt_succ hi)

theorem Clear.cons {b : UInt8} {gap behind : Bytes} (hb : ¬ Begins (b :: gap ++ behind))
    (h : Clear gap behind) : Clear (b :: gap) behind := by
  intro i hi
  cases i with
  | zero => exact hb
  | succ i => exact h i (Nat.lt_of_succ_lt_succ hi)

theorem clear_nil (behind : Bytes) : Clear [] behind :=
  fun _ hi => absurd hi (Nat.not_lt_zero _)

/-- A gap stays as it is. -/
theorem strip_gap_append {gap behind : Bytes} (h : Clear gap behind) :
    strip (gap ++ behind) = gap ++ strip behind := by
  induction gap with
  | nil => rfl
  | cons b gap ih =>
      have hb : ¬ Begins (b :: (gap ++ behind)) := h 0 (Nat.succ_pos _)
      rw [List.cons_append, strip_cons hb, ih h.tail, List.cons_append]

theorem strip_of_clear {bs : Bytes} (h : Clear bs []) : strip bs = bs := by
  have := strip_gap_append h
  rwa [strip_nil, List.append_nil] at this

/-- **What is left of bytes that are cut is their gaps.** -/
theorem strip_joined {pieces : List (Bytes × Bytes)} {last : Bytes} (h : Leftmost pieces last) :
    strip (joined pieces last) = gaps pieces last := by
  induction h with
  | last hgap => exact strip_of_clear hgap
  | piece hcomment hgap _ ih =>
      rw [joined, gaps, List.append_assoc, strip_gap_append hgap, strip_comment_append hcomment,
        ih]

/-! ## There is a cut -/

/-- One more byte in front, at which no comment begins, belongs to the first gap. -/
theorem Leftmost.exists_cons {b : UInt8} {pieces : List (Bytes × Bytes)} {last : Bytes}
    (h : Leftmost pieces last) (hb : ¬ Begins (b :: joined pieces last)) :
    ∃ pieces' last', joined pieces' last' = b :: joined pieces last ∧ Leftmost pieces' last' := by
  cases h with
  | last hgap =>
      exact ⟨[], b :: last, rfl, .last (.cons (by rwa [List.append_nil]) hgap)⟩
  | @piece gap comment _ pieces hcomment hgap hrest =>
      refine ⟨(b :: gap, comment) :: pieces, last, rfl, .piece hcomment (.cons ?_ hgap) hrest⟩
      rwa [joined, List.append_assoc] at hb

theorem exists_leftmost (raw : Bytes) :
    ∃ pieces last, joined pieces last = raw ∧ Leftmost pieces last := by
  -- the scan finds it: where no comment begins, one byte goes to the gap of what is behind
  fun_induction strip raw with
  | case1 bs rest hsome _ ih =>
      obtain ⟨comment, hcomment, rfl⟩ := afterComment?_eq_some_iff.mp hsome
      obtain ⟨pieces, last, rfl, hrest⟩ := ih
      exact ⟨([], comment) :: pieces, last, rfl, .piece hcomment (clear_nil _) hrest⟩
  | case2 => exact ⟨[], [], rfl, .last (clear_nil _)⟩
  | case3 b rest hnone ih =>
      obtain ⟨pieces, last, rfl, hrest⟩ := ih
      refine hrest.exists_cons fun hb => ?_
      obtain ⟨rest', hsome⟩ := begins_iff.mp hb
      rw [hnone] at hsome; simp at hsome

/-! ## There is no other cut -/

/-- A gap does not reach over the place where a comment begins. -/
theorem Clear.length_le {gap behind gap' rest : Bytes} (h : Clear gap behind)
    (heq : gap ++ behind = gap' ++ rest) (hrest : Begins rest) : gap.length ≤ gap'.length := by
  refine Nat.le_of_not_lt fun hlt => h _ hlt ?_
  rwa [heq, List.drop_left]

theorem begins_append {comment : Bytes} (h : IsComment comment) (rest : Bytes) :
    Begins (comment ++ rest) := ⟨comment, h, List.prefix_append ..⟩

/-- Behind the last comment there is no further one. -/
theorem Clear.not_joined_cons {gap last : Bytes} {piece : Bytes × Bytes}
    {pieces : List (Bytes × Bytes)} (h : Clear gap [])
    (heq : gap = joined (piece :: pieces) last) (hcomment : IsComment piece.2) : False := by
  obtain ⟨gap', comment⟩ := piece
  rw [joined, List.append_assoc] at heq
  have hle := h.length_le ((List.append_nil gap).trans heq) (begins_append hcomment _)
  have hfour : 4 ≤ comment.length := hcomment.four_le_length
  rw [heq] at hle
  simp only [List.length_append] at hle
  omega

/-- **Bytes are cut in one way only.** -/
theorem Leftmost.unique {pieces pieces' : List (Bytes × Bytes)} {last last' : Bytes}
    (h : Leftmost pieces last) (h' : Leftmost pieces' last')
    (heq : joined pieces last = joined pieces' last') : pieces = pieces' ∧ last = last' := by
  induction h generalizing pieces' with
  | last hgap =>
      cases h' with
      | last => exact ⟨rfl, heq⟩
      | piece hcomment' => exact (hgap.not_joined_cons heq hcomment').elim
  | @piece gap comment last pieces hcomment hgap _ ih =>
      cases h' with
      | last hgap' => exact (hgap'.not_joined_cons heq.symm hcomment).elim
      | @piece gap' comment' _ pieces' hcomment' hgap' hrest' =>
          simp only [joined, List.append_assoc] at heq
          -- neither gap ends before the other one
          have hlen : gap.length = gap'.length := Nat.le_antisymm
            (hgap.length_le heq (begins_append hcomment' _))
            (hgap'.length_le heq.symm (begins_append hcomment _))
          obtain ⟨rfl, hbehind⟩ := List.append_inj heq hlen
          obtain ⟨rfl, hjoined⟩ := hcomment.eq_of_append_eq hcomment' hbehind
          obtain ⟨rfl, rfl⟩ := ih hrest' hjoined
          exact ⟨rfl, rfl⟩

theorem Cut.eq {raw : Bytes} (cut cut' : Cut raw) : cut = cut' := by
  obtain ⟨pieces, last, rfl, h⟩ := cut
  obtain ⟨pieces', last', heq', h'⟩ := cut'
  obtain ⟨rfl, rfl⟩ := h.unique h' heq'.symm
  rfl

/-! ## Bytes in which nothing is a comment -/

theorem strip_of_not_opening {bs : Bytes} (h : ¬ opening <:+: bs) : strip bs = bs :=
  strip_of_clear fun i _ hb => h (by
    rw [List.append_nil] at hb
    exact hb.opening_prefix.isInfix.trans (List.drop_suffix i bs).isInfix)

theorem strip_of_not_closing {bs : Bytes} (h : ¬ closing <:+: bs) : strip bs = bs :=
  strip_of_clear fun i _ hb => h (by
    rw [List.append_nil] at hb
    exact hb.closing_infix.trans (List.drop_suffix i bs).isInfix)

/-- A `/*` that runs into bytes where no character begins stays, and the scan goes on behind it. -/
theorem strip_unclosed {text : Text} {behind : Bytes} (htext : ¬ closing <:+: Utf8.encode text)
    (hbehind : ∀ c, ¬ Utf8.encodeChar c <+: behind) :
    strip (opening ++ Utf8.encode text ++ behind) =
      opening ++ strip (Utf8.encode text ++ behind) := by
  have hslash : behind.head? ≠ some slash := fun h => by
    obtain ⟨rest, rfl⟩ := List.head?_eq_some_iff.mp h
    exact hbehind '/' ⟨rest, rfl⟩
  have hnone : afterClose? (Utf8.encode text ++ behind) = none := by
    rw [afterClose?_encode_append htext hslash, afterClose?_eq_none hbehind]
  -- the `/*` opens nothing, and its `*` is no second start
  have hopen : ¬ Begins (slash :: star :: (Utf8.encode text ++ behind)) := fun h => by
    obtain ⟨rest, hsome⟩ := begins_iff.mp h
    rw [afterComment?, if_pos ⟨rfl, rfl⟩, hnone] at hsome
    simp at hsome
  have hstar : ¬ Begins (star :: (Utf8.encode text ++ behind)) := fun h =>
    absurd (List.cons_prefix_cons.mp h.opening_prefix).1 (by decide)
  rw [List.append_assoc]
  show strip (slash :: star :: (Utf8.encode text ++ behind)) = _
  rw [strip_cons hopen, strip_cons hstar]
  rfl

/-! ## What the scan removes -/

theorem length_joined (pieces : List (Bytes × Bytes)) (last : Bytes) :
    (joined pieces last).length =
      (gaps pieces last).length + ((pieces.map Prod.snd).map List.length).sum := by
  induction pieces with
  | nil => rfl
  | cons piece pieces ih =>
      simp only [joined, gaps, List.length_append, List.map_cons, List.sum_cons, ih]
      omega

/-- Bytes that the scan leaves as they are hold no comment. -/
theorem clear_of_strip_eq {bs : Bytes} (h : strip bs = bs) : Clear bs [] := by
  obtain ⟨pieces, last, rfl, hleft⟩ := exists_leftmost bs
  have hlen := length_joined pieces last
  rw [strip_joined hleft] at h
  cases hleft with
  | last hgap => exact hgap
  | piece hcomment _ _ =>
      have hfour := hcomment.four_le_length
      rw [h] at hlen
      simp only [List.map_cons, List.sum_cons] at hlen
      omega

theorem Leftmost.isComment {pieces : List (Bytes × Bytes)} {last : Bytes}
    (h : Leftmost pieces last) : ∀ piece ∈ pieces, IsComment piece.2 := by
  induction h with
  | last => intro piece hp; simp at hp
  | piece hcomment _ _ ih =>
      intro piece hp
      rcases List.mem_cons.mp hp with rfl | hp
      · exact hcomment
      · exact ih piece hp

/--
**The scan takes out exactly the comments of the one cut there is.**

What is taken out is counted by the difference of the lengths, which is therefore never negative.
A `/*` whose text runs into a byte that begins no character stays, and a later one may open a
comment all the same; `/*/` is no comment.
-/
theorem strip_eq_gaps (raw : Bytes) :
    (∃ cut : Cut raw, (∀ other : Cut raw, other = cut) ∧ strip raw = cut.gaps ∧
      (∀ comment ∈ cut.comments, IsComment comment ∧ 4 ≤ comment.length) ∧
      (strip raw).length ≤ raw.length ∧
      raw.length - (strip raw).length = (cut.comments.map List.length).sum) ∧
    (∀ (text : Text) (behind : Bytes), ¬ closing <:+: Utf8.encode text →
      (∀ c, ¬ Utf8.encodeChar c <+: behind) →
      strip (opening ++ Utf8.encode text ++ behind) =
        opening ++ strip (Utf8.encode text ++ behind)) ∧
    strip (opening ++ [0xFF] ++ opening ++ closing) = opening ++ [0xFF] ∧
    ¬ IsComment (opening ++ [slash]) ∧ strip (opening ++ [slash]) = opening ++ [slash] := by
  refine ⟨?_, fun _ _ => strip_unclosed, by decide +kernel, ?_, by decide +kernel⟩
  · obtain ⟨pieces, last, rfl, hleft⟩ := exists_leftmost raw
    have hstrip := strip_joined hleft
    have hlen := length_joined pieces last
    -- the cut there is, and then what comes of it
    refine ⟨⟨pieces, last, rfl, hleft⟩, fun other => other.eq _, hstrip, ?_, ?_, ?_⟩
    · intro comment hmem
      obtain ⟨piece, hpiece, rfl⟩ := List.mem_map.mp hmem
      have hcomment := hleft.isComment piece hpiece
      exact ⟨hcomment, hcomment.four_le_length⟩
    · rw [hstrip]; omega
    · rw [hstrip]; exact Nat.sub_eq_of_eq_add' hlen
  · exact fun h => absurd h.four_le_length (by decide)

/-- A comment that breaks off inside a character of two bytes, with a whole one right behind. -/
theorem strip_eq_gaps_broken_off :
    strip (opening ++ Utf8.encode ['é'] ++ 0xC3 :: opening ++ closing) =
      opening ++ Utf8.encode ['é'] ++ [0xC3] := by
  have hbehind : ∀ c, ¬ Utf8.encodeChar c <+: 0xC3 :: opening ++ closing := by
    rintro c ⟨rest, hrest⟩
    have hsome := Utf8.decodeChar?_encodeChar_append c rest
    have hnone : Utf8.decodeChar? (0xC3 :: opening ++ closing) = none := by decide +kernel
    rw [hrest, hnone] at hsome
    exact nomatch hsome
  have hstrip := (strip_eq_gaps []).2.1 ['é'] _ (by decide +kernel) hbehind
  rw [← List.append_assoc] at hstrip
  rw [hstrip]
  decide +kernel

end Codebook.Comment
