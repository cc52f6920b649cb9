import Codebook.Text.Numeral
import Codebook.Text.Quoted
import Codebook.Text.Split

/-!
# Lines

A text that holds no line feed stays on one line. Most of what is put together for a message does:
digits do, whatever stands in quotes does, and pieces of a text do if the text does.

`linesOf` cuts a text behind each of its line feeds. Where texts of one line are written with a line
feed behind each, these are the lines (`linesOf_ended`).
-/

namespace Codebook.Text

/-- The text holds no line feed. -/
def OneLine (t : Text) : Prop := '\n' ∉ t

instance (t : Text) : Decidable t.OneLine := inferInstanceAs (Decidable ('\n' ∉ t))

section OneLine

variable {s t : Text} {c : Char}

theorem oneLine_nil : OneLine [] := List.not_mem_nil

@[simp] theorem oneLine_cons : OneLine (c :: t) ↔ c ≠ '\n' ∧ t.OneLine := by
  simp only [OneLine, List.mem_cons, not_or, ne_eq, eq_comm]

@[simp] theorem oneLine_append : OneLine (s ++ t) ↔ s.OneLine ∧ t.OneLine := by
  simp only [OneLine, List.mem_append, not_or]

theorem oneLine_between {inner : Text} (hs : s.OneLine) (hinner : inner.OneLine) (ht : t.OneLine) :
    OneLine (s ++ inner ++ t) :=
  oneLine_append.2 ⟨oneLine_append.2 ⟨hs, hinner⟩, ht⟩

/-- What a literal writes is looked at character by character. -/
theorem oneLine_literal (h : t.OneLine) : OneLine (String.ofList t).toList := by
  rw [String.toList_ofList]
  exact h

theorem OneLine.of_subset (h : t.OneLine) (hsub : ∀ c ∈ s, c ∈ t) : s.OneLine :=
  fun hmem => h (hsub _ hmem)

theorem oneLine_flatMap {f : Char → Text} (h : ∀ c ∈ t, (f c).OneLine) : OneLine (t.flatMap f) := by
  intro hmem
  obtain ⟨c, hc, hmem⟩ := List.mem_flatMap.1 hmem
  exact h c hc hmem

theorem oneLine_intercalate {ts : List Text} (hs : s.OneLine) (h : ∀ t ∈ ts, t.OneLine) :
    OneLine (s.intercalate ts) := by
  induction ts with
  | nil => exact oneLine_nil
  | cons t ts ih =>
    have ht := h t List.mem_cons_self
    have hrest := ih fun other hother => h other (List.mem_cons_of_mem _ hother)
    by_cases hempty : ts = []
    · rw [hempty, List.intercalate_singleton]
      exact ht
    · rw [List.intercalate_cons_of_ne_nil hempty]
      simp only [oneLine_append]
      exact ⟨⟨ht, hs⟩, hrest⟩

end OneLine

/-! ## Digits and quotes -/

theorem charOfNat_ne_lineFeed {n : Nat} (h : n ≠ 10) : Char.ofNat n ≠ '\n' := by
  intro heq
  by_cases hvalid : n.isValidChar
  · rw [Char.ofNat, dif_pos hvalid] at heq
    have hnat : (Char.ofNatAux n hvalid).toNat = n := rfl
    exact h (hnat.symm.trans (congrArg Char.toNat heq))
  · rw [Char.ofNat, dif_neg hvalid] at heq
    exact absurd heq (by decide)

theorem digitChar_ne_lineFeed (n : Nat) : n.digitChar ≠ '\n' := by
  by_cases hn : n < 16
  · have hdigits : ∀ n < 16, n.digitChar ≠ '\n' := by decide
    exact hdigits n hn
  · unfold Nat.digitChar
    repeat rw [if_neg (by omega)]
    decide

theorem oneLine_toDigitsCore (base fuel n : Nat) {digits : Text} (h : digits.OneLine) :
    OneLine (Nat.toDigitsCore base fuel n digits) := by
  induction fuel generalizing n digits with
  | zero => exact h
  | succ fuel ih =>
    have hdigit : OneLine ((n % base).digitChar :: digits) :=
      oneLine_cons.2 ⟨digitChar_ne_lineFeed _, h⟩
    rw [Nat.toDigitsCore]
    split
    · exact hdigit
    · exact ih _ hdigit

theorem oneLine_toDigits (base n : Nat) : OneLine (Nat.toDigits base n) :=
  oneLine_toDigitsCore base (n + 1) n oneLine_nil

theorem oneLine_ofNat (n : Nat) : OneLine (ofNat n) := oneLine_toDigits 10 n

theorem oneLine_ofInt (n : Int) : OneLine (ofInt n) := by
  cases n with
  | ofNat n => exact oneLine_ofNat n
  | negSucc n => exact oneLine_cons.2 ⟨by decide, oneLine_ofNat _⟩

theorem oneLine_quotedChar (c : Char) : OneLine (quotedChar c) := by
  unfold quotedChar
  split
  -- the line feed is one of those that are written with a letter
  case h_7 hline _ _ =>
    split
    · simp only [numbered, oneLine_append]
      exact ⟨⟨by decide, oneLine_toDigits 16 _⟩, by decide⟩
    · exact oneLine_cons.2 ⟨hline, oneLine_nil⟩
  all_goals decide

/-- **Quotes keep a text on one line.** -/
theorem oneLine_quoted (t : Text) : OneLine t.quoted := by
  unfold quoted
  rw [oneLine_append, oneLine_cons]
  exact ⟨⟨by decide, oneLine_flatMap fun c _ => oneLine_quotedChar c⟩, by decide⟩

/-! ## Pieces -/

theorem oneLine_of_mem_splitOn {sep t piece : Text} (h : t.OneLine) (hmem : piece ∈ splitOn sep t) :
    piece.OneLine := by
  unfold splitOn at hmem
  -- at nothing: single characters, with an empty piece on either side
  split at hmem
  · simp only [List.mem_append, List.mem_cons, List.mem_map, List.not_mem_nil, or_false] at hmem
    rcases hmem with (rfl | ⟨c, hc, rfl⟩) | rfl
    · exact oneLine_nil
    · exact h.of_subset fun other hother => List.mem_singleton.1 hother ▸ hc
    · exact oneLine_nil
  · next hsep =>
    fun_induction pieces sep hsep t with
    | case1 t _ => exact List.mem_singleton.1 hmem ▸ h
    | case2 t front behind hcut _ ih =>
      rw [eq_append_of_cut? hcut, oneLine_append, oneLine_append] at h
      rcases List.mem_cons.1 hmem with rfl | hmem
      · exact h.1.1
      · exact ih h.2 hmem

/-! ## Cutting into lines -/

/-- The lines of a text, without the line feeds behind them. What stands behind the last line feed
is a line if there is anything. -/
def linesOf : Text → List Text
  | [] => []
  | c :: rest =>
    if c = '\n' then [] :: linesOf rest
    else match linesOf rest with
      | [] => [[c]]
      | line :: lines => (c :: line) :: lines

/-- A text with a line feed behind it. -/
def ended (t : Text) : Text := t ++ ['\n']

/-- What stands in front of the first line feed. -/
def firstLine (t : Text) : Text := t.takeWhile (· ≠ '\n')

theorem firstLine_cons (c : Char) (t : Text) :
    firstLine (c :: t) = if c = '\n' then [] else c :: firstLine t := by
  unfold firstLine
  by_cases hc : c = '\n'
  · rw [if_pos hc, List.takeWhile_cons_of_neg (by simp [hc])]
  · rw [if_neg hc, List.takeWhile_cons_of_pos (by simp [hc])]

theorem firstLine_append {s : Text} (h : s.OneLine) (t : Text) :
    firstLine (s ++ t) = s ++ firstLine t :=
  List.takeWhile_append_of_pos fun _ hc => decide_eq_true fun heq => h (heq ▸ hc)

theorem exists_eq_firstLine_append (t : Text) : ∃ behind, t = firstLine t ++ behind :=
  ⟨t.dropWhile (· ≠ '\n'), List.takeWhile_append_dropWhile.symm⟩

/-- The lines of a text that ends in a line feed start with its first one. They come in front of the
lines of what follows. -/
theorem linesOf_ended_append (t rest : Text) :
    ∃ more, linesOf (ended t ++ rest) = firstLine t :: (more ++ linesOf rest) := by
  induction t with
  | nil => exact ⟨[], rfl⟩
  | cons c t ih =>
    obtain ⟨more, hmore⟩ := ih
    show ∃ more, linesOf (c :: (ended t ++ rest)) = firstLine (c :: t) :: (more ++ linesOf rest)
    rw [linesOf, hmore, firstLine_cons]
    by_cases hc : c = '\n'
    · rw [if_pos hc, if_pos hc]
      exact ⟨firstLine t :: more, rfl⟩
    · rw [if_neg hc, if_neg hc]
      exact ⟨more, rfl⟩

/-- The first line of a text comes first, and that of the next text somewhere behind it. -/
theorem linesOf_ended_pair (t next rest : Text) :
    ∃ more, linesOf (ended t ++ (ended next ++ rest)) = firstLine t :: more ∧
      firstLine next ∈ more := by
  obtain ⟨behind, ht⟩ := linesOf_ended_append t (ended next ++ rest)
  obtain ⟨behind', hnext⟩ := linesOf_ended_append next rest
  rw [hnext] at ht
  exact ⟨_, ht, List.mem_append_right _ List.mem_cons_self⟩

theorem linesOf_ended_append_of_oneLine {line : Text} (h : line.OneLine) (rest : Text) :
    linesOf (ended line ++ rest) = line :: linesOf rest := by
  induction line with
  | nil => rfl
  | cons c line ih =>
    rw [oneLine_cons] at h
    show linesOf (c :: (ended line ++ rest)) = _
    rw [linesOf, if_neg h.1, ih h.2]

/-- **Texts of one line that are written with a line feed behind each are the lines.** -/
theorem linesOf_ended {lines : List Text} (h : ∀ line ∈ lines, line.OneLine) :
    linesOf (lines.flatMap ended) = lines := by
  induction lines with
  | nil => rfl
  | cons line lines ih =>
    rw [List.flatMap_cons, linesOf_ended_append_of_oneLine (h line List.mem_cons_self),
      ih fun other hother => h other (List.mem_cons_of_mem _ hother)]

end Codebook.Text
