import Codebook.Unicode.Case
import Codebook.Unicode.WhiteSpace

/-!
# What the table of upper case moves

The table takes letters to letters. No white space is in it and none comes out of it, where it
leads into ASCII it leads to a capital, and from where it leads to it leads nowhere else. These are
facts of the runs, of which there are few, and so of all characters, of which there are many.
-/

namespace Codebook.Unicode

theorem isWhiteSpace_iff {c : Char} :
    isWhiteSpace c = true ↔ ∃ range ∈ whiteSpaceRanges, range.1 ≤ c.toNat ∧ c.toNat ≤ range.2 := by
  simp only [isWhiteSpace, inRanges, List.any_eq_true, Bool.and_eq_true, decide_eq_true_eq]

/-! ## Runs from letters to letters -/

/-- There is no white space from one number to another. -/
def BlankFree (low high : Int) : Prop :=
  ∀ range ∈ whiteSpaceRanges, high < (range.1 : Int) ∨ (range.2 : Int) < low

instance (low high : Int) : Decidable (BlankFree low high) :=
  inferInstanceAs (Decidable (∀ range ∈ whiteSpaceRanges, _))

theorem BlankFree.isWhiteSpace_eq_false {low high : Int} (h : BlankFree low high) {c : Char}
    (hlow : low ≤ c.toNat) (hhigh : c.toNat ≤ high) : isWhiteSpace c = false := by
  rw [← Bool.not_eq_true, isWhiteSpace_iff]
  rintro ⟨range, hrange, hle, hge⟩
  rcases h range hrange with hlt | hlt <;> omega

/-- A run from letters to letters. -/
structure Run.MovesLetters (run : Run) : Prop where
  blankFree : BlankFree run.first run.last
  /-- What the characters become are characters. -/
  valid : run.last + run.shift < 0xD800 ∨
    0xDFFF < run.first + run.shift ∧ run.last + run.shift < 0x110000
  letters : 'A'.toNat ≤ run.first + run.shift ∧ run.last + run.shift ≤ 'Z'.toNat ∨
    128 ≤ run.first + run.shift ∧ BlankFree (run.first + run.shift) (run.last + run.shift)

instance (run : Run) : Decidable run.MovesLetters :=
  decidable_of_iff _ ⟨fun h => ⟨h.1, h.2.1, h.2.2⟩, fun h => And.intro h.1 (And.intro h.2 h.3)⟩

theorem movesLetters_upperRuns : ∀ run ∈ upperRuns, run.MovesLetters := by decide +kernel

/-! ## Runs beside one another -/

/-- Whether two runs have no number in common. -/
def Run.apart (a b : Run) : Bool :=
  Nat.blt a.last b.first || Nat.blt b.last a.first ||
    (a.first == a.last || a.step == b.step) && a.first % b.step != b.first % b.step

/-- The run of what a run leads to. -/
def Run.moved (run : Run) : Run :=
  { run with first := (run.first + run.shift).toNat, last := (run.last + run.shift).toNat }

theorem Run.covers_iff {run : Run} {n : Nat} :
    run.covers n = true ↔ run.first ≤ n ∧ n ≤ run.last ∧ (n - run.first) % run.step = 0 := by
  simp only [covers, Bool.and_eq_true, decide_eq_true_eq, beq_iff_eq, and_assoc]

theorem Run.mod_eq_of_covers {run : Run} {n : Nat} (h : run.covers n = true) :
    n % run.step = run.first % run.step := by
  obtain ⟨hfirst, -, hstep⟩ := covers_iff.1 h
  obtain ⟨turns, hturns⟩ := Nat.dvd_of_mod_eq_zero hstep
  obtain rfl : n = run.first + run.step * turns := by omega
  exact Nat.add_mul_mod_self_left ..

theorem Run.covers_of_apart {a b : Run} {n : Nat} (h : a.apart b = true) (ha : a.covers n = true) :
    b.covers n = false := by
  refine Bool.eq_false_iff.2 fun hb => ?_
  obtain ⟨hafirst, halast, -⟩ := covers_iff.1 ha
  obtain ⟨hbfirst, hblast, -⟩ := covers_iff.1 hb
  have hmod := mod_eq_of_covers hb
  simp only [apart, Bool.or_eq_true, Bool.and_eq_true, Nat.blt_eq, beq_iff_eq, bne_iff_ne] at h
  rcases h with (hlt | hlt) | ⟨hsingle | hsame, hne⟩
  · omega
  · omega
  · obtain rfl : n = a.first := by omega
    exact hne hmod
  · exact hne (by rw [← hmod, ← hsame, mod_eq_of_covers ha])

theorem Run.covers_moved {run : Run} {n m : Nat} (h : run.covers n = true)
    (hfirst : 0 ≤ run.first + run.shift) (hm : (m : Int) = n + run.shift) :
    run.moved.covers m = true := by
  obtain ⟨hle, hge, hstep⟩ := covers_iff.1 h
  have hsame : m - (run.first + run.shift).toNat = n - run.first := by omega
  refine covers_iff.2 ⟨?_, ?_, hsame ▸ hstep⟩
  · show (run.first + run.shift).toNat ≤ m
    omega
  · show m ≤ (run.last + run.shift).toNat
    omega

/-- No run goes on where another one leads to. -/
theorem apart_upperRuns : ∀ run ∈ upperRuns, upperRuns.all run.moved.apart = true := by
  decide +kernel

/-! ## Characters -/

/-- A character stays, or a run that covers it moves it. -/
theorem mapByRuns_cases (runs : List Run) (c : Char) :
    mapByRuns runs c = c ∨ ∃ run ∈ runs, run.covers c.toNat = true ∧
      mapByRuns runs c = Char.ofNat (c.toNat + run.shift).toNat := by
  unfold mapByRuns
  split
  · next run hfind =>
    have hcovers := List.find?_some hfind
    exact Or.inr ⟨run, List.mem_of_find?_eq_some hfind, hcovers, rfl⟩
  · exact Or.inl rfl

theorem mapByRuns_eq_self {runs : List Run} {c : Char}
    (h : ∀ run ∈ runs, run.covers c.toNat = false) : mapByRuns runs c = c := by
  have hnone : runs.find? (·.covers c.toNat) = none :=
    List.find?_eq_none.2 fun run hrun => by simp [h run hrun]
  unfold mapByRuns
  rw [hnone]

/-- A character has no upper case, or it is moved by the distance of a run. -/
theorem simpleUpper_eq_or_moved (c : Char) :
    simpleUpper c = c ∨ ∃ run ∈ upperRuns, run.covers c.toNat = true ∧
      ((simpleUpper c).toNat : Int) = c.toNat + run.shift := by
  rcases mapByRuns_cases upperRuns c with hsame | ⟨run, hrun, hcovers, hmoved⟩
  · exact Or.inl hsame
  · obtain ⟨hfirst, hlast, -⟩ := Run.covers_iff.1 hcovers
    obtain ⟨-, hvalid, hletters⟩ := movesLetters_upperRuns run hrun
    have hchar : (c.toNat + run.shift).toNat.isValidChar := by unfold Nat.isValidChar; omega
    have hnat : (simpleUpper c).toNat = (c.toNat + run.shift).toNat := by
      rw [simpleUpper, hmoved, Char.ofNat, dif_pos hchar]
      rfl
    exact Or.inr ⟨run, hrun, hcovers, by omega⟩

/-- **A character that has an upper case is no white space, and neither is its upper case**, which
is a capital if it is ASCII. -/
theorem simpleUpper_cases (c : Char) :
    simpleUpper c = c ∨ isWhiteSpace c = false ∧
      ('A'.toNat ≤ (simpleUpper c).toNat ∧ (simpleUpper c).toNat ≤ 'Z'.toNat ∨
        128 ≤ (simpleUpper c).toNat ∧ isWhiteSpace (simpleUpper c) = false) := by
  rcases simpleUpper_eq_or_moved c with hsame | ⟨run, hrun, hcovers, hmoved⟩
  · exact Or.inl hsame
  · obtain ⟨hfirst, hlast, -⟩ := Run.covers_iff.1 hcovers
    obtain ⟨hblank, -, hletters⟩ := movesLetters_upperRuns run hrun
    refine Or.inr ⟨hblank.isWhiteSpace_eq_false (by omega) (by omega), ?_⟩
    rcases hletters with hcapital | ⟨hlow, hfree⟩
    · exact Or.inl (by omega)
    · exact Or.inr ⟨by omega, hfree.isWhiteSpace_eq_false (by omega) (by omega)⟩

/-- What a run leads to is covered by the run of all it leads to. -/
theorem covers_moved_simpleUpper {c : Char} {run : Run} (hrun : run ∈ upperRuns)
    (hcovers : run.covers c.toNat = true)
    (hmoved : ((simpleUpper c).toNat : Int) = c.toNat + run.shift) :
    run.moved.covers (simpleUpper c).toNat = true := by
  obtain ⟨-, -, hletters⟩ := movesLetters_upperRuns run hrun
  exact Run.covers_moved hcovers (by omega) hmoved

/-- **An upper case has no other upper case.** -/
theorem simpleUpper_simpleUpper (c : Char) : simpleUpper (simpleUpper c) = simpleUpper c := by
  rcases simpleUpper_eq_or_moved c with hsame | ⟨run, hrun, hcovers, hmoved⟩
  · rw [hsame, hsame]
  · have hapart := List.all_eq_true.1 (apart_upperRuns run hrun)
    exact mapByRuns_eq_self fun other hother =>
      Run.covers_of_apart (hapart other hother) (covers_moved_simpleUpper hrun hcovers hmoved)

/-! ## Letters that are written as two -/

/-- The letters that are written as two, large, with the first of them large, and small. -/
def digraphs : List Char := ['Ǆ', 'ǅ', 'ǆ', 'Ǉ', 'ǈ', 'ǉ', 'Ǌ', 'ǋ', 'ǌ', 'Ǳ', 'ǲ', 'ǳ']

/-- Only a letter that is written as two has such an upper case. -/
theorem mem_digraphs_of_simpleUpper {c : Char} (h : simpleUpper c ∈ digraphs) : c ∈ digraphs := by
  have hruns : ∀ run ∈ upperRuns, (digraphs.any fun d => run.moved.covers d.toNat) = true →
      run.first = run.last ∧ Char.ofNat run.first ∈ digraphs := by decide +kernel
  rcases simpleUpper_eq_or_moved c with hsame | ⟨run, hrun, hcovers, hmoved⟩
  · rwa [hsame] at h
  · obtain ⟨hsingle, hfirst⟩ := hruns run hrun
      (List.any_eq_true.2 ⟨_, h, covers_moved_simpleUpper hrun hcovers hmoved⟩)
    obtain ⟨hle, hge, -⟩ := Run.covers_iff.1 hcovers
    have hc : c.toNat = run.first := by omega
    rwa [← hc, Char.ofNat_toNat] at hfirst

end Codebook.Unicode
