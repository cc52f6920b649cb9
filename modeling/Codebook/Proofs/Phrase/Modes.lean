import Mathlib.Algebra.Group.Nat.Defs
import Codebook.Proofs.Phrase.Splitting

/-!
# The two modes of replacing

The legacy mode puts empty texts in front of what the other mode gives, as many as there were texts.
A next call goes over these as well, and changes them where it replaces the empty text. But it goes
over each text by itself, so behind however many calls the result of the other mode is what the list
ends with.
-/

namespace Codebook.Phrase

variable {calls : List (Text × Text)} {old new : Text} {values values' : List Text}

/-- One replacement after another, each given as the old text and the new one. -/
def mapAll (mode : MapMode) (calls : List (Text × Text)) (values : List Text) : List Text :=
  calls.foldl (fun values call => map mode call.1 call.2 values) values

/-! ## One call -/

theorem map_legacy (old new : Text) (values : List Text) :
    map .legacy old new values =
      List.replicate values.length [] ++ map .substitute old new values := rfl

theorem length_map_substitute (old new : Text) (values : List Text) :
    (map .substitute old new values).length = values.length := List.length_map _

theorem length_map_legacy (old new : Text) (values : List Text) :
    (map .legacy old new values).length = 2 * values.length := by
  rw [map_legacy, List.length_append, List.length_replicate, length_map_substitute, Nat.two_mul]

/-- What a list ends with is replaced as if it stood alone. -/
theorem map_substitute_suffix (h : values' <:+ values) :
    map .substitute old new values' <:+ map .legacy old new values := by
  rw [map_legacy]
  exact (h.map _).trans (List.suffix_append _ _)

/-! ## Some calls -/

theorem length_mapAll_substitute (calls : List (Text × Text)) (values : List Text) :
    (mapAll .substitute calls values).length = values.length := by
  induction calls generalizing values with
  | nil => rfl
  | cons call calls ih => exact (ih _).trans (length_map_substitute ..)

/-- Each call doubles the list. -/
theorem length_mapAll_legacy (calls : List (Text × Text)) (values : List Text) :
    (mapAll .legacy calls values).length = 2 ^ calls.length * values.length := by
  induction calls generalizing values with
  | nil => rw [List.length_nil, Nat.pow_zero, Nat.one_mul]; rfl
  | cons call calls ih =>
    refine (ih _).trans ?_
    rw [length_map_legacy, List.length_cons, Nat.pow_succ, Nat.mul_assoc]

/-- **The legacy mode ends with what the other mode gives.** -/
theorem mapAll_substitute_suffix (h : values' <:+ values) :
    mapAll .substitute calls values' <:+ mapAll .legacy calls values := by
  -- the lists are not alike behind the first call any more, but the one still ends with the other
  induction calls generalizing values values' with
  | nil => exact h
  | cons call calls ih => exact ih (map_substitute_suffix h)

/-! ## Joining -/

/-- Each empty text in front brings one separator, unless nothing stands behind them. -/
theorem join_replicate_append (separator : Text) (n : Nat) (h : values ≠ []) :
    join separator (List.replicate n [] ++ values) =
      (List.replicate n separator).flatten ++ join separator values := by
  unfold join
  induction n with
  | zero => rfl
  | succ n ih =>
    have hmore : List.replicate n [] ++ values ≠ [] := fun hnil =>
      h (List.append_eq_nil_iff.1 hnil).2
    rw [List.replicate_succ, List.replicate_succ, List.cons_append,
      List.intercalate_cons_of_ne_nil hmore, ih, List.flatten_cons, List.nil_append,
      List.append_assoc]

theorem join_map_legacy (separator old new : Text) (values : List Text) :
    join separator (map .legacy old new values) =
      (List.replicate values.length separator).flatten ++
        join separator (map .substitute old new values) := by
  cases values with
  | nil => rfl
  | cons value values => exact join_replicate_append separator _ (List.cons_ne_nil _ _)

/--
**How the two modes of replacing are related.**

Behind `k` calls the legacy mode has `2 ^ k` times as many texts, of which the last are the result
of the other mode. Joined behind a single call, it has a separator for each text in front of what
the other mode gives. With nothing between the texts, the modes cannot be told apart.
-/
theorem map_modes (values : List Text) :
    (∀ calls,
      (mapAll .legacy calls values).length = 2 ^ calls.length * values.length ∧
      (mapAll .legacy calls values).drop ((mapAll .legacy calls values).length - values.length) =
        mapAll .substitute calls values) ∧
    (∀ separator old new,
      join separator (map .legacy old new values) =
        (List.replicate values.length separator).flatten ++
          join separator (map .substitute old new values)) ∧
    ∀ old new, join [] (map .legacy old new values) = join [] (map .substitute old new values) := by
  refine ⟨fun calls => ⟨length_mapAll_legacy calls values, ?_⟩,
    fun separator old new => join_map_legacy separator old new values, fun old new => ?_⟩
  -- each call keeps the substituted values at the end
  · have hsuffix : mapAll .substitute calls values <:+ mapAll .legacy calls values :=
      mapAll_substitute_suffix List.suffix_rfl
    have hdrop := List.suffix_iff_eq_drop.1 hsuffix
    rw [length_mapAll_substitute] at hdrop
    exact hdrop.symm
  · rw [join_map_legacy, List.flatten_replicate_nil, List.nil_append]

/-- The second call replaces the empty texts of the first one, but not its own. -/
example : mapAll .legacy [([], ['x']), ([], ['y'])] [['a'], []] =
    [[], [], [], [], ['y'], ['y'], ['a'], ['x']] := by decide

end Codebook.Phrase
