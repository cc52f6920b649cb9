import Codebook.Text

/-!
# Cutting a text at a separator

Everything that looks for a separator goes through `cut?`, which finds its leftmost occurrence.
`splitOn` cuts again behind each occurrence, so occurrences never overlap, and `replaceAll` puts
another text where the separators stood.
-/

namespace Codebook.Text

/-- The text before and the text behind the leftmost occurrence of the separator. -/
def cut? (sep : Text) : Text → Option (Text × Text)
  | [] => if sep.isEmpty then some ([], []) else none
  | c :: rest =>
    if sep.isPrefixOf (c :: rest) then some ([], (c :: rest).drop sep.length)
    else (cut? sep rest).map fun (front, behind) => (c :: front, behind)

/-- The separator stood between the two parts. -/
theorem eq_append_of_cut? {sep t front behind : Text} (h : cut? sep t = some (front, behind)) :
    t = front ++ sep ++ behind := by
  induction t generalizing front with
  | nil =>
    simp only [cut?, List.isEmpty_iff] at h
    split at h <;> simp_all
  | cons c rest ih =>
    -- the separator starts here, or the cut is further on
    simp only [cut?] at h
    split at h
    · next hpre =>
      obtain ⟨u, hu⟩ := List.isPrefixOf_iff_prefix.1 hpre
      simp only [Option.some.injEq, Prod.mk.injEq] at h
      obtain ⟨rfl, rfl⟩ := h
      simp [← hu]
    · obtain ⟨⟨front', behind'⟩, hrest, hpair⟩ := Option.map_eq_some_iff.1 h
      simp only [Prod.mk.injEq] at hpair
      obtain ⟨rfl, rfl⟩ := hpair
      simpa using ih hrest

/-- Behind an occurrence of a separator there is less left. -/
theorem length_lt_of_cut? {sep t front behind : Text} (hsep : sep ≠ [])
    (h : cut? sep t = some (front, behind)) : behind.length < t.length := by
  have hpos : 0 < sep.length := List.length_pos_iff.2 hsep
  rw [eq_append_of_cut? h]
  simp only [List.length_append]
  omega

/-- The texts between the occurrences of a separator that is not empty. -/
def pieces (sep : Text) (hsep : sep ≠ []) (t : Text) : List Text :=
  match h : cut? sep t with
  | none => [t]
  | some (front, behind) =>
    have : behind.length < t.length := length_lt_of_cut? hsep h
    front :: pieces sep hsep behind
termination_by t.length

/-- The texts between the occurrences of a separator. The empty separator stands before, between
and behind all characters. -/
def splitOn (sep t : Text) : List Text :=
  if hsep : sep = [] then [] :: t.map (fun c => [c]) ++ [[]] else pieces sep hsep t

/-! ## Putting the pieces together -/

/-- There is at least one piece. -/
theorem pieces_ne_nil (sep : Text) (hsep : sep ≠ []) (t : Text) : pieces sep hsep t ≠ [] := by
  rw [pieces]
  split <;> simp

/-- The pieces, with the separator between them, are the text. -/
theorem intercalate_pieces (sep : Text) (hsep : sep ≠ []) (t : Text) :
    sep.intercalate (pieces sep hsep t) = t := by
  fun_induction pieces sep hsep t with
  | case1 t _ => simp
  | case2 t front behind hcut _ ih =>
    rw [List.intercalate_cons_of_ne_nil (pieces_ne_nil sep hsep behind), ih]
    exact (eq_append_of_cut? hcut).symm

/-- The text with every occurrence of `old` replaced, from the left. -/
def replaceAll (old new t : Text) : Text := new.intercalate (splitOn old t)

end Codebook.Text
