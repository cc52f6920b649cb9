import Codebook.Network.Url
import Codebook.Proofs.Text.Lines

/-!
# Addresses on one line

An address is shown on one line, whatever the source was that it was read from, because each of its
parts was written for it. Numbers are digits. The name of a host has passed the check for what may
not stand in one, and its parts outside ASCII are digits as well. Everywhere else a line feed would
stand as a byte behind a percent sign.
-/

namespace Codebook

open Text

/-! ## Names outside ASCII -/

namespace Punycode

theorem digitChar_ne_lineFeed (d : Nat) : digitChar d ≠ '\n' := by
  have hlow : 'a'.toNat = 97 := rfl
  have hzero : '0'.toNat = 48 := rfl
  refine charOfNat_ne_lineFeed ?_
  split <;> omega

theorem oneLine_digits (bias place n : Nat) : OneLine (digits bias place n) := by
  fun_induction digits bias place n with
  | case1 => exact oneLine_cons.2 ⟨digitChar_ne_lineFeed _, oneLine_nil⟩
  | case2 _ _ _ _ ih => exact oneLine_cons.2 ⟨digitChar_ne_lineFeed _, ih⟩

theorem oneLine_pass (ascii turn : Nat) {state : State} (h : OneLine state.digits) (c : Char) :
    OneLine (state.pass ascii turn c).digits := by
  unfold State.pass
  split
  · exact h
  · split
    · exact oneLine_append.2 ⟨h, oneLine_digits _ _ _⟩
    · exact h

theorem oneLine_passes (ascii turn : Nat) (name : Text) {state : State}
    (h : OneLine state.digits) : OneLine (name.foldl (State.pass ascii turn) state).digits := by
  induction name generalizing state with
  | nil => exact h
  | cons c name ih => exact ih (oneLine_pass ascii turn h c)

theorem oneLine_run (name : Text) (ascii next : Nat) (turns : List Nat) {state : State}
    (h : OneLine state.digits) : OneLine (State.run name ascii next turns state).digits := by
  induction turns generalizing next state with
  | nil => exact h
  | cons turn turns ih => exact ih _ (oneLine_passes ascii turn name h)

theorem oneLine_encode {name : Text} (h : name.OneLine) : OneLine (encode name) := by
  have hascii : OneLine (name.filter (·.toNat < 128)) :=
    h.of_subset fun _ hc => (List.mem_filter.1 hc).1
  have hhyphen : OneLine (if (name.filter (·.toNat < 128)).isEmpty then [] else ['-']) := by
    split
    · exact oneLine_nil
    · decide
  exact oneLine_append.2 ⟨oneLine_append.2 ⟨hascii, hhyphen⟩, oneLine_run _ _ _ _ oneLine_nil⟩

end Punycode

/-! ## Hosts -/

namespace HostName

theorem oneLine_showBytes (bytes : List Nat) : OneLine (showBytes bytes) := by
  refine oneLine_intercalate (by decide) fun piece hpiece => ?_
  obtain ⟨byte, -, rfl⟩ := List.mem_map.1 hpiece
  exact oneLine_toDigits 10 byte

theorem oneLine_showSide (groups : List Nat) : OneLine (showSide groups) := by
  refine oneLine_intercalate (by decide) fun piece hpiece => ?_
  obtain ⟨group, -, rfl⟩ := List.mem_map.1 hpiece
  exact oneLine_toDigits 16 group

theorem oneLine_showGroups (groups : List Nat) : OneLine (showGroups groups) := by
  unfold showGroups
  dsimp only
  split
  · exact oneLine_showSide groups
  · have hgap : OneLine [':', ':'] := by decide
    exact oneLine_append.2 ⟨oneLine_append.2 ⟨oneLine_showSide _, hgap⟩, oneLine_showSide _⟩

theorem oneLine_of_readNumber? {t number : Text} (h : readNumber? t = some number) :
    number.OneLine := by
  obtain ⟨groups, -, rfl⟩ := Option.map_eq_some_iff.1 h
  have hend : OneLine [']'] := by decide
  exact oneLine_append.2 ⟨oneLine_cons.2 ⟨by decide, oneLine_showGroups groups⟩, hend⟩

theorem oneLine_label {t : Text} (h : t.OneLine) : OneLine (label t) := by
  unfold label
  split
  · exact h
  · exact oneLine_append.2 ⟨oneLine_literal (by decide), Punycode.oneLine_encode h⟩

/-- A line feed may not stand in the name of a host. -/
theorem oneLine_of_all_allowed {t : Text} (h : t.any isForbidden = false) : t.OneLine := by
  intro hmem
  have hforbidden : t.any isForbidden = true := List.any_eq_true.2 ⟨'\n', hmem, by decide⟩
  exact nomatch hforbidden.symm.trans h

theorem oneLine_of_read? {t host : Text} (h : read? t = some host) : host.OneLine := by
  unfold read? at h
  obtain ⟨decoded, -, h⟩ := Option.bind_eq_some_iff.1 h
  dsimp only at h
  split at h
  · exact nomatch h
  next hallowed =>
  -- the check comes before the name is cut into its parts
  rw [Bool.or_eq_true, not_or, Bool.not_eq_true, Bool.not_eq_true] at hallowed
  have hfolded := oneLine_of_all_allowed hallowed.2
  change (if _ then _ else _) = _ at h
  split at h
  · obtain ⟨bytes, -, rfl⟩ := Option.map_eq_some_iff.1 h
    exact oneLine_showBytes bytes
  · obtain rfl := Option.some.inj h
    refine oneLine_intercalate (by decide) fun piece hpiece => ?_
    obtain ⟨part, hpart, rfl⟩ := List.mem_map.1 hpiece
    exact oneLine_label (oneLine_of_mem_splitOn hfolded hpart)

end HostName

/-! ## The whole address -/

namespace Url

theorem upperDigit_ne_lineFeed {n : Nat} (h : n < 16) : n.digitChar.toUpper ≠ '\n' := by
  have hdigits : ∀ n < 16, n.digitChar.toUpper ≠ '\n' := by decide
  exact hdigits n h

theorem oneLine_percentByte (b : UInt8) : OneLine (percentByte b) := by
  have hbyte : b.toNat < 256 := b.toNat_lt
  have hhigh := upperDigit_ne_lineFeed (n := b.toNat / 16) (by omega)
  have hlow := upperDigit_ne_lineFeed (n := b.toNat % 16) (by omega)
  exact oneLine_cons.2 ⟨by decide, oneLine_cons.2 ⟨hhigh, oneLine_cons.2 ⟨hlow, oneLine_nil⟩⟩⟩

theorem oneLine_percentEncode (reserved : List Char) (t : Text) :
    OneLine (percentEncode reserved t) := by
  refine oneLine_flatMap fun c _ => ?_
  split
  · intro hmem
    obtain ⟨b, -, hmem⟩ := List.mem_flatMap.1 hmem
    exact oneLine_percentByte b hmem
  · next hshown =>
    -- what is written as it is comes behind the blank, and so behind the line feed
    refine oneLine_cons.2 ⟨?_, oneLine_nil⟩
    rintro rfl
    exact hshown (.inl (by decide))

/-- A path that was resolved has no new segments but an empty one. -/
theorem mem_of_mem_resolve {passed segments : List Text} {t : Text}
    (h : t ∈ resolve passed segments) : t = [] ∨ t ∈ passed ∨ t ∈ segments := by
  fun_induction resolve passed segments with
  | case1 passed => exact .inr (.inl (List.mem_reverse.1 h))
  | case2 passed last _ =>
    rcases List.mem_append.1 h with h | h
    · exact .inr (.inl (List.mem_of_mem_tail (List.mem_reverse.1 h)))
    · exact .inl (List.mem_singleton.1 h)
  | case3 passed last _ _ =>
    rcases List.mem_append.1 h with h | h
    · exact .inr (.inl (List.mem_reverse.1 h))
    · exact .inl (List.mem_singleton.1 h)
  | case4 passed last _ _ =>
    rcases List.mem_append.1 h with h | h
    · exact .inr (.inl (List.mem_reverse.1 h))
    · exact .inr (.inr h)
  | case5 passed segment next rest _ ih =>
    exact (ih h).imp_right (Or.imp List.mem_of_mem_tail (List.mem_cons_of_mem _))
  | case6 passed segment next rest _ _ ih =>
    exact (ih h).imp_right (Or.imp_right (List.mem_cons_of_mem _))
  | case7 passed segment next rest _ _ ih =>
    -- the segment has gone from the ones to come to the ones that were passed
    rcases ih h with h | h | h
    · exact .inl h
    · rcases List.mem_cons.1 h with rfl | h
      · exact .inr (.inr List.mem_cons_self)
      · exact .inr (.inl h)
    · exact .inr (.inr (List.mem_cons_of_mem _ h))

theorem oneLine_readPath (t : Text) : ∀ segment ∈ readPath t, segment.OneLine := by
  intro segment hsegment
  rcases mem_of_mem_resolve hsegment with rfl | hnone | hsegment
  · exact oneLine_nil
  · exact absurd hnone List.not_mem_nil
  · obtain ⟨piece, -, rfl⟩ := List.mem_map.1 hsegment
    exact oneLine_percentEncode pathReserved piece

theorem oneLine_of_readHost? {scheme : Scheme} {t host : Text} {service? : Option Nat}
    (h : readHost? scheme t = some (host, service?)) : host.OneLine := by
  unfold readHost? at h
  split at h
  · obtain ⟨⟨number, behind⟩, -, h⟩ := Option.bind_eq_some_iff.1 h
    obtain ⟨shown, hshown, h⟩ := Option.bind_eq_some_iff.1 h
    obtain ⟨service, -, h⟩ := Option.bind_eq_some_iff.1 h
    obtain ⟨rfl, -⟩ := Prod.mk.inj (Option.some.inj h)
    exact HostName.oneLine_of_readNumber? hshown
  · obtain ⟨shown, hshown, h⟩ := Option.bind_eq_some_iff.1 h
    obtain ⟨service, -, h⟩ := Option.bind_eq_some_iff.1 h
    obtain ⟨rfl, -⟩ := Prod.mk.inj (Option.some.inj h)
    exact HostName.oneLine_of_read? hshown

theorem oneLine_optional {sign : Char} (hsign : sign ≠ '\n') {part? : Option Text}
    (h : ∀ part ∈ part?, part.OneLine) : OneLine (optional sign part?) := by
  cases part? with
  | none => exact oneLine_nil
  | some part => exact oneLine_cons.2 ⟨hsign, h part rfl⟩

/-- What the parts of an address are like if each was written for it. -/
structure Written (url : Url) : Prop where
  host : url.host.OneLine
  path : ∀ segment ∈ url.path, segment.OneLine
  query : ∀ query ∈ url.query?, query.OneLine
  fragment : ∀ fragment ∈ url.fragment?, fragment.OneLine

theorem written_of_parse {scheme : Scheme} {source : Text} {url : Url}
    (h : parse scheme source = some url) : url.Written := by
  unfold parse at h
  obtain ⟨⟨host, service?⟩, hhost, h⟩ := Option.bind_eq_some_iff.1 h
  obtain rfl := Option.some.inj h
  -- each part is written with signs that stand on one line
  refine ⟨oneLine_of_readHost? hhost, oneLine_readPath _, fun query hquery => ?_,
    fun fragment hfragment => ?_⟩
  · dsimp only at hquery
    split at hquery
    · exact nomatch hquery
    · exact Option.some.inj hquery ▸ oneLine_percentEncode _ _
  · dsimp only at hfragment
    split at hfragment
    · exact nomatch hfragment
    · exact Option.some.inj hfragment ▸ oneLine_percentEncode _ _

theorem Written.oneLine_toText {url : Url} (h : url.Written) : OneLine url.toText := by
  have hscheme : OneLine url.scheme.opening := by cases url.scheme <;> decide
  have hservice : OneLine (optional ':' (url.service?.map Text.ofNat)) := by
    refine oneLine_optional (by decide) fun service hservice => ?_
    obtain ⟨n, -, rfl⟩ := Option.map_eq_some_iff.1 hservice
    exact oneLine_ofNat n
  have hpath : OneLine (url.path.flatMap fun segment => '/' :: segment) := by
    intro hmem
    obtain ⟨segment, hsegment, hmem⟩ := List.mem_flatMap.1 hmem
    exact oneLine_cons.2 ⟨by decide, h.path segment hsegment⟩ hmem
  unfold toText
  simp only [oneLine_append]
  exact ⟨⟨⟨⟨⟨hscheme, h.host⟩, hservice⟩, hpath⟩, oneLine_optional (by decide) h.query⟩,
    oneLine_optional (by decide) h.fragment⟩

/-- **An address that was read is shown on one line.** -/
theorem oneLine_of_parse {scheme : Scheme} {source : Text} {url : Url}
    (h : parse scheme source = some url) : OneLine url.toText :=
  (written_of_parse h).oneLine_toText

end Url

end Codebook
