import Codebook.Utf8

/-!
# Bytes below 128

A byte below 128 inside UTF-8 is a character of its own: it is never a part of a longer one. So a
mark such as `*/` stands in the bytes of a text only where it stands in the text, and whoever looks
for such bytes may go from character to character. And where such a byte is taken out of the middle,
what stands on either side of it is UTF-8 again. The same goes for a text that starts with such a
character (`exists_of_append_encode`).
-/

namespace Codebook.Utf8

theorem encode_cons (c : Char) (t : Text) : encode (c :: t) = encodeChar c ++ encode t :=
  List.flatMap_cons

theorem encode_append (t u : Text) : encode (t ++ u) = encode t ++ encode u := List.flatMap_append

/-- A text is known from its bytes. -/
theorem eq_of_encode_eq {t u : Text} (h : encode t = encode u) : t = u := by
  have hdecode := decode?_encode t
  rw [h, decode?_encode] at hdecode
  exact (Option.some.inj hdecode).symm

/-- Texts are encoded one by one, and what stands between them as well. -/
theorem encode_intercalate (separator : Text) (parts : List Text) :
    encode (separator.intercalate parts) = (encode separator).intercalate (parts.map encode) := by
  induction parts with
  | nil => rfl
  | cons part parts ih =>
    cases parts with
    | nil =>
      rw [List.intercalate_singleton, List.map_singleton, List.intercalate_singleton]
    | cons next parts =>
      rw [List.intercalate_cons_cons, encode_append, encode_append, ih]
      simp only [List.map_cons, List.intercalate_cons_cons]

/-- A character below 128 is one byte, its own number. -/
theorem encodeChar_of_lt {c : Char} (hc : c.toNat < 128) :
    encodeChar c = [UInt8.ofNat c.toNat] := by
  have hv : c.val.toNat = c.toNat := rfl
  simp only [encodeChar, String.utf8EncodeChar, hv]
  rw [if_pos (by omega)]

/-- Every byte of a longer character is 128 or more. -/
theorem le_of_mem_encodeChar {c : Char} {b : UInt8} (hc : 128 ≤ c.toNat)
    (hb : b ∈ encodeChar c) : 128 ≤ b.toNat := by
  have hv : c.val.toNat = c.toNat := rfl
  simp only [encodeChar, String.utf8EncodeChar, hv] at hb
  rw [if_neg (by omega)] at hb
  -- two, three or four bytes, each with its top bit set
  split at hb
  · simp only [List.mem_cons, List.not_mem_nil, or_false] at hb
    rcases hb with rfl | rfl <;> rw [UInt8.toNat_ofNat'] <;> omega
  · split at hb
    · simp only [List.mem_cons, List.not_mem_nil, or_false] at hb
      rcases hb with rfl | rfl | rfl <;> rw [UInt8.toNat_ofNat'] <;> omega
    · simp only [List.mem_cons, List.not_mem_nil, or_false] at hb
      rcases hb with rfl | rfl | rfl | rfl <;> rw [UInt8.toNat_ofNat'] <;> omega

/-- **A byte below 128 is a whole character.** -/
theorem encodeChar_eq_singleton {c : Char} {b : UInt8} (hb : b ∈ encodeChar c)
    (hlt : b.toNat < 128) : encodeChar c = [b] ∧ c.toNat = b.toNat := by
  rcases Nat.lt_or_ge c.toNat 128 with hc | hc
  · rw [encodeChar_of_lt hc] at hb ⊢
    obtain rfl := List.mem_singleton.mp hb
    exact ⟨rfl, by rw [UInt8.toNat_ofNat']; omega⟩
  · exact absurd (le_of_mem_encodeChar hc hb) (by omega)

/-- Bytes that start with one below 128 do not start inside a longer character. -/
theorem infix_encodeChar_append {c : Char} {x : UInt8} {xs bs : Bytes} (hx : x.toNat < 128)
    (h : x :: xs <:+: encodeChar c ++ bs) :
    x :: xs <+: encodeChar c ++ bs ∨ x :: xs <:+: bs := by
  -- a byte below 128 is a character by itself, or no part of one
  by_cases hmem : x ∈ encodeChar c
  · rw [(encodeChar_eq_singleton hmem hx).1] at h ⊢
    exact List.infix_cons_iff.mp h
  · refine Or.inr ?_
    revert hmem h
    induction encodeChar c with
    | nil => exact fun h _ => h
    | cons b more ih =>
        intro h hmem
        rcases List.infix_cons_iff.mp h with h | h
        · exact absurd (List.cons_prefix_cons.mp h).1 (List.ne_of_not_mem_cons hmem)
        · exact ih h (List.not_mem_of_not_mem_cons hmem)

/-! ## Cutting the bytes of a text -/

/-- Behind the bytes of some of its characters stand those of the others. -/
theorem exists_of_encode_append {front text : Text} {bs : Bytes}
    (h : encode front ++ bs = encode text) :
    ∃ behind, text = front ++ behind ∧ bs = encode behind := by
  induction front generalizing text with
  | nil => exact ⟨text, rfl, h⟩
  | cons c front ih =>
    rw [encode_cons, List.append_assoc] at h
    have hdecode := decodeChar?_encodeChar_append c (encode front ++ bs)
    cases text with
    | nil =>
      obtain ⟨hnil, -⟩ := List.append_eq_nil_iff.1 h
      exact absurd hnil String.utf8EncodeChar_ne_nil
    | cons d text =>
      -- both start with the same character, as decoding shows
      rw [h, encode_cons, decodeChar?_encodeChar_append] at hdecode
      obtain ⟨rfl, hrest⟩ := Prod.mk.inj (Option.some.inj hdecode)
      obtain ⟨behind, rfl, hbs⟩ := ih hrest.symm
      exact ⟨behind, rfl, hbs⟩

/-- **A byte below 128 stands between characters.** -/
theorem exists_of_append_cons {text : Text} {bs rest : Bytes} {b : UInt8} (hb : b.toNat < 128)
    (h : bs ++ b :: rest = encode text) :
    ∃ front c behind, text = front ++ c :: behind ∧ bs = encode front ∧ c.toNat = b.toNat ∧
      rest = encode behind := by
  induction text generalizing bs with
  | nil => exact absurd h (by simp [encode])
  | cons c text ih =>
    rw [encode_cons] at h
    rcases List.append_eq_append_iff.1 h with ⟨more, hchar, hrest⟩ | ⟨more, rfl, hmore⟩
    · cases more with
      | nil =>
        -- the byte begins the next character
        obtain ⟨front, d, behind, rfl, hfront, hnum, hbehind⟩ := @ih [] hrest
        rw [List.append_nil] at hchar
        refine ⟨c :: front, d, behind, rfl, ?_, hnum, hbehind⟩
        rw [encode_cons, ← hfront, List.append_nil, hchar]
      | cons d more =>
        -- the byte is in this character, so it is all of it
        obtain ⟨rfl, rfl⟩ := List.cons.inj hrest
        have hmem : b ∈ encodeChar c := by
          rw [hchar]
          exact List.mem_append_right _ List.mem_cons_self
        obtain ⟨hbytes, hnum⟩ := encodeChar_eq_singleton hmem hb
        rw [hbytes] at hchar
        cases bs with
        | nil =>
          obtain rfl : more = [] := by simpa using hchar
          exact ⟨[], c, text, rfl, rfl, hnum, rfl⟩
        | cons e bs => simp at hchar
    · obtain ⟨front, d, behind, rfl, rfl, hnum, hbehind⟩ := ih hmore.symm
      exact ⟨c :: front, d, behind, rfl, (encode_cons c front).symm, hnum, hbehind⟩

/-- **A text that starts with a character below 128 stands between characters of another one.** -/
theorem exists_of_append_encode {c : Char} {t text : Text} {bs rest : Bytes} (hc : c.toNat < 128)
    (h : bs ++ encode (c :: t) ++ rest = encode text) :
    ∃ front behind, text = front ++ c :: t ++ behind ∧ bs = encode front ∧
      rest = encode behind := by
  have hbyte : (UInt8.ofNat c.toNat).toNat = c.toNat := by
    rw [UInt8.toNat_ofNat']
    omega
  rw [encode_cons, encodeChar_of_lt hc, List.append_assoc, List.append_assoc] at h
  obtain ⟨front, d, behind, rfl, rfl, hnum, hbehind⟩ := exists_of_append_cons (by omega) h
  obtain rfl : d = c := Char.toNat_inj.1 (hnum.trans hbyte)
  obtain ⟨behind, rfl, rfl⟩ := exists_of_encode_append hbehind
  exact ⟨front, behind, by simp, rfl, rfl⟩

/-- Such a text stands in the bytes of another one only where it stands in that. -/
theorem encode_infix_iff {c : Char} {t text : Text} (hc : c.toNat < 128) :
    encode (c :: t) <:+: encode text ↔ c :: t <:+: text := by
  constructor
  · rintro ⟨bs, rest, h⟩
    obtain ⟨front, behind, rfl, -, -⟩ := exists_of_append_encode hc h
    exact ⟨front, behind, rfl⟩
  · rintro ⟨front, behind, rfl⟩
    exact ⟨encode front, encode behind, by rw [encode_append, encode_append]⟩

end Codebook.Utf8
