import Codebook.Text

/-!
# UTF-8

Text as bytes and back. `decodeChar?` reads one character and is the only place that looks at
the bits of a byte; everything else that has to know where a character ends goes through it.

`decodeChar?_encodeChar_append` and `eq_of_decodeChar?` say that it is exactly the inverse of
writing a character: bytes that are no character's encoding are refused, so a text has one
encoding. `decode?_encode` and `encode_of_decode?` carry both over to whole texts.
-/

namespace Codebook.Utf8

/-- The bytes of one character. -/
abbrev encodeChar (c : Char) : Bytes := String.utf8EncodeChar c

/-- The bytes of a text. -/
def encode (t : Text) : Bytes := t.flatMap encodeChar

/-- The character that the bytes start with, and the bytes after it. -/
def decodeChar? (bs : Bytes) : Option (Char × Bytes) :=
  ((bs.take 4).toByteArray.utf8DecodeChar? 0).map fun c => (c, bs.drop c.utf8Size)

/-- Decoding gives back the character written in front, whatever follows it. -/
theorem decodeChar?_encodeChar_append (c : Char) (rest : Bytes) :
    decodeChar? (encodeChar c ++ rest) = some (c, rest) := by
  have hlen : (encodeChar c).length = c.utf8Size := String.length_utf8EncodeChar c
  have hle : (encodeChar c).length ≤ 4 := by rw [hlen]; exact Char.utf8Size_le_four c
  have htake : (encodeChar c ++ rest).take 4
      = encodeChar c ++ rest.take (4 - (encodeChar c).length) := by
    rw [List.take_append, List.take_of_length_le hle]
  simp only [decodeChar?, htake, List.toByteArray_append,
    ByteArray.utf8DecodeChar?_utf8EncodeChar_append, Option.map_some]
  rw [← hlen, List.drop_left]

/-- What decodes to a character is that character's encoding and the rest. -/
theorem eq_of_decodeChar? {bs : Bytes} {c : Char} {rest : Bytes}
    (h : decodeChar? bs = some (c, rest)) : bs = encodeChar c ++ rest := by
  simp only [decodeChar?, Option.map_eq_some_iff, Prod.mk.injEq] at h
  obtain ⟨d, hd, rfl, rfl⟩ := h
  obtain ⟨l, hl⟩ := ByteArray.exists_of_utf8DecodeChar?_eq_some hd
  have hlist : bs.take 4 = encodeChar d ++ l.data.toList := by
    simpa using congrArg (fun b : ByteArray => b.data.toList) hl
  have hlen : (encodeChar d).length = d.utf8Size := String.length_utf8EncodeChar d
  have hbs : bs = encodeChar d ++ (l.data.toList ++ bs.drop 4) := by
    rw [← List.append_assoc, ← hlist, List.take_append_drop]
  have hdrop : bs.drop d.utf8Size = l.data.toList ++ bs.drop 4 := by
    rw [← hlen]; conv => lhs; rw [hbs]
    exact List.drop_left
  rw [hdrop]; exact hbs

/-- A character takes at least one byte. -/
theorem length_lt_of_decodeChar? {bs : Bytes} {c : Char} {rest : Bytes}
    (h : decodeChar? bs = some (c, rest)) : rest.length < bs.length := by
  have hpos := Char.utf8Size_pos c
  rw [eq_of_decodeChar? h, List.length_append, String.length_utf8EncodeChar]
  omega

/-- The longest text that the bytes start with, and the bytes from the first one on that no
character starts at. -/
def decodeFront (bs : Bytes) : Text × Bytes :=
  match h : decodeChar? bs with
  | none => ([], bs)
  | some (c, rest) =>
    have : rest.length < bs.length := length_lt_of_decodeChar? h
    let (t, undecoded) := decodeFront rest
    (c :: t, undecoded)
termination_by bs.length

/-- The text that the bytes encode, if they are UTF-8 throughout. -/
def decode? (bs : Bytes) : Option Text :=
  match decodeFront bs with
  | (t, []) => some t
  | _ => none

/-- The front and what is left of it make up the bytes. -/
theorem encode_decodeFront (bs : Bytes) :
    encode (decodeFront bs).1 ++ (decodeFront bs).2 = bs := by
  fun_induction decodeFront bs with
  | case1 bs _ => simp [encode]
  | case2 bs c rest h _ t undecoded heq ih =>
    rw [heq] at ih
    rw [eq_of_decodeChar? h]
    simpa [encode] using ih

/-- A text's encoding is decoded to the end. -/
theorem decodeFront_encode (t : Text) : decodeFront (encode t) = (t, []) := by
  induction t with
  | nil => rw [decodeFront]; simp [encode, decodeChar?, ByteArray.utf8DecodeChar?]
  | cons c t ih =>
    have h : decodeChar? (encode (c :: t)) = some (c, encode t) := by
      simp only [encode, List.flatMap_cons]
      exact decodeChar?_encodeChar_append c _
    rw [decodeFront]
    split
    · simp_all
    · simp_all

theorem decode?_encode (t : Text) : decode? (encode t) = some t := by
  simp [decode?, decodeFront_encode]

theorem encode_of_decode? {bs : Bytes} {t : Text} (h : decode? bs = some t) : encode t = bs := by
  have hfront := encode_decodeFront bs
  unfold decode? at h
  split at h
  · next t' heq => rw [heq] at hfront; simp_all
  · simp at h

/-- How many bytes at the front are UTF-8. -/
def validLength (bs : Bytes) : Nat := bs.length - (decodeFront bs).2.length

end Codebook.Utf8
