import Codebook.Network.Punycode
import Codebook.Text.Numeral
import Codebook.Text.Split
import Codebook.Unicode.Case
import Codebook.Unicode.WhiteSpace
import Codebook.Utf8

/-!
# Names and numbers of hosts

A host has a name, or a number: four bytes with dots between them, or eight groups with colons
between them and brackets around. There is more than one way to write each; `HostName.read?` and
`HostName.readNumber?` read all of them and give the one form that requests use.
-/

namespace Codebook.HostName

/-! ## Four bytes -/

/-- The number that one part writes, in the base that its first digits tell. -/
def part? (t : Text) : Option Nat :=
  match t with
  | '0' :: 'x' :: rest | '0' :: 'X' :: rest =>
    if rest.isEmpty then some 0 else Text.digitsValue? 16 rest
  | '0' :: c :: rest => Text.digitsValue? 8 (c :: rest)
  | _ => Text.digitsValue? 10 t

/-- The parts of a name without an empty one at the end. -/
def parts (t : Text) : List Text :=
  let all := Text.splitOn ['.'] t
  if all.getLast? = some [] then all.dropLast else all

/-- Whether a name has to be a number, because its last part is one. -/
def endsInNumber (t : Text) : Bool :=
  match (parts t).getLast? with
  | none => false
  | some last => (!last.isEmpty && last.all Char.isDigit) || (part? last).isSome

/-- The bytes of a number that up to four parts write; the last part fills the bytes that are
left. -/
def bytes? (t : Text) : Option (List Nat) := do
  let numbers ← (parts t).mapM part?
  let last ← numbers.getLast?
  let front := numbers.dropLast
  if 4 < numbers.length || front.any (256 ≤ ·) then none
  let left := 4 - front.length
  if Nat.pow 256 left ≤ last then none
  return front ++ (List.range left).reverse.map fun i => last / Nat.pow 256 i % 256

/-- Four bytes as they are shown. -/
def showBytes (bytes : List Nat) : Text := ['.'].intercalate (bytes.map (Nat.toDigits 10))

/-! ## Eight groups -/

/-- The number that a group of up to four digits writes. -/
def group? (t : Text) : Option Nat := if 4 < t.length then none else Text.digitsValue? 16 t

/-- The byte that decimal digits without zeros in front write. -/
def byte? (t : Text) : Option Nat :=
  if t.length > 1 && t.head? == some '0' then none
  else (Text.digitsValue? 10 t).filter (· < 256)

/-- The two groups that four bytes make. -/
def groupsOfBytes? (t : Text) : Option (List Nat) := do
  match ← (Text.splitOn ['.'] t).mapM byte? with
  | [a, b, c, d] => return [a * 256 + b, c * 256 + d]
  | _ => none

/-- The groups that some pieces write. At the end of the whole, four bytes may stand for two
groups. -/
def groups? (atEnd : Bool) : List Text → Option (List Nat)
  | [] => some []
  | [last] => (group? last).map ([·]) <|> (if atEnd then groupsOfBytes? last else none)
  | piece :: rest => do
    let group ← group? piece
    let more ← groups? atEnd rest
    return group :: more

/-- The groups on one side of a gap, where there may be none. -/
def sideGroups? (atEnd : Bool) (t : Text) : Option (List Nat) :=
  if t.isEmpty then some [] else groups? atEnd (Text.splitOn [':'] t)

/-- The eight groups that stand between brackets. Two colons leave a gap, which zeros fill. -/
def readGroups? (t : Text) : Option (List Nat) :=
  match Text.cut? [':', ':'] t with
  | none => (groups? true (Text.splitOn [':'] t)).filter (·.length = 8)
  | some (front, behind) => do
    let before ← sideGroups? false front
    let after ← sideGroups? true behind
    let given := before.length + after.length
    if 8 ≤ given then none
    return before ++ List.replicate (8 - given) 0 ++ after

/-- Where the longest run of zeros starts, and how long it is. Of two the first counts. -/
def longestRun (groups : List Nat) : Nat × Nat :=
  (List.range groups.length).foldl (fun best start =>
    let length := ((groups.drop start).takeWhile (· == 0)).length
    if best.2 < length then (start, length) else best) (0, 0)

/-- Groups with colons between them. -/
def showSide (groups : List Nat) : Text := [':'].intercalate (groups.map (Nat.toDigits 16))

/-- Eight groups as they are shown, with a gap for the longest run of zeros if it is longer than
one. -/
def showGroups (groups : List Nat) : Text :=
  let (start, length) := longestRun groups
  if length < 2 then showSide groups
  else showSide (groups.take start) ++ [':', ':'] ++ showSide (groups.drop (start + length))

/-- The number between brackets, if there can be such a host. -/
def readNumber? (t : Text) : Option Text :=
  (readGroups? t).map fun groups => '[' :: showGroups groups ++ [']']

/-! ## Names -/

/-- What may not stand in the name of a host. -/
def forbidden : List Char :=
  [' ', '"', '#', '%', '/', ':', '<', '>', '?', '@', '[', '\\', ']', '^', '`', '{', '|', '}']

/-- Whether a character cannot stand in the name of a host. -/
def isForbidden (c : Char) : Bool :=
  c.toNat ≤ 0x20 || c.toNat == 0x7F || Unicode.isWhiteSpace c || c ∈ forbidden

/-- The bytes of a name, of which some may be written by their number behind a percent sign. -/
def percentDecode : Text → Bytes
  | '%' :: high :: low :: rest =>
    match Text.digitsValue? 16 [high, low] with
    | some byte => byte.toUInt8 :: percentDecode rest
    | none => Utf8.encodeChar '%' ++ percentDecode (high :: low :: rest)
  | c :: rest => Utf8.encodeChar c ++ percentDecode rest
  | [] => []

/-- The characters that do not count in a name. -/
def invisibleRanges : List (Nat × Nat) := [
  (0xad, 0xad), (0x200b, 0x200b), (0x2060, 0x2060), (0xfe00, 0xfe0f), (0xfeff, 0xfeff)]

/-- The form that a character has in names: small, narrow, and nothing for what does not show. -/
def fold (c : Char) : Text :=
  let n := c.toNat
  if n < 0x80 then [c.toLower]
  else if 0xFF01 ≤ n && n ≤ 0xFF5E then [(Char.ofNat (n - 0xFEE0)).toLower]
  else if n == 0x3002 || n == 0xFF61 then ['.']
  else if Unicode.inRanges invisibleRanges c then []
  else Unicode.lowerChar c

/-- One part of a name in ASCII. -/
def label (t : Text) : Text :=
  if t.all (·.toNat < 128) then t else "xn--".toList ++ Punycode.encode t

/-- The host with a name or a number in dots, if there can be such a host. -/
def read? (t : Text) : Option Text := do
  let decoded ← Utf8.decode? (percentDecode t)
  let folded := decoded.flatMap fold
  if folded.isEmpty || folded.any isForbidden then none
  let name := ['.'].intercalate ((Text.splitOn ['.'] folded).map label)
  if endsInNumber name then (bytes? name).map showBytes else some name

end Codebook.HostName
