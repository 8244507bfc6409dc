import PlaceholderScripts.Number.Power

/-!
# Player ids

A player id is a 128-bit number. It is written as thirty-two lower-case hexadecimal digits in groups
of 8, 4, 4, 4 and 12, and read in either letter case, with the groups or without them, the grouped
form also in braces or behind `urn:uuid:`.
-/

namespace PlaceholderScripts

structure PlayerId where
  value : BitVec 128
  deriving DecidableEq, Repr

namespace PlayerId

/-- The value of a hexadecimal digit. -/
def hexDigit? (c : Char) : Option Nat :=
  if c.isDigit then some (c.toNat - '0'.toNat)
  else if 'a' ≤ c && c ≤ 'f' then some (c.toNat - 'a'.toNat + 10)
  else if 'A' ≤ c && c ≤ 'F' then some (c.toNat - 'A'.toNat + 10)
  else none

/-- Hexadecimal digits, whatever their number, read from left to right. -/
def ofHex? (ds : List Char) : Option PlayerId :=
  (ds.mapM hexDigit?).map fun values =>
    ⟨BitVec.ofNat 128 (values.foldl (fun n d => 16 * n + d) 0)⟩

/-- Removes the four hyphens of the grouped form, which must stand at their places. -/
def ungroup? (cs : List Char) : Option (List Char) :=
  let (a, b) := cs.splitAt 8
  let (b, c) := b.splitAt 5
  let (c, d) := c.splitAt 5
  let (d, e) := d.splitAt 5
  match b, c, d, e with
  | '-' :: b, '-' :: c, '-' :: d, '-' :: e =>
    if cs.length = 36 then some (a ++ b ++ c ++ d ++ e) else none
  | _, _, _, _ => none

/-- Reads an id in any of its forms. -/
def parse? (text : String) : Option PlayerId :=
  let cs := text.toList
  if cs.length = 32 then ofHex? cs else
  let grouped := match cs with
    | '{' :: rest => if rest.getLast? = some '}' then rest.dropLast else []
    | 'u' :: 'r' :: 'n' :: ':' :: 'u' :: 'u' :: 'i' :: 'd' :: ':' :: rest => rest
    | _ => cs
  (ungroup? grouped).bind ofHex?

def digits (id : PlayerId) (i count : Nat) : List Char :=
  (List.range count).map fun j => Nat.digitChar (id.value.toNat / 16 ^ (31 - (i + j)) % 16)

/-- The grouped form in lower case. -/
def text (id : PlayerId) : String :=
  String.ofList (id.digits 0 8 ++ '-' :: id.digits 8 4 ++ '-' :: id.digits 12 4 ++
    '-' :: id.digits 16 4 ++ '-' :: id.digits 20 12)

end PlayerId

end PlaceholderScripts
