/-!
# Base64

Reading bytes from text in which each of sixty-four characters carries six bits. Characters outside
the alphabet do not count. An equals sign counts only behind the second or third character of a
group of four, and ends the data when it fills the group.
-/

namespace ImportLint.Text.Base64

/-- The six bits of a character, if it belongs to the alphabet. -/
def bits? (c : Char) : Option Nat :=
  if 'A' ≤ c ∧ c ≤ 'Z' then some (c.toNat - 'A'.toNat)
  else if 'a' ≤ c ∧ c ≤ 'z' then some (c.toNat - 'a'.toNat + 26)
  else if '0' ≤ c ∧ c ≤ '9' then some (c.toNat - '0'.toNat + 52)
  else if c = '+' then some 62
  else if c = '/' then some 63
  else none

/-- The bits that are waiting for more: how many characters of the group were read, and the number
that the bits without a byte make. -/
structure Group where
  size : Nat
  bits : Nat
  deriving DecidableEq, Repr

/-- The byte that six more bits complete, if any, and the bits that wait afterwards. -/
def Group.push (g : Group) (d : Nat) : Option UInt8 × Group :=
  match g.size with
  | 0 => (none, ⟨1, d⟩)
  | 1 => (some (g.bits * 4 + d / 16).toUInt8, ⟨2, d % 16⟩)
  | 2 => (some (g.bits * 16 + d / 4).toUInt8, ⟨3, d % 4⟩)
  | _ => (some (g.bits * 64 + d).toUInt8, ⟨0, 0⟩)

/-- The bytes of a text that comes behind the characters of `g` and `pads` equals signs. -/
def decodeFrom (g : Group) (pads : Nat) : List Char → Option (List UInt8)
  | [] => if g.size = 0 then some [] else none
  | c :: rest =>
    if c = '=' then
      if g.size < 2 then decodeFrom g pads rest
      else if 3 ≤ g.size + pads then some []
      else decodeFrom g (pads + 1) rest
    else
      match bits? c with
      | none => decodeFrom g pads rest
      | some d =>
        let (byte?, next) := g.push d
        (decodeFrom next 0 rest).map (byte?.toList ++ ·)

/-- The bytes of a text; nothing if its last group is not complete. -/
def decode (s : List Char) : Option (List UInt8) := decodeFrom ⟨0, 0⟩ 0 s

end ImportLint.Text.Base64
