/-!
# Octets written in base sixty-four

Four characters of the alphabet carry three octets, and `=` fills the last group. Characters
outside the alphabet are passed over.
-/

namespace Interview.Base64

/-- The six bits that a character of the alphabet stands for. -/
def sextet? (c : Char) : Option Nat :=
  let n := c.toNat
  if 'A' ≤ c ∧ c ≤ 'Z' then some (n - 65)
  else if 'a' ≤ c ∧ c ≤ 'z' then some (n - 71)
  else if '0' ≤ c ∧ c ≤ '9' then some (n + 4)
  else if c == '+' then some 62
  else if c == '/' then some 63
  else none

/-- Reads the rest of a text. `place` counts the characters of the current group, `pending` holds
its bits that no octet has taken yet, and `pads` the fillers since its last character. A filler
that completes a group of two or three characters ends the text; the text must not end within a
group. -/
def decodeFrom (place pending pads : Nat) : List Char → Option (List UInt8)
  | [] => if place = 0 then some [] else none
  | c :: rest =>
    if c == '=' then
      if 2 ≤ place ∧ 4 ≤ place + (pads + 1) then some []
      else decodeFrom place pending (if 2 ≤ place then pads + 1 else pads) rest
    else
      match sextet? c with
      | none => decodeFrom place pending pads rest
      | some bits =>
        match place with
        | 0 => decodeFrom 1 bits 0 rest
        | 1 => (decodeFrom 2 (bits % 16) 0 rest).map (UInt8.ofNat (pending * 4 + bits / 16) :: ·)
        | 2 => (decodeFrom 3 (bits % 4) 0 rest).map (UInt8.ofNat (pending * 16 + bits / 4) :: ·)
        | _ => (decodeFrom 0 0 0 rest).map (UInt8.ofNat (pending * 64 + bits) :: ·)

/-- The octets that a text carries, unless its last group is incomplete. -/
def decode? (text : List Char) : Option (List UInt8) :=
  decodeFrom 0 0 0 text

end Interview.Base64
