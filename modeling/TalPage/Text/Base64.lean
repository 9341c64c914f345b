import TalPage.Text.Encoding

/-!
# Base64

Bytes written with 64 characters, each of which carries six bits. Other characters are passed over,
and padding that fills a group of four ends the text.
-/

namespace TalPage.Text

/-- The six bits of a character. -/
def sextet? (c : Char) : Option Nat :=
  if c.isUpper then some (c.toNat - 'A'.toNat)
  else if c.isLower then some (c.toNat - 'a'.toNat + 26)
  else if c.isDigit then some (c.toNat - '0'.toNat + 52)
  else if c = '+' then some 62
  else if c = '/' then some 63
  else none

/-- Decodes what follows the first `place` characters of a group. The bits of it that make no byte
yet are the value `kept`, and `pads` characters of padding came last. -/
def base64Group? (place kept pads : Nat) : List Char → Option Bytes
  | [] => if place = 0 then some [] else none
  | '=' :: s =>
    if place < 2 then base64Group? place kept pads s
    else if 4 ≤ place + pads + 1 then some []
    else base64Group? place kept (pads + 1) s
  | c :: s =>
    match sextet? c, place with
    | none, _ => base64Group? place kept pads s
    | some n, 0 => base64Group? 1 n 0 s
    | some n, 1 => (base64Group? 2 (n % 16) 0 s).map (UInt8.ofNat (kept * 4 + n / 16) :: ·)
    | some n, 2 => (base64Group? 3 (n % 4) 0 s).map (UInt8.ofNat (kept * 16 + n / 4) :: ·)
    | some n, _ => (base64Group? 0 0 0 s).map (UInt8.ofNat (kept * 64 + n) :: ·)

/-- The bytes that a text stands for. -/
def base64? (cs : List Char) : Option Bytes :=
  base64Group? 0 0 0 cs

end TalPage.Text
