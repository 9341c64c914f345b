import TalPage.Text.CodePoint
import TalPage.Text.Printable

/-!
# Quoted text

A text or a sequence of bytes as a literal in quotes: single quotes, unless it holds a single quote
and no double one. What is not printable is written by its code.
-/

namespace TalPage.Text

/-- The hexadecimal digits of `n`, at least `width` of them. -/
def hexDigits (width n : Nat) : List Char :=
  let digits := Nat.toDigits 16 n
  List.replicate (width - digits.length) '0' ++ digits

/-- A code point as an escape of two, four or eight hexadecimal digits, whichever is enough. -/
def codeEscape (n : Nat) : List Char :=
  if n < 0x100 then '\\' :: 'x' :: hexDigits 2 n
  else if n < 0x10000 then '\\' :: 'u' :: hexDigits 4 n
  else '\\' :: 'U' :: hexDigits 8 n

/-- The quote around a text: a double one if the text holds single ones and no double one. -/
def chooseQuote (codes : List Nat) : Char :=
  if '\''.toNat ∈ codes ∧ '"'.toNat ∉ codes then '"' else '\''

/-- A code point inside quotes. -/
def quotedCode (quote : Char) (n : Nat) : List Char :=
  if n = quote.toNat ∨ n = '\\'.toNat then ['\\', Char.ofNat n]
  else if n = '\t'.toNat then ['\\', 't']
  else if n = '\n'.toNat then ['\\', 'n']
  else if n = '\r'.toNat then ['\\', 'r']
  else if isPrintable n then [Char.ofNat n]
  else codeEscape n

/-- The text in quotes; a surrogate is not printable. -/
def quoted (ps : Points) : String :=
  let codes := ps.map CodePoint.toNat
  let quote := chooseQuote codes
  String.ofList (quote :: codes.flatMap (quotedCode quote) ++ [quote])

/-- The bytes in quotes after a `b`; bytes beyond ASCII are written by their code. -/
def quotedBytes (bytes : List UInt8) : String :=
  let codes := bytes.map (·.toNat)
  let quote := chooseQuote codes
  let escape (n : Nat) := if 0x7F ≤ n then codeEscape n else quotedCode quote n
  String.ofList ('b' :: quote :: codes.flatMap escape ++ [quote])

end TalPage.Text
