import TalPage.Text.Quoted

/-!
# Character encodings

Texts as bytes in UTF-8, Latin-1 and ASCII. A sequence of bytes that is no text, and a text that
has no bytes, is reported with its first faulty span.
-/

namespace TalPage.Text

abbrev Bytes := List UInt8

inductive Charset where
  | utf8
  | latin1
  | ascii
deriving DecidableEq, Repr

def Charset.name : Charset → String
  | .utf8 => "utf-8"
  | .latin1 => "latin-1"
  | .ascii => "ascii"

/-- What is wrong with a span of bytes. -/
inductive ByteFault where
  | invalidStart
  | invalidContinuation
  | unexpectedEnd
  | outOfRange
deriving DecidableEq, Repr

def ByteFault.reason : ByteFault → String
  | .invalidStart => "invalid start byte"
  | .invalidContinuation => "invalid continuation byte"
  | .unexpectedEnd => "unexpected end of data"
  | .outOfRange => "ordinal not in range(128)"

/-- The first span of bytes that cannot be decoded: `count` bytes from `start` on, the first of
them `first`. -/
structure DecodeFault where
  charset : Charset
  fault : ByteFault
  start : Nat
  count : Nat
  first : UInt8
deriving DecidableEq, Repr

/-- The first run of code points that cannot be encoded: `count` of them from `start` on, the first of
them `first`. -/
structure EncodeFault where
  charset : Charset
  start : Nat
  count : Nat
  first : CodePoint
deriving DecidableEq, Repr

def DecodeFault.message (f : DecodeFault) : String :=
  let span :=
    if f.count = 1 then
      "byte 0x" ++ String.ofList (hexDigits 2 f.first.toNat) ++ " in position " ++ toString f.start
    else "bytes in position " ++ toString f.start ++ "-" ++ toString (f.start + f.count - 1)
  "'" ++ f.charset.name ++ "' codec can't decode " ++ span ++ ": " ++ f.fault.reason

/-- How many code points from zero on a charset of single bytes has. -/
def Charset.limit : Charset → Nat
  | .utf8 => 0x110000
  | .latin1 => 0x100
  | .ascii => 0x80

def EncodeFault.message (f : EncodeFault) : String :=
  let span :=
    if f.count = 1 then
      "character '" ++ String.ofList (codeEscape f.first.toNat) ++ "' in position " ++ toString f.start
    else "characters in position " ++ toString f.start ++ "-" ++ toString (f.start + f.count - 1)
  let reason :=
    match f.charset with
    | .utf8 => "surrogates not allowed"
    | charset => "ordinal not in range(" ++ toString charset.limit ++ ")"
  "'" ++ f.charset.name ++ "' codec can't encode " ++ span ++ ": " ++ reason

/-- The one to four bytes of a character in UTF-8. -/
def utf8Char (c : Char) : Bytes :=
  let n := c.toNat
  let tail (k : Nat) : UInt8 := UInt8.ofNat (0x80 + n / k % 64)
  if n < 0x80 then [UInt8.ofNat n]
  else if n < 0x800 then [UInt8.ofNat (0xC0 + n / 64), tail 1]
  else if n < 0x10000 then [UInt8.ofNat (0xE0 + n / 4096), tail 64, tail 1]
  else [UInt8.ofNat (0xF0 + n / 262144), tail 4096, tail 64, tail 1]

def utf8Bytes (cs : List Char) : Bytes :=
  cs.flatMap utf8Char

/-- How a character's first byte continues: the value it starts with, the number of bytes that
follow, and the least and the greatest value the next byte may have. -/
structure Lead where
  value : Nat
  tails : Nat
  low : Nat := 0x80
  high : Nat := 0xBF
deriving DecidableEq, Repr

/-- The bounds on the second byte keep out overlong forms, surrogates and values beyond the last
code point. -/
def Lead.ofByte? (b : UInt8) : Option Lead :=
  let n := b.toNat
  if n < 0x80 then some { value := n, tails := 0 }
  else if n < 0xC2 then none
  else if n < 0xE0 then some { value := n - 0xC0, tails := 1 }
  else if n = 0xE0 then some { value := 0, tails := 2, low := 0xA0 }
  else if n = 0xED then some { value := 0xD, tails := 2, high := 0x9F }
  else if n < 0xF0 then some { value := n - 0xE0, tails := 2 }
  else if n = 0xF0 then some { value := 0, tails := 3, low := 0x90 }
  else if n < 0xF4 then some { value := n - 0xF0, tails := 3 }
  else if n = 0xF4 then some { value := 4, tails := 3, high := 0x8F }
  else none

/-- The bytes at the front that may follow a first byte, at most `count`. -/
def takeTails (low high : Nat) : (count : Nat) → Bytes → Bytes
  | count + 1, b :: bytes =>
    if low ≤ b.toNat ∧ b.toNat ≤ high then b :: takeTails 0x80 0xBF count bytes else []
  | _, _ => []

/-- Decodes the bytes from position `start` on. -/
def utf8Text (start : Nat) : Bytes → Except DecodeFault (List Char)
  | [] => .ok []
  | b :: bytes =>
    match Lead.ofByte? b with
    | none => .error ⟨.utf8, .invalidStart, start, 1, b⟩
    | some lead =>
      let tails := takeTails lead.low lead.high lead.tails bytes
      if tails.length = lead.tails then
        let c := Char.ofNat (tails.foldl (fun n t => n * 64 + (t.toNat - 0x80)) lead.value)
        (utf8Text (start + lead.tails + 1) (bytes.drop lead.tails)).map (c :: ·)
      else
        let fault := if tails.length = bytes.length then .unexpectedEnd else .invalidContinuation
        .error ⟨.utf8, fault, start, tails.length + 1, b⟩
termination_by bytes => bytes.length
decreasing_by simp only [List.length_drop, List.length_cons]; omega

/-- The text that bytes stand for. -/
def decode (charset : Charset) (bytes : Bytes) : Except DecodeFault (List Char) :=
  match charset with
  | .utf8 => utf8Text 0 bytes
  | .latin1 => .ok (bytes.map fun b => Char.ofNat b.toNat)
  | .ascii =>
    match bytes.findIdx? (0x80 ≤ ·.toNat) with
    | none => .ok (bytes.map fun b => Char.ofNat b.toNat)
    | some i => .error ⟨.ascii, .outOfRange, i, 1, bytes.getD i 0⟩

/-- Whether a code point has bytes in a charset. -/
def Charset.fits (charset : Charset) : CodePoint → Bool
  | .char c => c.toNat < charset.limit
  | .surrogate _ => false

/-- The bytes of a code point that has some. -/
def Charset.bytesOf (charset : Charset) : CodePoint → Bytes
  | .char c =>
    match charset with
    | .utf8 => utf8Char c
    | _ => [UInt8.ofNat c.toNat]
  | .surrogate _ => []

/-- The bytes of a text. -/
def encode (charset : Charset) (ps : Points) : Except EncodeFault Bytes :=
  match ps.dropWhile charset.fits with
  | p :: rest =>
    .error ⟨charset, (ps.takeWhile charset.fits).length, 1 + (rest.takeWhile (!charset.fits ·)).length, p⟩
  | [] => .ok (ps.flatMap charset.bytesOf)

end TalPage.Text
