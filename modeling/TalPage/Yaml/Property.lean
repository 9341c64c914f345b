import TalPage.Text.Encoding
import TalPage.Yaml.Place
import TalPage.Yaml.Token

/-!
# Anchors, aliases, tags and directives

The parts of a document that name something: each is a token that a single character announces.
-/

namespace TalPage.Yaml

/-- Whether a name may end here. -/
def endsName (c? : Option Char) : Bool :=
  endsWord c? || c?.any fun c => c ∈ ['?', ':', ',', ']', '}', '%', '@', '`']

/-- The name after the character that announces an anchor or an alias. -/
def anchorName (p : Place) : Except Fault (String × Place) :=
  let (name, p) := p.next.takeWhile isNameChar
  if name = [] ∨ !endsName p.peek then .error .malformed
  else .ok (String.ofList name, p)

def isUriChar (c : Char) : Bool :=
  c.isAlphanum || "-;/?:@&=+$,_.!~*'()[]".toList.contains c

def hexDigit? (c : Char) : Option Nat :=
  if c.isDigit ∨ ('a' ≤ c ∧ c ≤ 'f') ∨ ('A' ≤ c ∧ c ≤ 'F') then Numeric.alphanumericValue? c else none

/-- The bytes of percent escapes. -/
def uriEscapes : (fuel : Nat) → Place → Except Fault (Text.Bytes × Place)
  | 0, p => .ok ([], p)
  | fuel + 1, p =>
    match p.rest with
    | '%' :: a :: b :: _ =>
      match hexDigit? a, hexDigit? b with
      | some x, some y => do
        let (bytes, p) ← uriEscapes fuel (p.skip 3)
        return (UInt8.ofNat (x * 16 + y) :: bytes, p)
      | _, _ => .error .malformed
    | '%' :: _ => .error .malformed
    | _ => .ok ([], p)

/-- The characters of a tag, escapes among them. -/
def uriChars : (fuel : Nat) → Place → Except Fault (List Char × Place)
  | 0, p => .ok ([], p)
  | fuel + 1, p =>
    match p.rest with
    | [] => .ok ([], p)
    | c :: _ =>
      if c = '%' then do
        let (bytes, p) ← uriEscapes p.left p
        match Text.decode .utf8 bytes with
        | .error _ => .error .malformed
        | .ok cs => do
          let (more, p) ← uriChars fuel p
          return (cs ++ more, p)
      else if isUriChar c then do
        let (more, p) ← uriChars fuel p.next
        return (c :: more, p)
      else .ok ([], p)

def tagUri (p : Place) : Except Fault (String × Place) := do
  let (cs, after) ← uriChars p.left p
  if after.index = p.index then .error .malformed else return (String.ofList cs, after)

/-- A handle: an exclamation mark alone, or a name between two. -/
def tagHandle (p : Place) : Except Fault (String × Place) :=
  match p.rest with
  | '!' :: rest =>
    if rest.head? = some ' ' then .ok ("!", p.next)
    else
      let name := rest.takeWhile isNameChar
      if rest[name.length]? = some '!' then
        .ok (String.ofList ('!' :: name ++ ['!']), p.skip (name.length + 2))
      else .error .malformed
  | _ => .error .malformed

/-- A tag, from its exclamation mark on. -/
def tagToken (p : Place) : Except Fault (Token × Place) := do
  let (token, p) ←
    if p.peekAt 1 = some '<' then do
      let (suffix, p) ← tagUri (p.skip 2)
      if p.peek = some '>' then pure (Token.tag none suffix, p.next) else throw .malformed
    else if endsWord (p.peekAt 1) then pure (Token.tag none "!", p.next)
    else do
      let word := p.rest.tail.takeWhile fun c => !(endsPart (some c))
      let (handle, p) ← if '!' ∈ word then tagHandle p else pure ("!", p.next)
      let (suffix, p) ← tagUri p
      pure (Token.tag (some handle) suffix, p)
  if endsPart p.peek then return (token, p) else throw .malformed

def directiveNumber (p : Place) : Except Fault (Nat × Place) :=
  let (digits, p) := p.takeWhile Char.isDigit
  if digits = [] then .error .malformed
  else if Numeric.digitLimit < digits.length then .error (.numeral (.tooLong digits.length))
  else .ok (Nat.ofDigitChars 10 digits 0, p)

/-- A directive, from its percent sign on. -/
def directiveToken (p : Place) : Except Fault (Token × Place) := do
  let (name, p) := p.next.takeWhile isNameChar
  if name = [] ∨ !endsPart p.peek then throw .malformed
  let (token, p) ←
    if name = "YAML".toList then do
      let (major, p) ← directiveNumber p.skipSpaces
      if p.peek ≠ some '.' then throw .malformed
      let (minor, p) ← directiveNumber p.next
      if !endsPart p.peek then throw .malformed
      pure (Token.versionDirective major minor, p)
    else if name = "TAG".toList then do
      let (handle, p) ← tagHandle p.skipSpaces
      if p.peek ≠ some ' ' then throw .malformed
      let (expansion, p) ← tagUri p.skipSpaces
      if !endsPart p.peek then throw .malformed
      pure (Token.tagDirective handle expansion, p)
    else pure (Token.otherDirective, p.skipWhile (!isBreak ·))
  return (token, ← p.finishLine)

end TalPage.Yaml
