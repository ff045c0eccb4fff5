import ManagedCluster.Yaml.ScalarToken
import ManagedCluster.Yaml.Token

/-! # Properties and directives in YAML texts

A node can have a name, by which it is referred to, and a tag. Directives before a document say
which version it is in and what the handles of its tags are short for.
-/

namespace ManagedCluster

namespace Yaml

/-- A token that was read, and the place after it. -/
abbrev ReadToken := Token × Cursor

def isNameChar (c : Char) : Bool := c.isAlphanum || c == '-' || c == '_'

/-- The name after the sign of an anchor or an alias. -/
def readName (cursor : Cursor) : Option (String × Cursor) :=
  let (name, cursor) := (cursor.skip 1).takeWhile isNameChar
  if name.isEmpty then none
  else if cursor.head?.all fun c => isSeparator c || "?:,]\x7d%@`".toList.contains c then
    some (String.ofList name, cursor)
  else none

/-! ## Tags -/

/-- A character of a tag. Between angle brackets and in directives there are three more. -/
def isTagChar (inBrackets : Bool) (c : Char) : Bool :=
  isNameChar c || ";/?:@&=+$.%!~*'()".toList.contains c
    || inBrackets && (c == ',' || c == '[' || c == ']')

/-- The bytes that a row of escapes writes. -/
def escapedBytes : List Char → List UInt8
  | '%' :: a :: b :: rest =>
    match Scalar.digits? 16 [a, b] with
    | some byte => byte.toUInt8 :: escapedBytes rest
    | none => []
  | _ => []

/-- The number of bytes of a character whose first byte this is. -/
def encodedLength? (first : UInt8) : Option Nat :=
  if first < 0x80 then some 1
  else if first < 0xc0 then none
  else if first < 0xe0 then some 2
  else if first < 0xf0 then some 3
  else if first < 0xf8 then some 4
  else none

/-- A byte of a character after its first one. -/
def isTrailing (byte : UInt8) : Bool := 0x80 ≤ byte && byte < 0xc0

/-- The bytes of the character that a row of escapes starts with. Only the number of its bytes and
their high bits are looked at, so they need not be a character after all. -/
def escapedTagChar? (rest : List Char) : Option (List UInt8) := do
  let bytes := escapedBytes rest
  let first ← bytes.head?
  let taken := bytes.take (← encodedLength? first)
  guard (taken.length == (← encodedLength? first) && taken.tail.all isTrailing)
  return taken

/-- The bytes of a tag at a place, on top of those before in reverse. -/
def tagBytes (inBrackets : Bool) (before : List UInt8) (cursor : Cursor) :
    Nat → Option (List UInt8 × Cursor)
  | 0 => none
  | fuel + 1 =>
    match cursor.head? with
    | some '%' => do
      let bytes ← escapedTagChar? cursor.rest
      tagBytes inBrackets (bytes.reverse ++ before) (cursor.skip (3 * bytes.length)) fuel
    | some c =>
      if isTagChar inBrackets c then
        tagBytes inBrackets (c.toNat.toUInt8 :: before) (cursor.skip 1) fuel
      else some (before.reverse, cursor)
    | none => some (before.reverse, cursor)

/-- The bytes of a tag at a place, which can be none. -/
def readTagBytes (inBrackets : Bool) (cursor : Cursor) : Option (List UInt8 × Cursor) :=
  tagBytes inBrackets [] cursor (cursor.rest.length + 1)

/-- The bytes up to the first zero. What follows a zero is not part of a tag. -/
def upToZero (bytes : List UInt8) : List UInt8 := bytes.takeWhile (· != 0)

def asciiBytes (cs : List Char) : List UInt8 := cs.map fun c => c.toNat.toUInt8

/-- An exclamation mark, a name, and another exclamation mark if there is one. -/
def readHandle (cursor : Cursor) : Option (List Char × Cursor) :=
  if cursor.head? != some '!' then none
  else
    let (name, cursor) := (cursor.skip 1).takeWhile isNameChar
    if cursor.head? == some '!' then some ('!' :: (name ++ ['!']), cursor.skip 1)
    else some ('!' :: name, cursor)

/-- The text starts and ends with an exclamation mark of its own. -/
def isFullHandle (handle : List Char) : Bool := 1 < handle.length && handle.getLast? == some '!'

/-- A tag: a whole one in angle brackets, or a handle and a suffix. -/
def readTag (cursor : Cursor) : Option ReadToken :=
  if cursor.startsWith ['!', '<'] then do
    let (bytes, cursor) ← readTagBytes true (cursor.skip 2)
    guard (!bytes.isEmpty && cursor.head? == some '>')
    return (Token.tag "" (upToZero bytes), cursor.skip 1)
  else do
    let (handle, cursor) ← readHandle cursor
    let (bytes, cursor) ← readTagBytes false cursor
    if isFullHandle handle then
      guard (!bytes.isEmpty)
      return (Token.tag (String.ofList handle) (upToZero bytes), cursor)
    else
      let suffix := upToZero (asciiBytes handle.tail ++ bytes)
      if suffix.isEmpty then return (Token.tag "" (asciiBytes ['!']), cursor)
      else return (Token.tag "!" suffix, cursor)

/-- A tag ends before a separator, or between brackets before a comma. -/
def endsTag (inFlow : Bool) (cursor : Cursor) : Bool :=
  endsWord cursor.rest || inFlow && cursor.head? == some ','

def coreTagStart : String := "tag:yaml.org,2002:"

def coreTag : CoreType → String
  | .bool => coreTagStart ++ "bool"
  | .int => coreTagStart ++ "int"
  | .float => coreTagStart ++ "float"
  | .null => coreTagStart ++ "null"

/-- The bytes are the encoding of a text. -/
def isText (bytes : List UInt8) : Bool := (String.fromUTF8? ⟨bytes.toArray⟩).isSome

/-- What a whole tag says. -/
def tagOfBytes (bytes : List UInt8) : Tag :=
  match [CoreType.bool, .int, .float, .null].find? fun type =>
      (coreTag type).toUTF8.toList == bytes with
  | some type => .core type
  | none => if bytes.head? == some 0x21 then .own (isText bytes) else .other

/-! ## Directives -/

/-- A number of at most nine digits. -/
def readVersionNumber (cursor : Cursor) : Option (Nat × Cursor) := do
  let (digits, cursor) := cursor.takeWhile Char.isDigit
  guard (digits.length ≤ 9)
  return (← Scalar.digits? 10 digits, cursor)

/-- The version that a directive names. -/
def readVersion (cursor : Cursor) : Option ReadToken := do
  let (major, cursor) ← readVersionNumber (cursor.skipWhile isBlank)
  guard (cursor.head? == some '.')
  let (minor, cursor) ← readVersionNumber (cursor.skip 1)
  return (.version major minor, cursor)

/-- The handle that a directive explains. -/
def readTagHandle (cursor : Cursor) : Option ReadToken := do
  let (handle, cursor) ← readHandle (cursor.skipWhile isBlank)
  guard (handle == ['!'] || isFullHandle handle)
  guard (cursor.head?.any isBlank)
  let (bytes, cursor) ← readTagBytes true (cursor.skipWhile isBlank)
  guard (!bytes.isEmpty && endsWord cursor.rest)
  return (.tagHandle (String.ofList handle) (upToZero bytes), cursor)

/-- A directive, up to the end of its line. -/
def readDirective (cursor : Cursor) : Option ReadToken := do
  let (name, cursor) := (cursor.skip 1).takeWhile isNameChar
  guard (endsWord cursor.rest)
  let (token, cursor) ←
    if name == "YAML".toList then readVersion cursor
    else if name == "TAG".toList then readTagHandle cursor
    else none
  return (token, ← endOfLine cursor)

end Yaml

end ManagedCluster
