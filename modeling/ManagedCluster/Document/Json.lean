import ManagedCluster.Document.Resolution

/-! # Documents as JSON texts

A JSON text holds one document. The entries of an object are kept in key order, and of several
with one key the last. An integer keeps its value if 64 bits hold it; all other numbers are
floating point numbers. Documents are written without blanks.
-/

namespace ManagedCluster

namespace Json

def isBlank (c : Char) : Bool := c == ' ' || c == '\t' || c == '\n' || c == '\r'

def skipBlanks (cs : List Char) : List Char := cs.dropWhile isBlank

/-- The code of four hexadecimal digits, and the text after them. -/
def hexCode? : List Char → Option (Nat × List Char)
  | a :: b :: c :: d :: rest => (Scalar.digits? 16 [a, b, c, d]).map (·, rest)
  | _ => none

/-- The character of an escape, which starts after the backslash. Characters beyond sixteen bits are
two escapes. -/
def escape? : List Char → Option (Char × List Char)
  | '"' :: rest => some ('"', rest)
  | '\\' :: rest => some ('\\', rest)
  | '/' :: rest => some ('/', rest)
  | 'b' :: rest => some ('\x08', rest)
  | 'f' :: rest => some ('\x0c', rest)
  | 'n' :: rest => some ('\n', rest)
  | 'r' :: rest => some ('\r', rest)
  | 't' :: rest => some ('\t', rest)
  | 'u' :: rest => do
    let (code, rest) ← hexCode? rest
    if 0xd800 ≤ code ∧ code < 0xdc00 then
      match rest with
      | '\\' :: 'u' :: rest =>
        let (low, rest) ← hexCode? rest
        guard (0xdc00 ≤ low ∧ low < 0xe000)
        return (Char.ofNat (0x10000 + (code - 0xd800) * 0x400 + (low - 0xdc00)), rest)
      | _ => none
    else do
      guard (code < 0xdc00 ∨ 0xe000 ≤ code)
      return (Char.ofNat code, rest)
  | _ => none

/-- The characters up to the closing quote, in reverse on top of those before. -/
def chars? (fuel : Nat) (before : List Char) (cs : List Char) : Option (List Char × List Char) :=
  match fuel, cs with
  | _ + 1, '"' :: rest => some (before.reverse, rest)
  | fuel + 1, '\\' :: rest => do
    let (c, rest) ← escape? rest
    chars? fuel (c :: before) rest
  | fuel + 1, c :: rest => if c.toNat < 0x20 then none else chars? fuel (c :: before) rest
  | _, _ => none

/-- A text, from after its opening quote on. -/
def text? (cs : List Char) : Option (String × List Char) :=
  (chars? (cs.length + 1) [] cs).map fun (cs, rest) => (String.ofList cs, rest)

/-- The digits of a number that 64 bits hold, and the power of ten that belongs to them. -/
structure Magnitude where
  significand : Nat
  exponent : Int
  deriving Repr, DecidableEq

namespace Magnitude

/-- The significand with one more digit, if 64 bits hold it. -/
def append? (m : Magnitude) (digit : Char) : Option Nat :=
  let longer := m.significand * 10 + (digit.toNat - '0'.toNat)
  if longer < UInt64.size then some longer else none

/-- Take the digits before the point. From the first that does not fit on, a digit only adds to the
exponent. -/
def addWhole (m : Magnitude) : List Char → Magnitude
  | [] => m
  | digit :: rest =>
    match m.append? digit with
    | some longer => addWhole ⟨longer, m.exponent⟩ rest
    | none => ⟨m.significand, m.exponent + rest.length + 1⟩

/-- Take the digits after the point, up to the first that does not fit. -/
def addFraction (m : Magnitude) : List Char → Magnitude
  | [] => m
  | digit :: rest =>
    match m.append? digit with
    | some longer => addFraction ⟨longer, m.exponent - 1⟩ rest
    | none => m

def ofParts (parts : Scalar.DecimalParts) : Magnitude :=
  let m := (addWhole ⟨0, 0⟩ parts.whole).addFraction parts.fraction
  ⟨m.significand, m.exponent + parts.power⟩

/-- The quotient of a binary number and a power of ten. Powers beyond 308 are taken in steps, each
with a rounded result. -/
def divide (value : Decimal.Binary) (power : Nat) : Decimal.Binary :=
  let quotient := (value.value.div (Decimal.powerOfTen (min power 308))).toBinary
  if quotient.significand = 0 then quotient
  else if 308 < power then divide quotient (power - 308)
  else quotient
termination_by power
decreasing_by omega

/-- The binary number of a magnitude. The significand and the power of ten are rounded before they
are multiplied or divided. A number that is too large has none. -/
def toBinary? (m : Magnitude) : Option Decimal.Binary :=
  let value := Decimal.Fraction.toBinary ⟨m.significand, 1⟩
  if m.significand = 0 then some value
  else if m.exponent < 0 then some (divide value m.exponent.natAbs)
  else if 308 < m.exponent then none
  else
    let product := (value.value.mul (Decimal.powerOfTen m.exponent.toNat)).toBinary
    if product.isFinite then some product else none

end Magnitude

def number? (cs : List Char) : Option Scalar := do
  let parts ← Scalar.DecimalParts.read? cs
  let magnitude := Magnitude.ofParts parts
  let value : Int := if parts.negative then -magnitude.significand else magnitude.significand
  let isInteger := cs.all fun c => c.isDigit || c == '-'
  let isNegativeZero := parts.negative && value == 0
  if isInteger && magnitude.exponent = 0 && !isNegativeZero && -Int.pow 2 63 ≤ value then
    return .int value
  let binary ← magnitude.toBinary?
  return .float (.finite (binary.toDecimal parts.negative))

def isNumberChar (c : Char) : Bool :=
  c.isDigit || c == '-' || c == '+' || c == '.' || c == 'e' || c == 'E'

/-- Put an entry in its place among entries in key order, over an older one with its key. -/
def putEntry {α : Type} (key : String) (value : α) : List (String × α) → List (String × α)
  | [] => [(key, value)]
  | (k, v) :: rest =>
    if key < k then (key, value) :: (k, v) :: rest
    else if key = k then (key, value) :: rest
    else (k, v) :: putEntry key value rest

mutual

def value? (fuel : Nat) (cs : List Char) : Option (Document × List Char) :=
  match fuel with
  | 0 => none
  | fuel + 1 =>
    match skipBlanks cs with
    | 'n' :: 'u' :: 'l' :: 'l' :: rest => some (.null, rest)
    | 't' :: 'r' :: 'u' :: 'e' :: rest => some (.bool true, rest)
    | 'f' :: 'a' :: 'l' :: 's' :: 'e' :: rest => some (.bool false, rest)
    | '"' :: rest => (text? rest).map fun (text, rest) => (.text text, rest)
    | '[' :: rest =>
      match skipBlanks rest with
      | ']' :: rest => some (.list [], rest)
      | rest => (items? fuel rest).map fun (items, rest) => (.list items, rest)
    | '\x7b' :: rest =>
      match skipBlanks rest with
      | '\x7d' :: rest => some (.map [], rest)
      | rest => (entries? fuel [] rest).map fun (entries, rest) => (.object entries, rest)
    | cs =>
      (number? (cs.takeWhile isNumberChar)).map fun number =>
        (.scalar number, cs.dropWhile isNumberChar)

def items? (fuel : Nat) (cs : List Char) : Option (List Document × List Char) :=
  match fuel with
  | 0 => none
  | fuel + 1 => do
    let (item, rest) ← value? fuel cs
    match skipBlanks rest with
    | ',' :: rest =>
      let (items, rest) ← items? fuel rest
      return (item :: items, rest)
    | ']' :: rest => return ([item], rest)
    | _ => none

/-- The entries up to the closing brace, together with those before. -/
def entries? (fuel : Nat) (before : List (String × Document)) (cs : List Char) :
    Option (List (String × Document) × List Char) :=
  match fuel with
  | 0 => none
  | fuel + 1 => do
    let '"' :: rest := skipBlanks cs | none
    let (key, rest) ← text? rest
    let ':' :: rest := skipBlanks rest | none
    let (value, rest) ← value? fuel rest
    let entries := putEntry key value before
    match skipBlanks rest with
    | ',' :: rest => entries? fuel entries rest
    | '\x7d' :: rest => return (entries, rest)
    | _ => none

end

def read? (text : String) : Option Document :=
  let cs := text.toList
  match value? (2 * cs.length + 2) cs with
  | some (document, rest) => if (skipBlanks rest).isEmpty then some document else none
  | none => none

def writeChar (c : Char) : List Char :=
  if c = '"' || c = '\\' then ['\\', c]
  else if c.toNat < 0x20 then
    ['\\', 'u', '0', '0', Nat.digitChar (c.toNat / 16), Nat.digitChar (c.toNat % 16)]
  else [c]

def writeText (text : String) : String :=
  "\"" ++ String.ofList (text.toList.flatMap writeChar) ++ "\""

def writeScalar : Scalar → String
  | .null => "null"
  | .bool value => toString value
  | .int value => toString value
  | .float (.finite value) => value.text Decimal.scientific
  | .float _ => "null"
  | .text value | .written value _ _ => writeText value

mutual

/-- A document as JSON text. Keys without a text of their own cannot be written and stand for
null. -/
def write : Document → String
  | .scalar value => writeScalar value
  | .list items => "[" ++ ",".intercalate (writeItems items) ++ "]"
  | .map entries => "\x7b" ++ ",".intercalate (writeEntries entries) ++ "\x7d"
  | .tagged _ collection => write collection
  | .reference _ => "null"

def writeItems : List Document → List String
  | [] => []
  | item :: rest => write item :: writeItems rest

def writeEntries : List (Document × Document) → List String
  | [] => []
  | (.scalar key, value) :: rest =>
    let name := match key with
      | .text name | .written name _ _ => name
      | _ => writeScalar key
    (writeText name ++ ":" ++ write value) :: writeEntries rest
  | (_, value) :: rest => ("null:" ++ write value) :: writeEntries rest

end

/-- What a leaf is as a JSON value. -/
def scalarValue : Scalar → Scalar
  | .written text _ _ => .text text
  | .float (.infinite _) | .float .notANumber => .null
  | value => value

/-- The name that a key has in an object. -/
def keyName : Document → String
  | .scalar (.text name) | .scalar (.written name _ _) => name
  | .scalar value => writeScalar value
  | _ => "null"

mutual

/-- A document as a JSON value, without a text in between. -/
def ofDocument : Document → Document
  | .scalar value => .scalar (scalarValue value)
  | .list items => .list (ofItems items)
  | .map entries => .object (ofEntries [] entries)
  | .tagged _ collection => ofDocument collection
  | .reference _ => .null

def ofItems : List Document → List Document
  | [] => []
  | item :: rest => ofDocument item :: ofItems rest

/-- The entries in key order, together with those before. -/
def ofEntries (before : List (String × Document)) :
    List (Document × Document) → List (String × Document)
  | [] => before
  | (key, value) :: rest => ofEntries (putEntry (keyName key) (ofDocument value) before) rest

end

end Json

end ManagedCluster
