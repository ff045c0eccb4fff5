import ManagedCluster.Document.Basic

/-! # What plain scalars mean

A plain scalar of a YAML text is null, a boolean, an integer, a number or a text, by its form alone.
A tag of the core schema says which of these it has to be.
-/

namespace ManagedCluster

namespace Scalar

/-- The forms of null; an empty plain scalar is null too. -/
def nullForms : List String := ["null", "Null", "NULL", "~"]

def bool? (text : String) : Option Bool :=
  if ["true", "True", "TRUE"].contains text then some true
  else if ["false", "False", "FALSE"].contains text then some false
  else none

def digitIn? (base : Nat) (c : Char) : Option Nat :=
  let value :=
    if '0' ≤ c ∧ c ≤ '9' then some (c.toNat - '0'.toNat)
    else if 'a' ≤ c ∧ c ≤ 'f' then some (c.toNat - 'a'.toNat + 10)
    else if 'A' ≤ c ∧ c ≤ 'F' then some (c.toNat - 'A'.toNat + 10)
    else none
  value.filter (· < base)

/-- The number that a non-empty row of digits writes. -/
def digits? (base : Nat) (cs : List Char) : Option Nat :=
  match cs with
  | [] => none
  | _ => cs.foldlM (fun number c => (digitIn? base c).map (number * base + ·)) 0

def bases : List (List Char × Nat) := [(['0', 'x'], 16), (['0', 'o'], 8), (['0', 'b'], 2)]

/-- What follows the mark of a base, and the base. -/
def afterBase? (cs : List Char) : Option (List Char × Nat) :=
  bases.findSome? fun (mark, base) =>
    if mark.isPrefixOf cs then some (cs.drop mark.length, base) else none

/-- The text without a plus sign in front. -/
def withoutPlus : List Char → List Char
  | '+' :: rest => rest
  | cs => cs

/-- A zero that is followed by more digits, and by nothing else. Such a text is no number. -/
def isPaddedNumeral (cs : List Char) : Bool :=
  let digits := match cs with
    | '-' :: rest | '+' :: rest => rest
    | _ => cs
  match digits with
  | '0' :: c :: rest => (c :: rest).all (·.isDigit)
  | _ => false

/-- The integer that is not negative with this form. -/
def unsigned? (text : String) : Option Nat :=
  let cs := text.toList
  let positive := withoutPlus cs
  match afterBase? positive with
  | some (digits, base) => digits? base digits
  | none => if isPaddedNumeral cs then none else digits? 10 positive

/-- The opposite of the negative integer with this form. -/
def negated? (text : String) : Option Nat :=
  match text.toList with
  | '-' :: rest =>
    match afterBase? rest with
    | some (digits, base) => digits? base digits
    | none => if isPaddedNumeral text.toList then none else digits? 10 rest
  | _ => none

/-- The integer with this form, if it fits into 128 bits. -/
def integer? (text : String) : Option Int :=
  match unsigned? text with
  | some n => if n < Nat.pow 2 128 then some n else none
  | none =>
    match negated? text with
    | some n => if n ≤ Nat.pow 2 127 then some (-n) else none
    | none => none

/-- An exponent: a sign, or none, and at least one digit. -/
def exponent? (cs : List Char) : Option Int :=
  match cs with
  | '-' :: rest => (digits? 10 rest).map fun n => -(n : Int)
  | '+' :: rest => (digits? 10 rest).map fun n => (n : Int)
  | _ => (digits? 10 cs).map fun n => (n : Int)

/-- The parts of a decimal: the digits before and after the point, and the exponent. -/
structure DecimalParts where
  negative : Bool
  whole : List Char
  fraction : List Char
  power : Int

/-- The parts of a text of digits, with at most one point among them and an exponent or none. -/
def DecimalParts.read? (cs : List Char) : Option DecimalParts := do
  let (negative, cs) := match cs with
    | '-' :: rest => (true, rest)
    | _ => (false, cs)
  let whole := cs.takeWhile (·.isDigit)
  let (fraction, ending) := match cs.dropWhile (·.isDigit) with
    | '.' :: rest => (rest.takeWhile (·.isDigit), rest.dropWhile (·.isDigit))
    | rest => ([], rest)
  let power ← match ending with
    | [] => some 0
    | 'e' :: rest | 'E' :: rest => exponent? rest
    | _ => none
  guard !(whole ++ fraction).isEmpty
  return ⟨negative, whole, fraction, power⟩

def decimal? (cs : List Char) : Option Decimal := do
  let parts ← DecimalParts.read? cs
  let mantissa ← digits? 10 (parts.whole ++ parts.fraction)
  return ⟨parts.negative, mantissa, parts.power - parts.fraction.length⟩

/-- The number with this form. One that is too large for a binary number has none. -/
def float? (text : String) : Option FloatNumber :=
  let cs := text.toList
  let unsigned := withoutPlus cs
  let signedTwice := match cs with
    | '+' :: '+' :: _ | '+' :: '-' :: _ => true
    | _ => false
  if signedTwice then none
  else if [".inf", ".Inf", ".INF"].contains (String.ofList unsigned) then some (.infinite false)
  else if ["-.inf", "-.Inf", "-.INF"].contains text then some (.infinite true)
  else if [".nan", ".NaN", ".NAN"].contains text then some .notANumber
  else ((decimal? unsigned).filter (·.isFinite)).map .finite

/-- What a plain scalar without a tag of the core schema means. -/
def resolvePlain (text : String) : Scalar :=
  if text.isEmpty || nullForms.contains text then .null
  else
    match bool? text with
    | some b => .bool b
    | none =>
      match integer? text with
      | some n => .int n
      | none =>
        if isPaddedNumeral text.toList then .text text
        else
          match float? text with
          | some x => .float x
          | none => .text text

/-- A scalar whose text has not the form that its tag asks for. -/
structure BadTag where
  text : String
  expected : String

/-- What a scalar means where nothing is known about it but its text, style and tag. -/
def resolve : Scalar → Except BadTag Scalar
  | .written form style tag =>
    let demand (expected : String) (value : Option Scalar) : Except BadTag Scalar :=
      match value with
      | some value => .ok value
      | none => .error ⟨form, expected⟩
    let free := if style = .plain then resolvePlain form else .text form
    match tag with
    | none | some (.own _) => .ok free
    | some (.core .bool) => demand "a boolean" ((bool? form).map .bool)
    | some (.core .int) => demand "an integer" ((integer? form).map .int)
    | some (.core .float) => demand "a float" ((float? form).map .float)
    | some (.core .null) =>
      demand "null" (if nullForms.contains form then some .null else none)
    | some .other => .ok (.text form)
  | value => .ok value

end Scalar

end ManagedCluster
