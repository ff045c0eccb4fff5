/-! # Decimal numerals of bounded numbers

A numeral is an optional plus sign and at least one digit. It is read from the left, so the first
character that is wrong, or the first digit that carries the number out of range, decides.
-/

namespace ManagedCluster

/-- Why a text is no numeral of a number in range. -/
inductive NumeralError where
  | empty
  | invalidDigit
  | tooLarge
  deriving Repr, DecidableEq

namespace NumeralError

def message : NumeralError → String
  | empty => "cannot parse integer from empty string"
  | invalidDigit => "invalid digit found in string"
  | tooLarge => "number too large to fit in target type"

end NumeralError

namespace Numeral

def digit? (c : Char) : Option Nat :=
  if '0' ≤ c ∧ c ≤ '9' then some (c.toNat - '0'.toNat) else none

def readFrom (bound : Nat) (number : Nat) : List Char → Except NumeralError Nat
  | [] => .ok number
  | c :: rest =>
    match digit? c with
    | none => .error .invalidDigit
    | some d =>
      if number * 10 + d < bound then readFrom bound (number * 10 + d) rest
      else .error .tooLarge

def read (bound : Nat) : List Char → Except NumeralError Nat
  | [] => .error .empty
  | ['+'] => .error .invalidDigit
  | '+' :: digits => readFrom bound 0 digits
  | digits => readFrom bound 0 digits

example : read 256 ['0', '0', '7'] = .ok 7 := rfl

example : read 256 ['+', '5'] = .ok 5 := rfl

example : read 256 ['2', '5', '6', 'x'] = .error .tooLarge := rfl

example : read 256 ['x', '2', '5', '6'] = .error .invalidDigit := rfl

end Numeral

end ManagedCluster
