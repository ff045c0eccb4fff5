/-! # The shortest decimal of a binary number

A decimal numeral stands for the nearest binary floating point number of 64 bits. Of the decimals
that stand for the same binary number, the one with the fewest digits is shown, and of two of
these the nearer. Of two that are equally near, the larger one or the even one is shown. All of it
is exact arithmetic on natural numbers.
-/

namespace ManagedCluster

/-- The number `mantissa · 10 ^ exponent`, or its opposite. -/
structure Decimal where
  negative : Bool
  mantissa : Nat
  exponent : Int
  deriving Repr, DecidableEq, Inhabited

namespace Decimal

/-- A fraction of natural numbers. -/
structure Fraction where
  num : Nat
  den : Nat

/-- The fraction `f · base ^ exponent`. -/
def Fraction.scale (f : Fraction) (base : Nat) (exponent : Int) : Fraction :=
  if exponent < 0 then ⟨f.num, f.den * Nat.pow base exponent.natAbs⟩
  else ⟨f.num * Nat.pow base exponent.natAbs, f.den⟩

def Fraction.mul (a b : Fraction) : Fraction := ⟨a.num * b.num, a.den * b.den⟩

def Fraction.div (a b : Fraction) : Fraction := ⟨a.num * b.den, a.den * b.num⟩

def Fraction.floor (f : Fraction) : Nat := f.num / f.den

/-- The nearest natural number, of two the even one. -/
def Fraction.round (f : Fraction) : Nat :=
  let rest := f.num % f.den
  let down := f.num / f.den
  if 2 * rest < f.den then down
  else if f.den < 2 * rest then down + 1
  else if down % 2 = 0 then down else down + 1

def Fraction.le (a b : Fraction) : Bool := a.num * b.den ≤ b.num * a.den

def Fraction.lt (a b : Fraction) : Bool := a.num * b.den < b.num * a.den

def Fraction.distance (a b : Fraction) : Fraction :=
  let x := a.num * b.den
  let y := b.num * a.den
  ⟨if x ≤ y then y - x else x - y, a.den * b.den⟩

def abs (x : Decimal) : Fraction := Fraction.scale ⟨x.mantissa, 1⟩ 10 x.exponent

/-- A positive binary number `significand · 2 ^ exponent`. -/
structure Binary where
  significand : Nat
  exponent : Int

/-- The smallest exponent of a binary number. -/
def minExponent : Int := -1074

/-- The binary number nearest to a positive fraction: 53 bits, or fewer at the smallest exponent. -/
def Fraction.toBinary (f : Fraction) : Binary :=
  let guess : Int := (Nat.log2 f.num : Int) - Nat.log2 f.den - 52
  let fits (exponent : Int) : Bool := (f.scale 2 (-exponent)).floor < Nat.pow 2 53
  let exponent := max minExponent (if fits (guess - 1) then guess - 1 else guess)
  let significand := (f.scale 2 (-exponent)).round
  if significand = Nat.pow 2 53 then ⟨Nat.pow 2 52, exponent + 1⟩ else ⟨significand, exponent⟩

def Binary.value (b : Binary) : Fraction := Fraction.scale ⟨b.significand, 1⟩ 2 b.exponent

/-- The binary number nearest to a power of ten. -/
def powerOfTen (n : Nat) : Fraction := (Fraction.toBinary ⟨Nat.pow 10 n, 1⟩).value

/-- A binary number, or its opposite, as a decimal of the same value. -/
def Binary.toDecimal (b : Binary) (negative : Bool) : Decimal :=
  if b.exponent < 0 then ⟨negative, b.significand * Nat.pow 5 b.exponent.natAbs, b.exponent⟩
  else ⟨negative, b.significand * Nat.pow 2 b.exponent.natAbs, 0⟩

/-- A binary number has at most the exponent of the largest one. -/
def Binary.isFinite (b : Binary) : Bool := b.exponent ≤ 971

/-- The number of digits before the decimal point, less one; negative below one. -/
def Fraction.magnitude (f : Fraction) : Int :=
  (Nat.toDigits 10 (f.num * Nat.pow 10 400 / f.den)).length - 401

/-- Every number between these two, or also they themselves, stands for the binary number. -/
structure Interval where
  low : Fraction
  high : Fraction
  closed : Bool

def Binary.interval (b : Binary) : Interval :=
  let narrow := b.significand = Nat.pow 2 52 ∧ minExponent < b.exponent
  { low := if narrow then Fraction.scale ⟨4 * b.significand - 1, 4⟩ 2 b.exponent
      else Fraction.scale ⟨2 * b.significand - 1, 2⟩ 2 b.exponent
    high := Fraction.scale ⟨2 * b.significand + 1, 2⟩ 2 b.exponent
    closed := b.significand % 2 = 0 }

def Interval.contains (i : Interval) (f : Fraction) : Bool :=
  if i.closed then i.low.le f && f.le i.high else i.low.lt f && f.lt i.high

/-- Which of two decimals that are equally near is shown. -/
inductive Tie where
  | larger
  | even
  deriving Repr, DecidableEq

/-- Of the two neighbours of `value` among the multiples of `10 ^ exponent`, the nearer one that
stands for the same binary number. -/
def candidate (tie : Tie) (value : Fraction) (interval : Interval) (exponent : Int) : Option Nat :=
  let down := (value.scale 10 (-exponent)).floor
  let at_ (n : Nat) : Fraction := Fraction.scale ⟨n, 1⟩ 10 exponent
  let hits := [down, down + 1].filter fun n => 0 < n && interval.contains (at_ n)
  match hits with
  | [a, b] =>
    let nearA := value.distance (at_ a)
    let nearB := value.distance (at_ b)
    if nearA.lt nearB then some a
    else if nearB.lt nearA then some b
    else if tie = .even && a % 2 = 0 then some a
    else some b
  | [a] => some a
  | _ => none

/-- The digits without the zeros at the end, and the exponent that makes up for them. -/
def dropZeros (digits : List Char) (exponent : Int) : List Char × Int :=
  let zeros := (digits.reverse.takeWhile (· = '0')).length
  (digits.take (digits.length - zeros), exponent + zeros)

/-- The fewest digits of a positive binary number, and the exponent of the last of them. -/
def Binary.shortest (tie : Tie) (b : Binary) : List Char × Int :=
  let value := b.value
  let interval := b.interval
  let top := value.magnitude
  let grids := (List.range 17).map fun (n : Nat) => top - (n : Int)
  let hit? (exponent : Int) : Option (Nat × Int) :=
    (candidate tie value interval exponent).map (·, exponent)
  match grids.findSome? hit? with
  | some (n, exponent) => dropZeros (Nat.toDigits 10 n) exponent
  | none => (['0'], 0)

/-- Whether a decimal stands for zero, for a positive binary number, or for one that is too large.
-/
inductive Rounded where
  | zero
  | finite (value : Binary)
  | infinite

/-- What a decimal stands for. Far outside the range of binary numbers the exponent decides. -/
def rounded (x : Decimal) : Rounded :=
  let size : Int := (Nat.toDigits 10 x.mantissa).length + x.exponent
  if x.mantissa = 0 || size < -400 then .zero
  else if 400 < size then .infinite
  else
    let binary := x.abs.toBinary
    if binary.significand = 0 then .zero
    else if binary.isFinite then .finite binary
    else .infinite

def isFinite (x : Decimal) : Bool :=
  match x.rounded with
  | .infinite => false
  | _ => true

end Decimal

end ManagedCluster
