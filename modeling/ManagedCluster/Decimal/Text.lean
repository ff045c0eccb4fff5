import ManagedCluster.Decimal.Shortest

/-! # Written forms of binary numbers

Two forms of the shortest digits are in use: one without exponents, and one that turns to exponents
outside a range of sizes. In both, a number without a fraction keeps a point and a zero.
-/

namespace ManagedCluster

namespace Decimal

/-- When a number is written with an exponent, and which digits it has. -/
structure Form where
  /-- The largest number of digits before the point that is written in full, if there is one. -/
  maxWhole : Option Int
  /-- The largest number of zeros after the point that is written in full, if there is one. -/
  maxZeros : Option Int
  tie : Tie

/-- All digits are written, whatever the size of the number, and a tie goes up. -/
def positional : Form := ⟨none, none, .larger⟩

/-- Up to sixteen digits before the point and four zeros after it are written in full, and a tie
goes to the even digit. Every exponent has a sign. -/
def scientific : Form := ⟨some 16, some 4, .even⟩

/-- The digits, the last at `10 ^ exponent`, in full. -/
def writeFull (digits : List Char) (exponent : Int) : List Char :=
  let point : Int := digits.length + exponent
  if 0 ≤ exponent then digits ++ List.replicate exponent.toNat '0' ++ ['.', '0']
  else if 0 < point then digits.take point.toNat ++ ('.' :: digits.drop point.toNat)
  else '0' :: '.' :: (List.replicate point.natAbs '0' ++ digits)

/-- The digits with an exponent. -/
def writeExponent (digits : List Char) (exponent : Int) : List Char :=
  let power : Int := digits.length + exponent - 1
  let ending := (if power < 0 then ['e', '-'] else ['e', '+']) ++ (toString power.natAbs).toList
  match digits with
  | first :: second :: rest => first :: '.' :: second :: (rest ++ ending)
  | short => short ++ ending

def write (form : Form) (digits : List Char) (exponent : Int) : List Char :=
  let point : Int := digits.length + exponent
  let tooLarge := form.maxWhole.any (· < point)
  let tooSmall := form.maxZeros.any (· < -point)
  if tooLarge || tooSmall then writeExponent digits exponent else writeFull digits exponent

/-- The binary number that a decimal stands for, in the given form. -/
def text (form : Form) (x : Decimal) : String :=
  let magnitude := match x.rounded with
    | .zero => ['0', '.', '0']
    | .finite value =>
      let (digits, exponent) := value.shortest form.tie
      write form digits exponent
    | .infinite => ['i', 'n', 'f']
  String.ofList (if x.negative then '-' :: magnitude else magnitude)

end Decimal

end ManagedCluster
