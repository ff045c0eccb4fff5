import ManagedCluster.Duration.Basic
import ManagedCluster.Numeral
import ManagedCluster.Text.Blank
import ManagedCluster.Text.Quoted

/-! # Reading durations

A written duration is a row of fragments, each a numeral followed by a unit, with the units strictly
decreasing in size. All that stands before a unit's first letter belongs to its numeral, so `1.5s`
has a bad numeral and not a bad unit.
-/

namespace ManagedCluster

/-- The first thing that is wrong with a written duration. -/
inductive DurationParseError where
  /-- Nothing is written, or some of it is outside ASCII. -/
  | invalidInput
  /-- The text starts with a letter. -/
  | unexpectedCharacter (c : Char)
  /-- The last numeral has no unit. -/
  | noUnit (value : Nat)
  /-- A larger unit follows a smaller one. -/
  | unitOrder (previous current : DurationUnit)
  /-- A unit follows itself. -/
  | duplicateUnit (unit : DurationUnit)
  | unknownUnit (unit : String)
  | badValue (value : String) (reason : NumeralError)
  | overflow
  deriving Repr, DecidableEq

/-- Whether the form of the text is wrong, or one of its numbers. -/
inductive DurationErrorKind where
  | format
  | parse
  deriving Repr, DecidableEq

namespace DurationParseError

def kind : DurationParseError → DurationErrorKind
  | badValue _ _ | overflow => .parse
  | _ => .format

def message : DurationParseError → String
  | invalidInput => "invalid input, either empty or contains non-ascii characters"
  | unexpectedCharacter c => "unexpected character '" ++ String.singleton c ++ "'"
  | noUnit value => "fragment with value " ++ toString value ++ " has no unit"
  | unitOrder previous current =>
    "invalid fragment order, " ++ current.text ++ " must be before " ++ previous.text
  | duplicateUnit unit => "fragment unit " ++ unit.text ++ " was specified multiple times"
  | unknownUnit unit => "failed to parse fragment unit " ++ Text.quoted unit
  | badValue value _ => "failed to parse fragment value " ++ Text.quoted value ++ " as integer"
  | overflow => "duration does not fit into the supported range"

def causes : DurationParseError → List String
  | badValue _ reason => [reason.message]
  | _ => []

end DurationParseError

namespace Duration

/-- A run of characters that are no letters, and the run of letters after it. -/
structure Fragment where
  value : List Char
  unit : List Char
  deriving Repr, DecidableEq

/-- The text after its first fragment. -/
def afterFragment (cs : List Char) : List Char :=
  (cs.dropWhile (!·.isAlpha)).dropWhile (·.isAlpha)

theorem length_afterFragment_lt (c : Char) (cs : List Char) :
    (afterFragment (c :: cs)).length < (c :: cs).length := by
  have drop (p : Char → Bool) (l : List Char) : (l.dropWhile p).length ≤ l.length :=
    (List.dropWhile_sublist p).length_le
  unfold afterFragment
  by_cases h : c.isAlpha
  · simp only [List.dropWhile, h, Bool.not_true, List.length_cons]
    exact Nat.lt_succ_of_le (drop _ _)
  · simp only [List.dropWhile, h, Bool.not_false, List.length_cons]
    exact Nat.lt_succ_of_le (Nat.le_trans (drop _ _) (drop _ _))

/-- The text cut into fragments. Only the first can lack a value, and only the last a unit. -/
def fragments : List Char → List Fragment
  | [] => []
  | c :: cs =>
    let text := c :: cs
    ⟨text.takeWhile (!·.isAlpha), (text.dropWhile (!·.isAlpha)).takeWhile (·.isAlpha)⟩
      :: fragments (afterFragment text)
termination_by cs => cs.length
decreasing_by exact length_afterFragment_lt c cs

/-- The milliseconds and the unit of a fragment that follows one with the given unit. -/
def readFragment (previous : Option DurationUnit) (fragment : Fragment) :
    Except DurationParseError (Nat × DurationUnit) := do
  match fragment.value, fragment.unit with
  | [], letter :: _ => throw (.unexpectedCharacter letter)
  | value, unitText =>
    let number ← (Numeral.read UInt64.size value).mapError (.badValue (String.ofList value))
    if unitText.isEmpty then throw (.noUnit number)
    let some unit := DurationUnit.ofText? (String.ofList unitText)
      | throw (.unknownUnit (String.ofList unitText))
    if let some last := previous then
      if last.millis < unit.millis then throw (.unitOrder last unit)
      if last = unit then throw (.duplicateUnit unit)
    if number * unit.millis < UInt64.size then return (number * unit.millis, unit)
    else throw .overflow

def readFragments (previous : Option DurationUnit) : List Fragment → Except DurationParseError Nat
  | [] => .ok 0
  | fragment :: rest => do
    let (millis, unit) ← readFragment previous fragment
    let others ← readFragments (some unit) rest
    return millis + others

/-- The duration that a text writes. -/
def parse (text : String) : Except DurationParseError Duration := do
  let trimmed := Text.trimBlanks text.toList
  if trimmed.isEmpty || !trimmed.all (·.toNat < 128) then throw .invalidInput
  let millis ← readFragments none (fragments trimmed)
  match ofNanos? (millis * 1000000) with
  | some duration => return duration
  | none => throw .overflow

/-- Whole seconds as the provider writes them. -/
def encodeSeconds (seconds : Nat) : String := toString seconds ++ DurationUnit.second.text

/-- The whole seconds of a written duration. -/
def decodeSeconds (text : String) : Except DurationParseError Nat :=
  (parse text).map seconds

end Duration

end ManagedCluster
