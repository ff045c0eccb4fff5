/-! # Spans of time

A duration counts nanoseconds, up to the largest number of whole seconds in 64 bits. Arithmetic that
leaves this range fails. A duration is shown in whole milliseconds, split over the units from days
down, and a unit that would show zero is left out.
-/

namespace ManagedCluster

/-- One past the largest number of nanoseconds. -/
abbrev Duration.limit : Nat := UInt64.size * 1000000000

/-- A span of time. -/
structure Duration where
  /-- The whole span in nanoseconds. -/
  nanos : Nat
  lt_limit : nanos < Duration.limit
  deriving DecidableEq

/-- The units in which durations are written, the largest first. -/
inductive DurationUnit where
  | day
  | hour
  | minute
  | second
  | millisecond
  deriving Repr, DecidableEq

namespace DurationUnit

def all : List DurationUnit := [day, hour, minute, second, millisecond]

def millis : DurationUnit → Nat
  | day => 86400000
  | hour => 3600000
  | minute => 60000
  | second => 1000
  | millisecond => 1

/-- How the unit is written. -/
def text : DurationUnit → String
  | day => "d"
  | hour => "h"
  | minute => "m"
  | second => "s"
  | millisecond => "ms"

def ofText? (text : String) : Option DurationUnit :=
  all.find? fun unit => unit.text == text

theorem millis_pos (unit : DurationUnit) : 0 < unit.millis := by
  cases unit <;> decide

theorem ofText?_text (unit : DurationUnit) : ofText? unit.text = some unit := by
  cases unit <;> decide

end DurationUnit

namespace Duration

instance : Repr Duration where
  reprPrec duration _ := repr duration.nanos ++ "ns"

def zero : Duration := ⟨0, by decide⟩

instance : Inhabited Duration := ⟨zero⟩

/-- The duration of that many nanoseconds, if there is one. -/
def ofNanos? (nanos : Nat) : Option Duration :=
  if h : nanos < limit then some ⟨nanos, h⟩ else none

def ofSeconds (seconds : Nat) (h : seconds < UInt64.size := by decide) : Duration :=
  ⟨seconds * 1000000000, Nat.mul_lt_mul_of_pos_right h (by decide)⟩

/-- The whole seconds of a duration. -/
def seconds (duration : Duration) : Nat := duration.nanos / 1000000000

/-- The nanoseconds beyond the whole seconds. -/
def subsecondNanos (duration : Duration) : Nat := duration.nanos % 1000000000

def millis (duration : Duration) : Nat := duration.nanos / 1000000

instance : Ord Duration where
  compare a b := compare a.nanos b.nanos

instance : LE Duration where
  le a b := a.nanos ≤ b.nanos

instance : LT Duration where
  lt a b := a.nanos < b.nanos

instance (a b : Duration) : Decidable (a ≤ b) := inferInstanceAs (Decidable (a.nanos ≤ b.nanos))

instance (a b : Duration) : Decidable (a < b) := inferInstanceAs (Decidable (a.nanos < b.nanos))

instance : Min Duration where
  min a b := if a ≤ b then a else b

@[simp] theorem nanos_min (a b : Duration) : (min a b).nanos = min a.nanos b.nanos :=
  apply_ite nanos (a ≤ b) a b

/-- The duration, shortened to the given number of nanoseconds. -/
def atMost (duration : Duration) (nanos : Nat) : Duration :=
  ⟨min duration.nanos nanos, Nat.lt_of_le_of_lt (Nat.min_le_left _ _) duration.lt_limit⟩

/-- The ways in which arithmetic on durations fails. -/
inductive ArithmeticError where
  | create
  | add
  | sub
  | mul
  | divideByZero
  deriving Repr, DecidableEq

namespace ArithmeticError

def message : ArithmeticError → String
  | create => "overflow in Duration::new"
  | add => "overflow when adding durations"
  | sub => "overflow when subtracting durations"
  | mul => "overflow when multiplying duration by scalar"
  | divideByZero => "divide by zero error when dividing duration by scalar"

end ArithmeticError

/-- A number of nanoseconds as the result of an operation. -/
def checked (failure : ArithmeticError) (nanos : Nat) : Except ArithmeticError Duration :=
  match ofNanos? nanos with
  | some duration => .ok duration
  | none => .error failure

/-- The duration of some whole seconds and some nanoseconds, which may be more than a second. -/
def ofParts (seconds nanos : Nat) : Except ArithmeticError Duration :=
  checked .create (seconds * 1000000000 + nanos)

def add (a b : Duration) : Except ArithmeticError Duration :=
  checked .add (a.nanos + b.nanos)

def sub (a b : Duration) : Except ArithmeticError Duration :=
  if b.nanos ≤ a.nanos then checked .sub (a.nanos - b.nanos) else .error .sub

def mul (a : Duration) (factor : Nat) : Except ArithmeticError Duration :=
  checked .mul (a.nanos * factor)

theorem mul_of_lt {a : Duration} {factor : Nat} (fits : a.nanos * factor < limit) :
    a.mul factor = .ok ⟨a.nanos * factor, fits⟩ := by
  rw [mul, checked, ofNanos?, dif_pos fits]

theorem mul_of_le {a : Duration} {factor : Nat} (large : limit ≤ a.nanos * factor) :
    a.mul factor = .error .mul := by
  rw [mul, checked, ofNanos?, dif_neg (Nat.not_lt.mpr large)]

theorem mul_eq_error_iff {a : Duration} {factor : Nat} {failure : ArithmeticError} :
    a.mul factor = .error failure ↔ failure = .mul ∧ limit ≤ a.nanos * factor := by
  rcases Nat.lt_or_ge (a.nanos * factor) limit with fits | large
  · simp [mul_of_lt fits, fits]
  · simp [mul_of_le large, large, eq_comm]

/-- An equal part of a duration, rounded down to nanoseconds. -/
def div (a : Duration) (parts : Nat) : Except ArithmeticError Duration :=
  if parts = 0 then .error .divideByZero else checked .divideByZero (a.nanos / parts)

/-- The fragments of a number of milliseconds: for each unit how often it fits into what the larger
ones leave. -/
def split (millis : Nat) : List DurationUnit → List (Nat × DurationUnit)
  | [] => []
  | unit :: smaller => (millis / unit.millis, unit) :: split (millis % unit.millis) smaller

/-- A duration as it is shown. The part below a millisecond is not. -/
def text (duration : Duration) : String :=
  if duration.nanos = 0 then "0s"
  else
    String.join <| ((split duration.millis DurationUnit.all).filter (0 < ·.1)).map fun fragment =>
      toString fragment.1 ++ fragment.2.text

end Duration

end ManagedCluster
