import Mathlib.Data.List.Perm.Subperm
import ManagedCluster.Duration.Parse
import ManagedCluster.Proofs.Numeral
import ManagedCluster.Proofs.Result

/-! # The grammar of written durations

A written duration is a row of amounts, each a numeral and a unit, with the units strictly
decreasing. A text that is no such row is a row with something else after it, and the first thing
that is wrong there says how reading fails.
-/

namespace ManagedCluster

namespace Duration

/-- A numeral and a unit, written one after the other. -/
@[ext] structure Amount where
  numeral : List Char
  number : Nat
  unit : DurationUnit
  writes : Numeral.Writes number numeral

namespace Amount

def chars (amount : Amount) : List Char := amount.numeral ++ amount.unit.text.toList

def millis (amount : Amount) : Nat := amount.number * amount.unit.millis

def fragment (amount : Amount) : Fragment := ⟨amount.numeral, amount.unit.text.toList⟩

/-- The number in digits, with no zeros before it. -/
def ofNat (number : Nat) (unit : DurationUnit) : Amount :=
  ⟨Nat.toDigits 10 number, number, unit, Numeral.writes_toDigits number⟩

end Amount

/-- The amounts, written one after the other. -/
def written (amounts : List Amount) : List Char := amounts.flatMap Amount.chars

/-- The milliseconds of all amounts together. -/
def total : List Amount → Nat
  | [] => 0
  | amount :: rest => amount.millis + total rest

def lastUnit? (amounts : List Amount) : Option DurationUnit := (amounts.map (·.unit)).getLast?

/-- The units strictly decrease, and 64 bits hold each number and its milliseconds. -/
structure Readable (amounts : List Amount) : Prop where
  descending : amounts.Pairwise fun a b => b.unit.millis < a.unit.millis
  inRange : ∀ amount ∈ amounts, amount.number < UInt64.size ∧ amount.millis < UInt64.size

/-- The text starts with these two longest runs: first characters that are no letters, at least one,
and then letters. -/
structure Runs (cs value unit rest : List Char) : Prop where
  split : cs = value ++ (unit ++ rest)
  some : value ≠ []
  values : ∀ c ∈ value, c.isAlpha = false
  units : ∀ c ∈ unit, c.isAlpha
  valueEnds : ∀ c ∈ (unit ++ rest).head?, c.isAlpha
  unitEnds : ∀ c ∈ rest.head?, c.isAlpha = false

/-- What is wrong with two runs after a unit. The numeral is looked at first, then whether there is
a unit, whether it is known, whether it is smaller than the last one, and whether 64 bits hold the
milliseconds. -/
inductive Offence (last : Option DurationUnit) (value unit : List Char) :
    DurationParseError → Prop
  | badValue {reason : NumeralError} (fault : Numeral.Fault UInt64.size value reason) :
      Offence last value unit (.badValue (String.ofList value) reason)
  | noUnit {number : Nat} (writes : Numeral.Writes number value) (below : number < UInt64.size)
      (missing : unit = []) : Offence last value unit (.noUnit number)
  | unknownUnit {number : Nat} (writes : Numeral.Writes number value)
      (below : number < UInt64.size) (present : unit ≠ [])
      (unknown : ∀ known : DurationUnit, known.text.toList ≠ unit) :
      Offence last value unit (.unknownUnit (String.ofList unit))
  | unitOrder {number : Nat} {previous current : DurationUnit}
      (writes : Numeral.Writes number value) (below : number < UInt64.size)
      (known : current.text.toList = unit) (follows : last = some previous)
      (larger : previous.millis < current.millis) :
      Offence last value unit (.unitOrder previous current)
  | duplicateUnit {number : Nat} {current : DurationUnit}
      (writes : Numeral.Writes number value) (below : number < UInt64.size)
      (known : current.text.toList = unit) (follows : last = some current) :
      Offence last value unit (.duplicateUnit current)
  | overflow {number : Nat} {current : DurationUnit} (writes : Numeral.Writes number value)
      (below : number < UInt64.size) (known : current.text.toList = unit)
      (smaller : ∀ previous ∈ last, current.millis < previous.millis)
      (large : UInt64.size ≤ number * current.millis) : Offence last value unit .overflow

/-- All characters are in ASCII. -/
def IsAscii (cs : List Char) : Prop := ∀ c ∈ cs, c.toNat < 128

/-- The first thing that is wrong with a text. All of it is looked at for characters outside ASCII
before anything else. -/
inductive FirstOffence (cs : List Char) : DurationParseError → Prop
  | nothing (empty : cs = []) : FirstOffence cs .invalidInput
  | notAscii (foreign : ¬ IsAscii cs) : FirstOffence cs .invalidInput
  | letter {c : Char} {rest : List Char} (ascii : IsAscii cs) (starts : cs = c :: rest)
      (letter : c.isAlpha) : FirstOffence cs (.unexpectedCharacter c)
  | amount {before : List Amount} {tail value unit rest : List Char} {error : DurationParseError}
      (ascii : IsAscii cs) (readable : Readable before) (split : cs = written before ++ tail)
      (runs : Runs tail value unit rest) (offence : Offence (lastUnit? before) value unit error) :
      FirstOffence cs error

section Characters

variable {c : Char}

theorem isBlank_of_isDigit (digit : c.isDigit) : Text.isBlank c = false := by
  have range : 48 ≤ c.toNat ∧ c.toNat ≤ 57 := Char.isDigit_iff_toNat.mp digit
  simp only [Text.isBlank, Bool.or_eq_false_iff, Bool.and_eq_false_iff, decide_eq_false_iff_not,
    beq_eq_false_iff_ne]
  omega

theorem isAlpha_of_isDigit (digit : c.isDigit) : c.isAlpha = false := by
  have range : 48 ≤ c.toNat ∧ c.toNat ≤ 57 := Char.isDigit_iff_toNat.mp digit
  have letters : c.isAlpha = (decide ('A'.val ≤ c.val ∧ c.val ≤ 'Z'.val) ||
      (decide ('a'.val ≤ c.val) && decide (c.val ≤ 'z'.val))) := rfl
  simp only [letters, Bool.or_eq_false_iff, Bool.and_eq_false_iff, decide_eq_false_iff_not,
    UInt32.le_iff_toNat_le]
  simp only [Char.toNat] at range
  have upper : ('A' : Char).val.toNat = 65 := rfl
  have lower : ('a' : Char).val.toNat = 97 := rfl
  omega

end Characters

theorem mem_numeral {number : Nat} {cs : List Char} (writes : Numeral.Writes number cs) :
    ∀ c ∈ cs, c.isDigit ∨ c = '+' := by
  obtain ⟨digits, -, all, rfl | rfl, -⟩ := writes
  · exact fun c member => .inl (all c member)
  · intro c member
    rcases List.mem_cons.mp member with rfl | member
    · exact .inr rfl
    · exact .inl (all c member)

theorem ne_nil_of_writes {number : Nat} {cs : List Char} (writes : Numeral.Writes number cs) :
    cs ≠ [] := by
  obtain ⟨digits, some, -, rfl | rfl, -⟩ := writes
  · exact some
  · exact List.cons_ne_nil _ _

namespace Runs

variable {cs value unit rest : List Char}

theorem fragments_eq (runs : Runs cs value unit rest) :
    fragments cs = ⟨value, unit⟩ :: fragments rest := by
  have valueTest : ∀ c ∈ value, (!c.isAlpha) = true := fun c member => by
    rw [runs.values c member]
    rfl
  have afterValue : (unit ++ rest).takeWhile (!·.isAlpha) = [] ∧
      (unit ++ rest).dropWhile (!·.isAlpha) = unit ++ rest := by
    have ends := runs.valueEnds
    cases letters : unit ++ rest with
    | nil => exact ⟨rfl, rfl⟩
    | cons letter others =>
        rw [letters] at ends
        simp [ends letter rfl]
  have afterUnit : rest.takeWhile (·.isAlpha) = [] ∧ rest.dropWhile (·.isAlpha) = rest := by
    have ends := runs.unitEnds
    cases rest with
    | nil => exact ⟨rfl, rfl⟩
    | cons c others => simp [ends c rfl]
  have taken : cs.takeWhile (!·.isAlpha) = value := by
    rw [runs.split, List.takeWhile_append_of_pos valueTest, afterValue.1, List.append_nil]
  have dropped : cs.dropWhile (!·.isAlpha) = unit ++ rest := by
    rw [runs.split, List.dropWhile_append_of_pos valueTest, afterValue.2]
  cases cs with
  | nil => exact absurd (List.append_eq_nil_iff.mp runs.split.symm).1 runs.some
  | cons c others =>
      rw [fragments, afterFragment, taken, dropped, List.takeWhile_append_of_pos runs.units,
        List.dropWhile_append_of_pos runs.units, afterUnit.1, afterUnit.2, List.append_nil]

theorem length_lt (runs : Runs cs value unit rest) : rest.length < cs.length := by
  have some := List.length_pos_iff.mpr runs.some
  rw [runs.split, List.length_append, List.length_append]
  omega

end Runs

theorem exists_runs {c : Char} (noLetter : c.isAlpha = false) (cs : List Char) :
    ∃ value unit rest, Runs (c :: cs) value unit rest := by
  let text := c :: cs
  refine ⟨text.takeWhile (!·.isAlpha), (text.dropWhile (!·.isAlpha)).takeWhile (·.isAlpha),
    (text.dropWhile (!·.isAlpha)).dropWhile (·.isAlpha), ?_, ?_, ?_, ?_, ?_, ?_⟩
  · rw [List.takeWhile_append_dropWhile, List.takeWhile_append_dropWhile]
  · simp [text, noLetter]
  · intro d member
    simpa using List.all_eq_true.mp List.all_takeWhile d member
  · intro d member
    exact List.all_eq_true.mp List.all_takeWhile d member
  · rw [List.takeWhile_append_dropWhile]
    intro d member
    have first := List.head?_dropWhile_not (fun c : Char => !c.isAlpha) text
    rw [Option.mem_def.mp member] at first
    simpa using first
  · intro d member
    have first := List.head?_dropWhile_not Char.isAlpha (text.dropWhile (!·.isAlpha))
    rw [Option.mem_def.mp member] at first
    simpa using first

theorem mem_unitText {unit : DurationUnit} :
    ∀ c ∈ unit.text.toList, c.isAlpha ∧ c.toNat < 128 ∧ Text.isBlank c = false := by
  intro c member
  have all : (unit.text.toList.all fun c =>
      c.isAlpha && (decide (c.toNat < 128) && !Text.isBlank c)) = true := by
    cases unit <;> rfl
  have checked := List.all_eq_true.mp all c member
  simpa only [Bool.and_eq_true, decide_eq_true_eq, Bool.not_eq_true'] using checked

theorem unitText_ne_nil (unit : DurationUnit) : unit.text.toList ≠ [] := by
  cases unit <;> decide

section Amounts

variable {amount : Amount} {amounts : List Amount} {cs rest : List Char}

theorem isAlpha_of_mem_numeral {c : Char} (member : c ∈ amount.numeral) : c.isAlpha = false := by
  rcases mem_numeral amount.writes c member with digit | rfl
  · exact isAlpha_of_isDigit digit
  · rfl

theorem Amount.runs (amount : Amount) (stop : ∀ c ∈ rest.head?, c.isAlpha = false) :
    Runs (amount.chars ++ rest) amount.numeral amount.unit.text.toList rest where
  split := List.append_assoc _ _ _
  some := ne_nil_of_writes amount.writes
  values _ member := isAlpha_of_mem_numeral member
  units c member := (mem_unitText c member).1
  valueEnds c first := by
    cases letters : amount.unit.text.toList with
    | nil => exact absurd letters (unitText_ne_nil amount.unit)
    | cons letter others =>
        rw [letters] at first
        obtain rfl : letter = c := by simpa using first
        exact (mem_unitText letter (by rw [letters]; exact List.mem_cons_self)).1
  unitEnds := stop

theorem written_cons (amount : Amount) (amounts : List Amount) :
    written (amount :: amounts) = amount.chars ++ written amounts := List.flatMap_cons

/-- No row of amounts starts with a letter. -/
theorem head?_written (amounts : List Amount) (stop : ∀ c ∈ rest.head?, c.isAlpha = false) :
    ∀ c ∈ (written amounts ++ rest).head?, c.isAlpha = false := by
  cases amounts with
  | nil => exact stop
  | cons amount amounts =>
      intro c first
      cases numeral : amount.numeral with
      | nil => exact absurd numeral (ne_nil_of_writes amount.writes)
      | cons d others =>
          rw [written_cons, Amount.chars, numeral] at first
          obtain rfl : d = c := by simpa using first
          have inNumeral : d ∈ amount.numeral := by
            rw [numeral]
            exact List.mem_cons_self
          exact isAlpha_of_mem_numeral inNumeral

theorem fragments_written (amounts : List Amount) (stop : ∀ c ∈ rest.head?, c.isAlpha = false) :
    fragments (written amounts ++ rest) = amounts.map Amount.fragment ++ fragments rest := by
  induction amounts with
  | nil => rfl
  | cons amount amounts ih =>
      have runs := amount.runs (head?_written amounts stop)
      rw [written_cons, List.append_assoc, runs.fragments_eq, ih]
      rfl

theorem mem_written : ∀ c ∈ written amounts, c.toNat < 128 ∧ Text.isBlank c = false := by
  intro c member
  obtain ⟨amount, -, member⟩ := List.mem_flatMap.mp member
  rcases List.mem_append.mp member with numeral | letter
  · rcases mem_numeral amount.writes c numeral with digit | rfl
    · have range : 48 ≤ c.toNat ∧ c.toNat ≤ 57 := Char.isDigit_iff_toNat.mp digit
      exact ⟨by omega, isBlank_of_isDigit digit⟩
    · decide
  · exact (mem_unitText c letter).2

theorem isAscii_written (amounts : List Amount) : IsAscii (written amounts) :=
  fun c member => (mem_written c member).1

theorem trimBlanks_written (amounts : List Amount) :
    Text.trimBlanks (written amounts) = written amounts :=
  Text.trimBlanks_of_noBlanks fun c member => (mem_written c member).2

end Amounts

section Fragments

variable {previous : Option DurationUnit} {value unit : List Char} {number : Nat}
  {current : DurationUnit}

theorem ofText?_ofList (known : current.text.toList = unit) :
    DurationUnit.ofText? (String.ofList unit) = some current := by
  rw [← known, String.ofList_toList, DurationUnit.ofText?_text]

theorem ofText?_of_unknown (unknown : ∀ known : DurationUnit, known.text.toList ≠ unit) :
    DurationUnit.ofText? (String.ofList unit) = none := by
  refine List.find?_eq_none.mpr fun known _ same => unknown known ?_
  rw [beq_iff_eq.mp same, String.toList_ofList]

/-- Once the numeral and the unit are known, the unit is compared with the last one, and then the
milliseconds are counted. -/
theorem readFragment_of_known (some : value ≠ [])
    (read : Numeral.read UInt64.size value = .ok number) (known : current.text.toList = unit) :
    readFragment previous ⟨value, unit⟩ =
      if previous.any fun last => last.millis < current.millis then
        .error (.unitOrder (previous.getD current) current)
      else if previous = .some current then .error (.duplicateUnit current)
      else if number * current.millis < UInt64.size then .ok (number * current.millis, current)
      else .error .overflow := by
  have present : unit.isEmpty = false := by
    rw [← known]
    exact List.isEmpty_eq_false_iff.mpr (unitText_ne_nil current)
  cases value with
  | nil => exact absurd rfl some
  | cons c value =>
      simp only [readFragment, read, ofText?_ofList known, present, Except.mapError, ok_bind,
        Bool.false_eq_true, if_false]
      cases previous with
      | none => simp; rfl
      | some last => simp; rfl

theorem readFragment_of_smaller (some : value ≠ [])
    (read : Numeral.read UInt64.size value = .ok number) (known : current.text.toList = unit)
    (smaller : ∀ last ∈ previous, current.millis < last.millis) :
    readFragment previous ⟨value, unit⟩ =
      if number * current.millis < UInt64.size then .ok (number * current.millis, current)
      else .error .overflow := by
  have inOrder : (previous.any fun last => last.millis < current.millis) = false := by
    cases previous with
    | none => rfl
    | some last => exact decide_eq_false (Nat.lt_asymm (smaller last rfl))
  have different : previous ≠ .some current := fun follows =>
    Nat.lt_irrefl _ (smaller current follows)
  rw [readFragment_of_known some read known, inOrder, if_neg Bool.false_ne_true, if_neg different]

theorem readFragment_of_offence {error : DurationParseError} (some : value ≠ [])
    (offence : Offence previous value unit error) :
    readFragment previous ⟨value, unit⟩ = .error error := by
  have read {number : Nat} (writes : Numeral.Writes number value)
      (below : number < UInt64.size) : Numeral.read UInt64.size value = .ok number :=
    Numeral.read_of_writes writes below
  cases offence with
  | badValue fault =>
      have fails := Numeral.read_of_fault (by decide) fault
      cases value with
      | nil => exact absurd rfl some
      | cons c value => simp only [readFragment, fails, Except.mapError, error_bind]
  | noUnit writes below missing =>
      subst missing
      cases value with
      | nil => exact absurd rfl some
      | cons c value =>
          simp only [readFragment, read writes below, Except.mapError, ok_bind, List.isEmpty_nil,
            if_true]
          rfl
  | unknownUnit writes below present unknown =>
      have absent : unit.isEmpty = false := List.isEmpty_eq_false_iff.mpr present
      cases value with
      | nil => exact absurd rfl some
      | cons c value =>
          simp only [readFragment, read writes below, Except.mapError, ok_bind, absent,
            Bool.false_eq_true, if_false, ofText?_of_unknown unknown]
          rfl
  | @unitOrder number previous current writes below known follows larger =>
      have above : ((Option.some previous).any fun last => last.millis < current.millis) = true :=
        decide_eq_true larger
      rw [readFragment_of_known some (read writes below) known, follows, above, if_pos rfl,
        Option.getD_some]
  | @duplicateUnit number current writes below known follows =>
      have equal : ((Option.some current).any fun last => last.millis < current.millis) = false :=
        decide_eq_false (Nat.lt_irrefl _)
      rw [readFragment_of_known some (read writes below) known, follows, equal,
        if_neg Bool.false_ne_true, if_pos rfl]
  | overflow writes below known smaller large =>
      rw [readFragment_of_smaller some (read writes below) known smaller,
        if_neg (Nat.not_lt.mpr large)]

theorem readFragment_of_amount {amount : Amount} (below : amount.number < UInt64.size)
    (fits : amount.millis < UInt64.size)
    (smaller : ∀ last ∈ previous, amount.unit.millis < last.millis) :
    readFragment previous amount.fragment = .ok (amount.millis, amount.unit) := by
  have read := Numeral.read_of_writes amount.writes below
  rw [Amount.fragment, readFragment_of_smaller (ne_nil_of_writes amount.writes) read rfl smaller]
  exact if_pos fits

end Fragments

end Duration

end ManagedCluster
