import ManagedCluster.Numeral

/-! # What numerals write

A numeral is one or more digits, perhaps after a plus sign. A text that is none of a number in range
fails by its first fault from the left: a run of digits that is too large already, or a character
that is no digit.
-/

namespace ManagedCluster

namespace Numeral

/-- The characters are a numeral of the number. It may start with zeros. -/
def Writes (number : Nat) (cs : List Char) : Prop :=
  ∃ digits, digits ≠ [] ∧ (∀ c ∈ digits, c.isDigit) ∧ (cs = digits ∨ cs = '+' :: digits) ∧
    Nat.ofDigitChars 10 digits 0 = number

/-- The digits at the start are out of range, whatever follows. -/
def StartsTooLarge (bound : Nat) (cs : List Char) : Prop :=
  ∃ digits rest, (∀ c ∈ digits, c.isDigit) ∧
    (cs = digits ++ rest ∨ cs = '+' :: (digits ++ rest)) ∧ bound ≤ Nat.ofDigitChars 10 digits 0

/-- Why the characters are no numeral of a number below the bound. -/
inductive Fault (bound : Nat) (cs : List Char) : NumeralError → Prop
  | empty (nothing : cs = []) : Fault bound cs .empty
  | tooLarge (starts : StartsTooLarge bound cs) : Fault bound cs .tooLarge
  | invalidDigit (something : cs ≠ []) (inRange : ¬ StartsTooLarge bound cs)
      (noNumeral : ∀ number, ¬ Writes number cs) : Fault bound cs .invalidDigit

theorem writes_toDigits (n : Nat) : Writes n (Nat.toDigits 10 n) :=
  ⟨_, Nat.toDigits_ne_nil,
    fun _ member => Nat.isDigit_of_mem_toDigits (by decide) (by decide) member, .inl rfl,
    Nat.ofDigitChars_ten_toDigits⟩

/-- Every text is a numeral in range or has a fault. -/
theorem writes_or_fault (bound : Nat) (cs : List Char) :
    (∃ number < bound, Writes number cs) ∨ ∃ reason, Fault bound cs reason := by
  by_cases starts : StartsTooLarge bound cs
  · exact .inr ⟨_, .tooLarge starts⟩
  · by_cases numeral : ∃ number, Writes number cs
    · obtain ⟨number, digits, some, all, split, value⟩ := numeral
      refine .inl ⟨number, Nat.lt_of_not_le fun large => ?_, digits, some, all, split, value⟩
      exact starts ⟨digits, [], all, by simpa using split, by omega⟩
    · by_cases nothing : cs = []
      · exact .inr ⟨_, .empty nothing⟩
      · exact .inr ⟨_, .invalidDigit nothing starts (not_exists.mp numeral)⟩

section Reading

variable {bound number : Nat} {digits body cs : List Char}

theorem digit?_of_isDigit {c : Char} (h : c.isDigit) : digit? c = some (c.toNat - '0'.toNat) := by
  have range : '0'.toNat ≤ c.toNat ∧ c.toNat ≤ '9'.toNat := Char.isDigit_iff_toNat.mp h
  have inside : '0' ≤ c ∧ c ≤ '9' :=
    ⟨UInt32.le_iff_toNat_le.mpr range.1, UInt32.le_iff_toNat_le.mpr range.2⟩
  simp only [digit?, if_pos inside]

theorem digit?_of_not_isDigit {c : Char} (h : c.isDigit = false) : digit? c = none := by
  have outside : ¬ ('0' ≤ c ∧ c ≤ '9') := by
    rintro ⟨low, high⟩
    have digit : c.isDigit := Char.isDigit_iff_toNat.mpr
      ⟨UInt32.le_iff_toNat_le.mp low, UInt32.le_iff_toNat_le.mp high⟩
    cases h.symm.trans digit
  simp only [digit?, if_neg outside]

/-- Digits are read to their number, unless it leaves the range on the way. -/
theorem readFrom_append (all : ∀ c ∈ digits, c.isDigit) (rest : List Char) {start : Nat}
    (below : start < bound) :
    readFrom bound start (digits ++ rest) =
      if Nat.ofDigitChars 10 digits start < bound then
        readFrom bound (Nat.ofDigitChars 10 digits start) rest
      else .error .tooLarge := by
  induction digits generalizing start with
  | nil => simp only [List.nil_append, Nat.ofDigitChars_nil, if_pos below]
  | cons c digits ih =>
      have digitsAll : ∀ c ∈ digits, c.isDigit := fun c member =>
        all c (List.mem_cons_of_mem _ member)
      have value : digit? c = some (c.toNat - '0'.toNat) :=
        digit?_of_isDigit (all c List.mem_cons_self)
      simp only [List.cons_append, readFrom, value, Nat.ofDigitChars_cons, Nat.mul_comm 10 start]
      split
      · next fits => exact ih digitsAll fits
      · next tooLarge =>
          -- a number only grows while more digits are read
          have grows : start * 10 + (c.toNat - '0'.toNat) ≤
              Nat.ofDigitChars 10 digits (start * 10 + (c.toNat - '0'.toNat)) := by
            rw [Nat.ofDigitChars_eq_ofDigitChars_zero]
            exact Nat.le_add_right_of_le (Nat.le_mul_of_pos_left _ (Nat.pow_pos (by decide)))
          rw [if_neg fun fits => tooLarge (Nat.lt_of_le_of_lt grows fits)]

theorem read_of_ne_plus {c : Char} (noPlus : c ≠ '+') (rest : List Char) :
    read bound (c :: rest) = readFrom bound 0 (c :: rest) := by
  unfold read
  split
  · next empty => cases empty
  · next plus => exact absurd (List.cons.inj plus).1 noPlus
  · next plus => exact absurd (List.cons.inj plus).1 noPlus
  · rfl

theorem read_plus (some : body ≠ []) : read bound ('+' :: body) = readFrom bound 0 body := by
  cases body with
  | nil => exact absurd rfl some
  | cons c rest => rfl

/-- A plus sign before digits does not matter. -/
theorem read_of_digits (some : digits ≠ []) (all : ∀ c ∈ digits, c.isDigit) {rest : List Char}
    (split : cs = digits ++ rest ∨ cs = '+' :: (digits ++ rest)) :
    read bound cs = readFrom bound 0 (digits ++ rest) := by
  cases digits with
  | nil => exact absurd rfl some
  | cons c digits =>
      rcases split with rfl | rfl
      · refine read_of_ne_plus ?_ _
        rintro rfl
        exact absurd (all '+' List.mem_cons_self) (by decide)
      · exact read_plus (List.cons_ne_nil _ _)

theorem read_of_writes (writes : Writes number cs) (below : number < bound) :
    read bound cs = .ok number := by
  obtain ⟨digits, some, all, split, rfl⟩ := writes
  have positive : 0 < bound := Nat.zero_lt_of_lt below
  have nothingElse : cs = digits ++ [] ∨ cs = '+' :: (digits ++ []) := by rwa [List.append_nil]
  rw [read_of_digits some all nothingElse, readFrom_append all [] positive,
    if_pos below, readFrom]

theorem read_of_startsTooLarge (positive : 0 < bound) (starts : StartsTooLarge bound cs) :
    read bound cs = .error .tooLarge := by
  obtain ⟨digits, rest, all, split, large⟩ := starts
  have some : digits ≠ [] := by
    rintro rfl
    exact absurd large (Nat.not_le.mpr positive)
  rw [read_of_digits some all split, readFrom_append all rest positive,
    if_neg (Nat.not_lt.mpr large)]

/-- What is no numeral and does not start too large has a character that is no digit. -/
theorem readFrom_of_invalid (positive : 0 < bound) (some : body ≠ [])
    (split : cs = body ∨ cs = '+' :: body) (inRange : ¬ StartsTooLarge bound cs)
    (noNumeral : ∀ number, ¬ Writes number cs) :
    readFrom bound 0 body = .error .invalidDigit := by
  have all : ∀ c ∈ body.takeWhile Char.isDigit, c.isDigit := fun c member =>
    List.all_eq_true.mp List.all_takeWhile c member
  have whole : body.takeWhile Char.isDigit ++ body.dropWhile Char.isDigit = body :=
    List.takeWhile_append_dropWhile
  have below : Nat.ofDigitChars 10 (body.takeWhile Char.isDigit) 0 < bound :=
    Nat.lt_of_not_le fun large => inRange ⟨_, _, all, by rwa [whole], large⟩
  rw [← whole, readFrom_append all _ positive, if_pos below]
  cases rest : body.dropWhile Char.isDigit with
  | nil =>
      rw [rest, List.append_nil] at whole
      rw [whole] at all
      exact absurd ⟨body, some, all, split, rfl⟩ (noNumeral _)
  | cons c more =>
      have noDigit : c.isDigit = false := by
        have first := List.head?_dropWhile_not Char.isDigit body
        rw [rest] at first
        simpa using first
      rw [readFrom, digit?_of_not_isDigit noDigit]

theorem read_of_fault (positive : 0 < bound) {reason : NumeralError}
    (fault : Fault bound cs reason) : read bound cs = .error reason := by
  cases fault with
  | empty nothing => rw [nothing, read]
  | tooLarge starts => exact read_of_startsTooLarge positive starts
  | invalidDigit something inRange noNumeral =>
      cases cs with
      | nil => exact absurd rfl something
      | cons c rest =>
          by_cases plus : c = '+'
          · subst plus
            cases rest with
            | nil => rfl
            | cons d more =>
                rw [read_plus (List.cons_ne_nil _ _)]
                exact readFrom_of_invalid positive (List.cons_ne_nil _ _) (.inr rfl) inRange
                  noNumeral
          · rw [read_of_ne_plus plus]
            exact readFrom_of_invalid positive (List.cons_ne_nil _ _) (.inl rfl) inRange noNumeral

end Reading

end Numeral

end ManagedCluster
