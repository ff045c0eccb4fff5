import ManagedCluster.Document.Resolution

/-! # Written numbers in texts

A natural number is written in decimal digits, the first of which is only zero if there are no
others. So its digits are never taken for a number in another base, nor for a text.
-/

namespace ManagedCluster

namespace Scalar

variable {n : Nat} {c : Char} {cs rest : List Char}

theorem isDigit_of_mem (member : c ∈ Nat.toDigits 10 n) : c.isDigit = true :=
  Nat.isDigit_of_mem_toDigits (by decide) (by decide) member

/-- A leading zero is the only digit. -/
theorem eq_nil_of_toDigits (zero : Nat.toDigits 10 n = '0' :: rest) : rest = [] := by
  induction n using Nat.strongRecOn generalizing rest with
  | ind n ih =>
      by_cases small : n < 10
      · rw [Nat.toDigits_of_lt_base small] at zero
        exact (List.cons.inj zero).2.symm
      · have large : 10 ≤ n := Nat.le_of_not_lt small
        rw [Nat.toDigits_of_base_le (by decide) large] at zero
        cases front : Nat.toDigits 10 (n / 10) with
        | nil => exact absurd front Nat.toDigits_ne_nil
        | cons first others =>
            rw [front, List.cons_append, List.cons.injEq] at zero
            obtain ⟨rfl, -⟩ := zero
            obtain rfl := ih (n / 10) (by omega) front
            -- the number in front of the last digit would be zero
            have value : Nat.ofDigitChars 10 (Nat.toDigits 10 (n / 10)) 0 = 0 := by
              rw [front]
              rfl
            rw [Nat.ofDigitChars_ten_toDigits] at value
            omega

theorem digitIn?_of_isDigit (digit : c.isDigit = true) :
    digitIn? 10 c = some (c.toNat - '0'.toNat) := by
  have range : '0'.toNat ≤ c.toNat ∧ c.toNat ≤ '9'.toNat := Char.isDigit_iff_toNat.mp digit
  have inside : '0' ≤ c ∧ c ≤ '9' :=
    ⟨UInt32.le_iff_toNat_le.mpr range.1, UInt32.le_iff_toNat_le.mpr range.2⟩
  have small : c.toNat - '0'.toNat < 10 := by
    have last : '9'.toNat = '0'.toNat + 9 := rfl
    omega
  simp only [digitIn?, if_pos inside, Option.filter_some, small, decide_true, if_true]

theorem foldlM_digits (all : ∀ c ∈ cs, c.isDigit = true) (start : Nat) :
    cs.foldlM (fun number c => (digitIn? 10 c).map (number * 10 + ·)) start =
      some (Nat.ofDigitChars 10 cs start) := by
  induction cs generalizing start with
  | nil => simp
  | cons c rest ih =>
      obtain ⟨digit, others⟩ := List.forall_mem_cons.mp all
      rw [List.foldlM_cons, digitIn?_of_isDigit digit, Nat.ofDigitChars_cons, Nat.mul_comm 10]
      exact ih others _

theorem digits?_toDigits : digits? 10 (Nat.toDigits 10 n) = some n := by
  unfold digits?
  split
  · next empty => exact absurd empty Nat.toDigits_ne_nil
  · rw [foldlM_digits (fun c => isDigit_of_mem), Nat.ofDigitChars_ten_toDigits]

/-- No written number starts with the mark of a base. -/
theorem afterBase?_toDigits : afterBase? (Nat.toDigits 10 n) = none := by
  have noMark (letter : Char) : ¬ ['0', letter] <+: Nat.toDigits 10 n := by
    intro marked
    obtain ⟨rest, same⟩ := marked
    cases eq_nil_of_toDigits same.symm
  simp [afterBase?, bases, noMark]

theorem toDigits_ne_cons (noDigit : c.isDigit = false) : Nat.toDigits 10 n ≠ c :: rest := by
  intro same
  have digit : c.isDigit = true := isDigit_of_mem (n := n) (by simp [same])
  rw [noDigit] at digit
  cases digit

theorem withoutPlus_toDigits : withoutPlus (Nat.toDigits 10 n) = Nat.toDigits 10 n := by
  unfold withoutPlus
  split
  · next rest plus => exact absurd plus (toDigits_ne_cons (by decide))
  · rfl

theorem isPaddedNumeral_toDigits : isPaddedNumeral (Nat.toDigits 10 n) = false := by
  unfold isPaddedNumeral
  split
  · next rest minus => exact absurd minus (toDigits_ne_cons (by decide))
  · next rest plus => exact absurd plus (toDigits_ne_cons (by decide))
  · dsimp only
    split
    · next c rest padded => cases eq_nil_of_toDigits padded
    · rfl

/-- A written number is read as itself. -/
theorem unsigned?_repr (n : Nat) : unsigned? n.repr = some n := by
  have digits : n.repr.toList = Nat.toDigits 10 n := Nat.toList_repr
  simp only [unsigned?, digits, withoutPlus_toDigits, afterBase?_toDigits,
    isPaddedNumeral_toDigits, digits?_toDigits]
  rfl

end Scalar

end ManagedCluster
