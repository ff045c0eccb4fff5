import ManagedCluster.Proofs.Duration.Reading

/-! # Whole seconds in written durations

The provider writes durations as whole seconds. Reading such a text gives the same number again as
long as its milliseconds fit into 64 bits, and fails with an overflow beyond that.
-/

namespace ManagedCluster

namespace Duration

variable {seconds : Nat}

@[simp] theorem seconds_ofSeconds (small : seconds < UInt64.size) :
    (ofSeconds seconds small).seconds = seconds :=
  Nat.mul_div_cancel seconds (by decide)

theorem toList_encodeSeconds :
    (encodeSeconds seconds).toList = written [.ofNat seconds .second] := by
  simp [encodeSeconds, written, Amount.chars, Amount.ofNat, DurationUnit.text]

theorem trimBlanks_encodeSeconds :
    Text.trimBlanks (encodeSeconds seconds).toList = written [.ofNat seconds .second] := by
  rw [toList_encodeSeconds, trimBlanks_written]

/-- Reading written seconds fails only if their milliseconds do not fit. -/
theorem decodeSeconds_encodeSeconds (small : seconds < UInt64.size) :
    decodeSeconds (encodeSeconds seconds) =
      if seconds * 1000 < UInt64.size then .ok seconds else .error .overflow := by
  by_cases fits : seconds * 1000 < UInt64.size
  · have readable : Readable [.ofNat seconds .second] :=
      ⟨List.pairwise_singleton _ _, List.forall_mem_singleton.mpr ⟨small, fits⟩⟩
    have sum : (ofSeconds seconds small).nanos = total [.ofNat seconds .second] * 1000000 := by
      show seconds * 1000000000 = (seconds * 1000 + 0) * 1000000
      omega
    rw [decodeSeconds, if_pos fits,
      parse_of_readable trimBlanks_encodeSeconds (List.cons_ne_nil _ _) readable sum]
    exact congrArg Except.ok (seconds_ofSeconds small)
  · have large := parse_of_large trimBlanks_encodeSeconds small (Nat.le_of_not_lt fits)
    rw [decodeSeconds, if_neg fits, large]
    rfl

end Duration

end ManagedCluster
