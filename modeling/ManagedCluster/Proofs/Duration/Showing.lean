import ManagedCluster.Proofs.Document.Shown
import ManagedCluster.Proofs.Duration.Reading

/-! # Shown durations

A duration is shown as the canonical row of amounts of its whole milliseconds: each unit that does
not fit into the next larger one, and none that is zero. Such a row can be read again unless its
days alone leave 64 bits of milliseconds. A duration below a millisecond shows nothing, which cannot
be read.
-/

namespace ManagedCluster

namespace DurationUnit

/-- How many of a unit make one of the next larger unit. -/
def perLarger? : DurationUnit → Option Nat
  | day => none
  | hour => some 24
  | minute => some 60
  | second => some 60
  | millisecond => some 1000

/-- So many of a unit as make the next larger one fit into any larger one. -/
theorem exists_perLarger? {unit larger : DurationUnit} (less : unit.millis < larger.millis) :
    ∃ bound, unit.perLarger? = some bound ∧ bound * unit.millis ≤ larger.millis := by
  cases unit <;> cases larger <;>
    first
      | exact ⟨_, rfl, by decide⟩
      | exact absurd less (by decide)

end DurationUnit

namespace Duration

/-- The units strictly decrease, numbers are written in digits with no zeros before them and are not
zero, and no number makes a larger unit. -/
structure Canonical (amounts : List Amount) : Prop where
  descending : amounts.Pairwise fun a b => b.unit.millis < a.unit.millis
  digits : ∀ amount ∈ amounts, amount.numeral = Nat.toDigits 10 amount.number
  positive : ∀ amount ∈ amounts, 0 < amount.number
  bounded : ∀ amount ∈ amounts, ∀ bound ∈ amount.unit.perLarger?, amount.number < bound

/-- The amounts in which a number of milliseconds is shown. -/
def shown (millis : Nat) : List Amount :=
  ((split millis DurationUnit.all).filter (0 < ·.1)).map fun part => .ofNat part.1 part.2

/-- The milliseconds in whole days. -/
def dayMillis (millis : Nat) : Nat := DurationUnit.day.millis * (millis / DurationUnit.day.millis)

/-- The duration without the part below a millisecond. -/
def wholeMillis (duration : Duration) : Duration :=
  ⟨duration.millis * 1000000,
    Nat.lt_of_le_of_lt (Nat.div_mul_le_self duration.nanos 1000000) duration.lt_limit⟩

namespace Canonical

variable {first second : Amount} {rest others : List Amount} {larger : DurationUnit}

theorem tail (canonical : Canonical (first :: rest)) : Canonical rest where
  descending := (List.pairwise_cons.mp canonical.descending).2
  digits amount member := canonical.digits amount (List.mem_cons_of_mem _ member)
  positive amount member := canonical.positive amount (List.mem_cons_of_mem _ member)
  bounded amount member := canonical.bounded amount (List.mem_cons_of_mem _ member)

/-- A canonical row of smaller units does not make a larger one. -/
theorem total_lt (canonical : Canonical rest)
    (smaller : ∀ amount ∈ rest, amount.unit.millis < larger.millis) :
    total rest < larger.millis := by
  induction rest generalizing larger with
  | nil => exact larger.millis_pos
  | cons first rest ih =>
      have below := ih canonical.tail (List.pairwise_cons.mp canonical.descending).1
      obtain ⟨bound, isBound, fits⟩ :=
        DurationUnit.exists_perLarger? (smaller first List.mem_cons_self)
      -- with one more of its unit the row still fits
      have few : first.number + 1 ≤ bound :=
        canonical.bounded first List.mem_cons_self bound isBound
      calc total (first :: rest) = first.number * first.unit.millis + total rest := rfl
        _ < first.number * first.unit.millis + first.unit.millis := Nat.add_lt_add_left below _
        _ = (first.number + 1) * first.unit.millis := (Nat.succ_mul _ _).symm
        _ ≤ bound * first.unit.millis := Nat.mul_le_mul_right _ few
        _ ≤ larger.millis := fits

theorem le_total (canonical : Canonical (first :: rest)) :
    first.unit.millis ≤ total (first :: rest) :=
  Nat.le_add_right_of_le
    (Nat.le_mul_of_pos_left _ (canonical.positive first List.mem_cons_self))

theorem total_pos (canonical : Canonical (first :: rest)) : 0 < total (first :: rest) :=
  Nat.lt_of_lt_of_le first.unit.millis_pos canonical.le_total

/-- The first unit of a canonical row is the largest that its sum makes. -/
theorem unit_le (canonical : Canonical (first :: rest)) (other : Canonical (second :: others))
    (same : total (first :: rest) = total (second :: others)) :
    second.unit.millis ≤ first.unit.millis := by
  refine Nat.le_of_not_lt fun less => ?_
  have below : total (first :: rest) < second.unit.millis := by
    refine canonical.total_lt fun amount member => ?_
    rcases List.mem_cons.mp member with rfl | inRest
    · exact less
    · exact Nat.lt_trans ((List.pairwise_cons.mp canonical.descending).1 amount inRest) less
  have above := other.le_total
  omega

/-- There is one canonical row for a sum. -/
theorem unique {amounts others : List Amount} (canonical : Canonical amounts)
    (other : Canonical others) (same : total amounts = total others) : amounts = others := by
  induction amounts generalizing others with
  | nil =>
      cases others with
      | nil => rfl
      | cons second others => exact absurd same (Nat.ne_of_lt other.total_pos)
  | cons first rest ih =>
      cases others with
      | nil => exact absurd same (Nat.ne_of_gt canonical.total_pos)
      | cons second others =>
          have units : first.unit = second.unit := DurationUnit.millis_injective
            (Nat.le_antisymm (other.unit_le canonical same.symm) (canonical.unit_le other same))
          have left := canonical.tail.total_lt (List.pairwise_cons.mp canonical.descending).1
          have right := other.tail.total_lt (List.pairwise_cons.mp other.descending).1
          rw [total, total, Amount.millis, Amount.millis, units] at same
          rw [units] at left
          -- what is left is less than the unit, so its number is a quotient of the sum
          have digit (number : Nat) {left : Nat} (below : left < second.unit.millis) :
              (number * second.unit.millis + left) / second.unit.millis = number := by
            rw [Nat.add_comm, Nat.add_mul_div_right _ _ second.unit.millis_pos,
              Nat.div_eq_of_lt below, Nat.zero_add]
          have numbers : first.number = second.number := by
            have quotients := digit first.number left
            rw [same, digit second.number right] at quotients
            exact quotients.symm
          rw [numbers] at same
          have numerals : first.numeral = second.numeral := by
            rw [canonical.digits first List.mem_cons_self, other.digits second List.mem_cons_self,
              numbers]
          rw [Amount.ext numerals numbers units,
            ih canonical.tail other.tail (Nat.add_left_cancel same)]

end Canonical

section Splitting

variable {millis : Nat}

theorem units_split (millis : Nat) (units : List DurationUnit) :
    (split millis units).map (·.2) = units := by
  induction units generalizing millis with
  | nil => rfl
  | cons unit units ih => rw [split, List.map_cons, ih]

/-- Splitting loses only what is left at the end. -/
theorem total_split (millis : Nat) (units : List DurationUnit) :
    total ((split millis units).map fun part => .ofNat part.1 part.2) +
      units.foldl (fun left unit => left % unit.millis) millis = millis := by
  induction units generalizing millis with
  | nil => exact Nat.zero_add _
  | cons unit units ih =>
      have rest := ih (millis % unit.millis)
      have whole := Nat.div_add_mod' millis unit.millis
      simp only [split, List.map_cons, total, Amount.millis, Amount.ofNat, List.foldl_cons]
        at rest ⊢
      omega

/-- Parts that are zero do not count. -/
theorem total_filter (parts : List (Nat × DurationUnit)) :
    total ((parts.filter (0 < ·.1)).map fun part => .ofNat part.1 part.2) =
      total (parts.map fun part => .ofNat part.1 part.2) := by
  induction parts with
  | nil => rfl
  | cons part parts ih =>
      rw [List.map_cons, total, ← ih, List.filter_cons]
      by_cases zero : part.1 = 0
      · simp [zero, Amount.millis, Amount.ofNat]
      · rw [if_pos (decide_eq_true (Nat.pos_of_ne_zero zero)), List.map_cons, total]

/-- The amounts add up to what is shown. -/
theorem total_shown (millis : Nat) : total (shown millis) = millis := by
  have whole := total_split millis DurationUnit.all
  have nothing : DurationUnit.all.foldl (fun left unit => left % unit.millis) millis = 0 :=
    Nat.mod_one _
  rw [shown, total_filter]
  omega

theorem mem_shown {amount : Amount} (member : amount ∈ shown millis) :
    ∃ part ∈ split millis DurationUnit.all, 0 < part.1 ∧ amount = .ofNat part.1 part.2 := by
  obtain ⟨part, kept, rfl⟩ := List.mem_map.mp member
  obtain ⟨inSplit, positive⟩ := List.mem_filter.mp kept
  exact ⟨part, inSplit, of_decide_eq_true positive, rfl⟩

theorem perLarger?_split {part : Nat × DurationUnit}
    (member : part ∈ split millis DurationUnit.all) :
    ∀ bound ∈ part.2.perLarger?, part.1 < bound := by
  simp only [split, DurationUnit.all, List.mem_cons, List.not_mem_nil, or_false] at member
  rcases member with rfl | rfl | rfl | rfl | rfl <;>
    simp only [DurationUnit.perLarger?, DurationUnit.millis, Option.mem_def, Option.some.injEq,
      forall_eq', reduceCtorEq, false_imp_iff, implies_true] <;> omega

theorem canonical_shown (millis : Nat) : Canonical (shown millis) where
  descending := by
    have ordered : ((split millis DurationUnit.all).map (·.2)).Pairwise
        fun a b => b.millis < a.millis := by
      rw [units_split]
      decide
    rw [shown, List.pairwise_map]
    exact (List.pairwise_map.mp ordered).filter _
  digits amount member := by
    obtain ⟨part, -, -, rfl⟩ := mem_shown member
    rfl
  positive amount member := by
    obtain ⟨part, -, positive, rfl⟩ := mem_shown member
    exact positive
  bounded amount member := by
    obtain ⟨part, inSplit, -, rfl⟩ := mem_shown member
    exact perLarger?_split inSplit

end Splitting

/-- Only the days of a canonical row can be too large to be read. -/
theorem Canonical.readable {amounts : List Amount} (canonical : Canonical amounts)
    (days : ∀ amount ∈ amounts, amount.unit = .day → amount.millis < UInt64.size) :
    Readable amounts where
  descending := canonical.descending
  inRange amount member := by
    have fits : amount.millis < UInt64.size := by
      have bounded := canonical.bounded amount member
      have isDay := days amount member
      have size : UInt64.size = 18446744073709551616 := rfl
      simp only [Amount.millis] at isDay ⊢
      cases unit : amount.unit with
      | day => rw [← unit]; exact isDay unit
      | hour | minute | second | millisecond =>
          simp only [unit, DurationUnit.perLarger?, Option.mem_def, Option.some.injEq,
            forall_eq'] at bounded
          simp only [DurationUnit.millis]
          omega
    exact ⟨Nat.lt_of_le_of_lt (Nat.le_mul_of_pos_right _ amount.unit.millis_pos) fits, fits⟩

section Texts

variable {duration : Duration}

theorem toList_text (something : duration.nanos ≠ 0) :
    duration.text.toList = written (shown duration.millis) := by
  simp only [text, if_neg something, String.toList_join, shown, written, List.flatMap_map]
  congr 1
  funext part
  simp [Amount.chars, Amount.ofNat]

theorem toList_text_zero (nothing : duration.nanos = 0) :
    duration.text.toList = written [.ofNat 0 .second] := by
  rw [text, if_pos nothing]
  decide

end Texts

section Days

variable {millis : Nat}

theorem shown_ne_nil (something : millis ≠ 0) : shown millis ≠ [] := by
  intro nothing
  have sum := total_shown millis
  rw [nothing] at sum
  exact something sum.symm

theorem shown_of_days (days : 0 < millis / DurationUnit.day.millis) :
    ∃ others, shown millis = .ofNat (millis / DurationUnit.day.millis) .day :: others := by
  rw [shown, DurationUnit.all, split, List.filter_cons, if_pos (decide_eq_true days), List.map_cons]
  exact ⟨_, rfl⟩

theorem millis_of_day {amount : Amount} (member : amount ∈ shown millis)
    (isDay : amount.unit = .day) : amount.millis = dayMillis millis := by
  obtain ⟨part, inSplit, -, rfl⟩ := mem_shown member
  simp only [split, DurationUnit.all, List.mem_cons, List.not_mem_nil, or_false] at inSplit
  rcases inSplit with rfl | rfl | rfl | rfl | rfl <;> first | exact Nat.mul_comm _ _ | cases isDay

theorem readable_shown (fits : dayMillis millis < UInt64.size) : Readable (shown millis) :=
  (canonical_shown millis).readable fun _ member isDay => by rwa [millis_of_day member isDay]

end Days

theorem parse_text_of_large {duration : Duration}
    (large : UInt64.size ≤ dayMillis duration.millis) : parse duration.text = .error .overflow := by
  have size : UInt64.size = 18446744073709551616 := rfl
  have range := duration.lt_limit
  have something : duration.nanos ≠ 0 := by
    simp only [dayMillis, millis, DurationUnit.millis] at large
    omega
  have days : 0 < duration.millis / DurationUnit.day.millis := by
    simp only [dayMillis, DurationUnit.millis] at large ⊢
    omega
  have below : duration.millis / DurationUnit.day.millis < UInt64.size := by
    simp only [limit, millis, DurationUnit.millis] at range ⊢
    omega
  obtain ⟨others, row⟩ := shown_of_days days
  have trimmed : Text.trimBlanks duration.text.toList =
      written (.ofNat (duration.millis / DurationUnit.day.millis) .day :: others) := by
    rw [toList_text something, trimBlanks_written, row]
  rw [dayMillis, Nat.mul_comm] at large
  exact parse_of_large trimmed below large

/-- What a duration shows is read as its whole milliseconds, unless it shows nothing or its days are
too many. -/
theorem parse_text_eq (duration : Duration) :
    parse duration.text =
      if duration.nanos = 0 ∨ 1 ≤ duration.millis ∧ dayMillis duration.millis < UInt64.size then
        .ok duration.wholeMillis
      else if duration.millis = 0 then .error .invalidInput
      else .error .overflow := by
  by_cases nothing : duration.nanos = 0
  · have trimmed : Text.trimBlanks duration.text.toList = written [.ofNat 0 .second] := by
      rw [toList_text_zero nothing, trimBlanks_written]
    have readable : Readable [.ofNat 0 .second] :=
      ⟨List.pairwise_singleton _ _, List.forall_mem_singleton.mpr (by decide)⟩
    rw [if_pos (.inl nothing), parse_of_readable trimmed (List.cons_ne_nil _ _) readable]
    simp [wholeMillis, millis, nothing, total, Amount.millis, Amount.ofNat]
  · have trimmed : Text.trimBlanks duration.text.toList = written (shown duration.millis) := by
      rw [toList_text nothing, trimBlanks_written]
    by_cases small : duration.millis = 0
    · have noRoom : ¬ (duration.nanos = 0 ∨
          1 ≤ duration.millis ∧ dayMillis duration.millis < UInt64.size) := by omega
      rw [small] at trimmed
      rw [if_neg noRoom, if_pos small]
      exact parse_of_firstOffence trimmed (.nothing rfl)
    · by_cases fits : dayMillis duration.millis < UInt64.size
      · rw [if_pos (.inr ⟨Nat.pos_of_ne_zero small, fits⟩)]
        refine parse_of_readable trimmed (shown_ne_nil small) (readable_shown fits) ?_
        rw [total_shown]
        rfl
      · rw [if_neg fun room => room.elim nothing fun room => fits room.2, if_neg small]
        exact parse_text_of_large (Nat.le_of_not_lt fits)

/-- Nothing that is shown is lost with the part below a millisecond. -/
theorem text_wholeMillis {duration : Duration}
    (shows : duration.nanos = 0 ∨ 1 ≤ duration.millis) :
    duration.wholeMillis.text = duration.text := by
  have same : duration.wholeMillis.millis = duration.millis :=
    Nat.mul_div_cancel duration.millis (by decide)
  have zero : duration.wholeMillis.nanos = 0 ↔ duration.nanos = 0 := by
    simp only [wholeMillis, millis] at shows ⊢
    omega
  simp only [text, zero, same]

/-- What a text is read as has no part below a millisecond. -/
theorem wholeMillis_of_parse {given : String} {duration : Duration}
    (parsed : parse given = .ok duration) : duration.wholeMillis = duration := by
  obtain ⟨amounts, -, -, -, sum⟩ := exists_amounts_of_parse parsed
  rw [Duration.mk.injEq]
  simp only [wholeMillis, millis]
  omega

end Duration

/-- A duration in a document is read as its text is. -/
theorem Decoder.duration_of_shows {form : String} {node : Document} {reading : Reading}
    (shows : Shows node (.text form)) :
    (∀ value, Duration.parse form = .ok value → duration reading node = pure value) ∧
    ∀ error, Duration.parse form = .error error →
      duration reading node = reading.fail (.badDuration error) := by
  refine ⟨fun value parsed => ?_, fun error failed => ?_⟩
  · simp only [duration, textExpecting_of_shows shows, pure_bind, parsed]
  · simp only [duration, textExpecting_of_shows shows, pure_bind, failed]

namespace Duration

/-- What a duration shows is the one canonical form of its whole milliseconds, and is read as these
again, whether on its own or where a document shows it. It cannot be read if nothing is shown, or if
the days are too many for 64 bits of milliseconds. -/
theorem parse_text (duration : Duration) :
    (parse duration.text =
      if duration.nanos = 0 ∨ 1 ≤ duration.millis ∧ dayMillis duration.millis < UInt64.size then
        .ok duration.wholeMillis
      else if duration.millis = 0 then .error .invalidInput
      else .error .overflow) ∧
    (∀ reading node, Shows node (Codec.duration.write duration) →
      (∀ again, parse duration.text = .ok again →
        Codec.duration.read reading node = pure again) ∧
      ∀ error, parse duration.text = .error error →
        Codec.duration.read reading node = reading.fail (.badDuration error)) ∧
    (duration.nanos ≠ 0 → duration.millis = 0 → duration.text = "") ∧
    (1 ≤ duration.millis → ∃ amounts, duration.text.toList = written amounts ∧
      Canonical amounts ∧ total amounts = duration.millis ∧
      ∀ others, Canonical others → total others = duration.millis → others = amounts) ∧
    (∀ again, parse duration.text = .ok again → again.text = duration.text) ∧
    ∀ given, parse given = .ok duration → ∀ again, parse duration.text = .ok again →
      again = duration := by
  have readBack (again : Duration) (read : parse duration.text = .ok again) :
      (duration.nanos = 0 ∨ 1 ≤ duration.millis) ∧ again = duration.wholeMillis := by
    rw [parse_text_eq] at read
    split at read
    · next readable => exact ⟨readable.imp_right And.left, (Except.ok.inj read).symm⟩
    · split at read <;> cases read
  refine ⟨parse_text_eq duration, fun _ _ => Decoder.duration_of_shows,
    fun something small => ?_, fun large => ?_, fun again read => ?_,
    fun given parsed again read => ?_⟩
  · have nothing := toList_text something
    rw [small] at nothing
    exact String.toList_inj.mp nothing
  · refine ⟨shown duration.millis, toList_text ?_, canonical_shown _, total_shown _,
      fun others canonical same => ?_⟩
    · intro nothing
      simp only [millis, nothing] at large
      omega
    · exact canonical.unique (canonical_shown _) (by rw [same, total_shown])
  · obtain ⟨shows, rfl⟩ := readBack again read
    exact text_wholeMillis shows
  · obtain ⟨-, rfl⟩ := readBack again read
    exact wholeMillis_of_parse parsed

/-- Seventy minutes are shown as an hour and ten minutes, a nanosecond as nothing, and the longest
duration in more days than can be read. -/
theorem parse_text_seventyMinutes :
    parse "70m" = .ok (ofSeconds 4200) ∧ parse (ofSeconds 4200).text = .ok (ofSeconds 4200) ∧
    (ofSeconds 4200).text = "1h10m" ∧
    Codec.duration.read (.root .json) (.text "1h10m") = pure (ofSeconds 4200) ∧
    (∃ amounts, "1h10m".toList = written amounts ∧ Canonical amounts ∧ total amounts = 4200000) ∧
    text ⟨1, by decide⟩ = "" ∧ parse (text ⟨1, by decide⟩) = .error .invalidInput ∧
    parse (ofSeconds (UInt64.size - 1)).text = .error .overflow := by
  have trimmed : Text.trimBlanks "70m".toList = written [.ofNat 70 .minute] := by decide
  have parsed : parse "70m" = .ok (ofSeconds 4200) :=
    parse_of_readable trimmed (by decide) ⟨by decide, by decide⟩ (by decide)
  have text : (ofSeconds 4200).text = "1h10m" := by decide
  obtain ⟨read, decoded, -, canonical, again, same⟩ := parse_text (ofSeconds 4200)
  have minutes : parse (ofSeconds 4200).text = .ok (ofSeconds 4200) :=
    read.trans (if_pos (.inr (by decide)))
  have shows : Shows (.text (ofSeconds 4200).text) (Codec.duration.write (ofSeconds 4200)) :=
    .scalar (.text _)
  have fromJson := (decoded (.root .json) _ shows).1 _ minutes
  rw [text] at fromJson
  obtain ⟨amounts, row, isCanonical, sum, -⟩ := canonical (by decide)
  rw [text] at row
  obtain ⟨small, -, empty, -⟩ := parse_text ⟨1, by decide⟩
  obtain ⟨long, -⟩ := parse_text (ofSeconds (UInt64.size - 1))
  refine ⟨parsed, ?_, (again _ minutes).trans text, fromJson, ⟨amounts, row, isCanonical, sum⟩,
    empty (by decide) (by decide), small.trans ?_, long.trans ?_⟩
  · rw [minutes, same "70m" parsed _ minutes]
  · rw [if_neg (by decide), if_pos (by decide)]
  · rw [if_neg (by decide), if_neg (by decide)]

end Duration

end ManagedCluster
