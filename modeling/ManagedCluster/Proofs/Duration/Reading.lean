import ManagedCluster.Proofs.Duration.Grammar

/-! # Reading what the grammar allows

Reading succeeds exactly on the rows of amounts that the grammar allows, with the sum of their
milliseconds. On every other text it fails with the first thing that is wrong.
-/

namespace ManagedCluster

namespace DurationUnit

theorem mem_all (unit : DurationUnit) : unit ∈ all := by
  cases unit <;> decide

theorem millis_injective {a b : DurationUnit} (same : a.millis = b.millis) : a = b := by
  cases a <;> cases b <;> first | rfl | cases same

end DurationUnit

namespace Duration

section Rows

variable {amount : Amount} {amounts before : List Amount} {previous : Option DurationUnit}

theorem lastUnit?_cons (amount : Amount) (amounts : List Amount) :
    lastUnit? (amount :: amounts) = (lastUnit? amounts).or (some amount.unit) := by
  simp only [lastUnit?, List.map_cons, List.getLast?_cons]
  cases (amounts.map (·.unit)).getLast? <;> rfl

theorem total_le {bound : Nat} (each : ∀ amount ∈ amounts, amount.millis ≤ bound) :
    total amounts ≤ amounts.length * bound := by
  induction amounts with
  | nil => exact Nat.zero_le _
  | cons amount amounts ih =>
      have first := each amount List.mem_cons_self
      have rest := ih fun other member => each other (List.mem_cons_of_mem _ member)
      rw [total, List.length_cons, Nat.succ_mul]
      omega

/-- There are no more units than five, so the sum stays in the range of durations. -/
theorem total_lt (readable : Readable amounts) : total amounts * 1000000 < limit := by
  have distinct : (amounts.map (·.unit)).Nodup := by
    rw [List.Nodup, List.pairwise_map]
    refine readable.descending.imp fun smaller same => ?_
    rw [same] at smaller
    exact Nat.lt_irrefl _ smaller
  have few : amounts.length ≤ 5 := by
    have inAll : amounts.map (·.unit) ⊆ DurationUnit.all := fun unit _ => unit.mem_all
    have short := (List.subperm_of_subset distinct inAll).length_le
    rwa [List.length_map] at short
  have sum : total amounts ≤ amounts.length * UInt64.size :=
    total_le fun amount member => Nat.le_of_lt (readable.inRange amount member).2
  have bound : total amounts ≤ 5 * UInt64.size := Nat.le_trans sum (Nat.mul_le_mul_right _ few)
  have size : UInt64.size = 18446744073709551616 := rfl
  simp only [limit]
  omega

theorem Readable.tail (readable : Readable (amount :: amounts)) : Readable amounts where
  descending := (List.pairwise_cons.mp readable.descending).2
  inRange other member := readable.inRange other (List.mem_cons_of_mem _ member)

/-- Amounts that are in order are counted, and the rest is read after the last of their units. -/
theorem readFragments_append (readable : Readable amounts)
    (smaller : ∀ last ∈ previous, ∀ first ∈ amounts.head?, first.unit.millis < last.millis)
    (rest : List Fragment) :
    readFragments previous (amounts.map Amount.fragment ++ rest) =
      (readFragments ((lastUnit? amounts).or previous) rest).map (total amounts + ·) := by
  induction amounts generalizing previous with
  | nil =>
      have empty : lastUnit? [] = none := rfl
      rw [List.map_nil, List.nil_append, empty, Option.none_or]
      cases readFragments previous rest <;> simp [Except.map, total]
  | cons amount amounts ih =>
      obtain ⟨below, fits⟩ := readable.inRange amount List.mem_cons_self
      have first := readFragment_of_amount below fits fun last follows =>
        smaller last follows amount rfl
      have descending := (List.pairwise_cons.mp readable.descending).1
      have smallerNext : ∀ last ∈ some amount.unit, ∀ next ∈ amounts.head?,
          next.unit.millis < last.millis := by
        intro last isLast next isNext
        obtain rfl := Option.some.inj isLast
        exact descending next (List.mem_of_mem_head? isNext)
      have others := ih readable.tail smallerNext
      have last : (lastUnit? (amount :: amounts)).or previous =
          (lastUnit? amounts).or (some amount.unit) := by
        rw [lastUnit?_cons]
        cases lastUnit? amounts <;> rfl
      rw [List.map_cons, List.cons_append, readFragments, first, ok_bind, last]
      simp only [others]
      cases readFragments ((lastUnit? amounts).or (some amount.unit)) rest with
      | error e => rfl
      | ok millis =>
          simp only [Except.map, total, Nat.add_assoc]
          rfl

theorem readable_concat (readable : Readable before) (below : amount.number < UInt64.size)
    (fits : amount.millis < UInt64.size)
    (smaller : ∀ last ∈ lastUnit? before, amount.unit.millis < last.millis) :
    Readable (before ++ [amount]) where
  descending := by
    rw [List.pairwise_append]
    refine ⟨readable.descending, List.pairwise_singleton _ _, fun earlier member other isLast => ?_⟩
    rw [List.mem_singleton.mp isLast]
    rcases List.eq_nil_or_concat' before with rfl | ⟨front, last, rfl⟩
    · cases member
    · have isSmaller : amount.unit.millis < last.unit.millis :=
        smaller last.unit (by simp [lastUnit?])
      rcases List.mem_append.mp member with inFront | isLast
      · have larger := (List.pairwise_append.mp readable.descending).2.2 earlier inFront last
          List.mem_cons_self
        exact Nat.lt_trans isSmaller larger
      · obtain rfl := List.mem_singleton.mp isLast
        exact isSmaller
  inRange other member := by
    rcases List.mem_append.mp member with earlier | isLast
    · exact readable.inRange other earlier
    · obtain rfl := List.mem_singleton.mp isLast
      exact ⟨below, fits⟩

end Rows

section Texts

variable {text : String} {cs : List Char}

theorem parse_of_ascii (trimmed : Text.trimBlanks text.toList = cs) (some : cs ≠ [])
    (ascii : IsAscii cs) :
    parse text = readFragments none (fragments cs) >>= fun millis =>
      match ofNanos? (millis * 1000000) with
      | .some duration => .ok duration
      | none => .error .overflow := by
  have good : (cs.isEmpty || !cs.all (·.toNat < 128)) = false := by
    have inRange : cs.all (·.toNat < 128) = true :=
      List.all_eq_true.mpr fun c member => decide_eq_true (ascii c member)
    rw [List.isEmpty_eq_false_iff.mpr some, inRange]
    rfl
  unfold parse
  simp only [trimmed, good, Bool.false_eq_true, if_false]
  cases readFragments none (fragments cs) with
  | error e => rw [error_bind, error_bind]
  | ok millis =>
      rw [ok_bind, ok_bind]
      cases ofNanos? (millis * 1000000) <;> rfl

/-- A row of amounts is read as the sum of their milliseconds. -/
theorem parse_of_readable {amounts : List Amount} {duration : Duration}
    (trimmed : Text.trimBlanks text.toList = written amounts) (some : amounts ≠ [])
    (readable : Readable amounts) (sum : duration.nanos = total amounts * 1000000) :
    parse text = .ok duration := by
  have notEmpty : written amounts ≠ [] := by
    cases amounts with
    | nil => exact absurd rfl some
    | cons amount amounts =>
        rw [written_cons, Amount.chars]
        simp [ne_nil_of_writes amount.writes]
  have noLetter : ∀ c ∈ ([] : List Char).head?, c.isAlpha = false := by simp
  have cut : fragments (written amounts) = amounts.map Amount.fragment := by
    have whole := fragments_written amounts noLetter
    rwa [List.append_nil, fragments, List.append_nil] at whole
  have read : readFragments none (amounts.map Amount.fragment) = .ok (total amounts) := by
    have start : ∀ last ∈ (none : Option DurationUnit), ∀ first ∈ amounts.head?,
        first.unit.millis < last.millis := by simp
    have whole := readFragments_append readable start []
    rwa [List.append_nil, readFragments] at whole
  have nanos : ofNanos? (total amounts * 1000000) = .some duration := by
    rw [← sum, ofNanos?, dif_pos duration.lt_limit]
  rw [parse_of_ascii trimmed notEmpty (isAscii_written amounts), cut, read, ok_bind, nanos]

theorem parse_of_firstOffence {error : DurationParseError}
    (trimmed : Text.trimBlanks text.toList = cs) (offence : FirstOffence cs error) :
    parse text = .error error := by
  cases offence with
  | nothing empty =>
      unfold parse
      simp only [trimmed, empty]
      rfl
  | notAscii foreign =>
      have bad : (cs.isEmpty || !cs.all (·.toNat < 128)) = true := by
        rw [Bool.or_eq_true, Bool.not_eq_true']
        refine .inr (Bool.eq_false_iff.mpr fun all => foreign fun c member => ?_)
        exact of_decide_eq_true (List.all_eq_true.mp all c member)
      unfold parse
      simp only [trimmed, bad, if_true]
      rfl
  | @letter c rest ascii starts letter =>
      have first : readFragments none (fragments cs) = .error (.unexpectedCharacter c) := by
        have noValue : (c :: rest).takeWhile (!·.isAlpha) = [] := by simp [letter]
        have unit : ((c :: rest).dropWhile (!·.isAlpha)).takeWhile (·.isAlpha) =
            c :: rest.takeWhile (·.isAlpha) := by simp [letter]
        rw [starts, fragments, noValue, unit]
        rfl
      rw [parse_of_ascii trimmed (by rw [starts]; exact List.cons_ne_nil _ _) ascii, first,
        error_bind]
  | @amount before tail value unit rest _ ascii readable split runs offence =>
      have notLetter : ∀ c ∈ tail.head?, c.isAlpha = false := by
        intro c first
        rw [runs.split, List.head?_append_of_ne_nil _ runs.some] at first
        exact runs.values c (List.mem_of_mem_head? first)
      have some : cs ≠ [] := by
        rw [split, runs.split]
        simp [runs.some]
      have fails : readFragments none (fragments cs) = .error error := by
        rw [split, fragments_written before notLetter, runs.fragments_eq,
          readFragments_append readable (by simp), Option.or_none, readFragments,
          readFragment_of_offence runs.some offence, error_bind]
        rfl
      rw [parse_of_ascii trimmed some ascii, fails, error_bind]

/-- An amount too large for 64 bits is an overflow, also at the very start. -/
theorem parse_of_large {amount : Amount} {amounts : List Amount}
    (trimmed : Text.trimBlanks text.toList = written (amount :: amounts))
    (below : amount.number < UInt64.size) (large : UInt64.size ≤ amount.millis) :
    parse text = .error .overflow := by
  have noLetter : ∀ c ∈ ([] : List Char).head?, c.isAlpha = false := by simp
  have runs := amount.runs (head?_written amounts noLetter)
  have offence : Offence (lastUnit? []) amount.numeral amount.unit.text.toList .overflow :=
    .overflow amount.writes below rfl (by simp [lastUnit?]) large
  have none : Readable [] := ⟨List.Pairwise.nil, by simp⟩
  refine parse_of_firstOffence trimmed (.amount (isAscii_written _) none ?_ runs offence)
  rw [written_cons, List.append_nil]
  rfl

end Texts

/-- Two runs after a unit are an amount that goes on, or something is wrong with them. -/
theorem amount_or_offence (last : Option DurationUnit) (value unit : List Char) :
    (∃ amount : Amount, amount.numeral = value ∧ amount.unit.text.toList = unit ∧
      amount.number < UInt64.size ∧ amount.millis < UInt64.size ∧
      ∀ previous ∈ last, amount.unit.millis < previous.millis) ∨
    ∃ error, Offence last value unit error := by
  rcases Numeral.writes_or_fault UInt64.size value with ⟨number, below, writes⟩ | ⟨reason, fault⟩
  · by_cases missing : unit = []
    · exact .inr ⟨_, .noUnit writes below missing⟩
    by_cases unknown : ∀ known : DurationUnit, known.text.toList ≠ unit
    · exact .inr ⟨_, .unknownUnit writes below missing unknown⟩
    obtain ⟨current, known⟩ := not_forall_not.mp unknown
    have ordered : (∀ previous ∈ last, current.millis < previous.millis) ∨
        ∃ error, Offence last value unit error := by
      cases last with
      | none => exact .inl (by simp)
      | some previous =>
          rcases Nat.lt_trichotomy current.millis previous.millis with less | equal | larger
          · exact .inl (by simpa using less)
          · obtain rfl := DurationUnit.millis_injective equal
            exact .inr ⟨_, .duplicateUnit writes below known rfl⟩
          · exact .inr ⟨_, .unitOrder writes below known rfl larger⟩
    rcases ordered with smaller | offence
    · rcases Nat.lt_or_ge (number * current.millis) UInt64.size with fits | large
      · exact .inl ⟨⟨value, number, current, writes⟩, rfl, known, below, fits, smaller⟩
      · exact .inr ⟨_, .overflow writes below known smaller large⟩
    · exact .inr offence
  · exact .inr ⟨_, .badValue fault⟩

/-- A text after a row of amounts goes on as a row to its end, or something is wrong with it. -/
theorem readable_or_offence {before : List Amount} (readable : Readable before) (cs : List Char)
    (start : ∀ c ∈ cs.head?, c.isAlpha = false) :
    (∃ after, Readable (before ++ after) ∧ cs = written after) ∨
    ∃ after tail value unit rest error, Readable (before ++ after) ∧ cs = written after ++ tail ∧
      Runs tail value unit rest ∧ Offence (lastUnit? (before ++ after)) value unit error := by
  cases cs with
  | nil => exact .inl ⟨[], by rwa [List.append_nil], rfl⟩
  | cons c cs =>
      obtain ⟨value, unit, rest, runs⟩ := exists_runs (start c rfl) cs
      rcases amount_or_offence (lastUnit? before) value unit with
        ⟨amount, rfl, rfl, below, fits, smaller⟩ | ⟨error, offence⟩
      · have shorter := runs.length_lt
        have split : c :: cs = amount.chars ++ rest := by
          rw [runs.split, Amount.chars, List.append_assoc]
        have more := readable_concat readable below fits smaller
        rcases readable_or_offence more rest runs.unitEnds with
          ⟨after, whole, rfl⟩ | ⟨after, tail, value, unit, others, error, whole, rfl, next, offence⟩
        · refine .inl ⟨amount :: after, ?_, by rw [split, written_cons]⟩
          rwa [List.append_cons]
        · refine .inr ⟨amount :: after, tail, value, unit, others, error, ?_, ?_, next, ?_⟩
          · rwa [List.append_cons]
          · rw [split, written_cons, List.append_assoc]
          · rwa [List.append_cons]
      · refine .inr ⟨[], c :: cs, value, unit, rest, error, ?_, rfl, runs, ?_⟩
        · rwa [List.append_nil]
        · rwa [List.append_nil]
termination_by cs.length

/-- Every text is a row of amounts that can be read, or has a first offence. -/
theorem readable_or_firstOffence (cs : List Char) :
    (∃ amounts, amounts ≠ [] ∧ Readable amounts ∧ cs = written amounts) ∨
      ∃ error, FirstOffence cs error := by
  by_cases ascii : IsAscii cs
  · cases cs with
    | nil => exact .inr ⟨_, .nothing rfl⟩
    | cons c cs =>
        cases letter : c.isAlpha with
        | true => exact .inr ⟨_, .letter ascii rfl letter⟩
        | false =>
            have none : Readable [] := ⟨List.Pairwise.nil, by simp⟩
            rcases readable_or_offence none (c :: cs) (by simpa using letter) with
              ⟨amounts, readable, split⟩ |
              ⟨before, tail, value, unit, rest, error, readable, split, runs, offence⟩
            · refine .inl ⟨amounts, ?_, readable, split⟩
              rintro rfl
              cases split
            · exact .inr ⟨error, .amount ascii readable split runs offence⟩
  · exact .inr ⟨_, .notAscii ascii⟩

/-- Only rows of amounts are read. -/
theorem exists_amounts_of_parse {text : String} {duration : Duration}
    (parsed : parse text = .ok duration) :
    ∃ amounts, amounts ≠ [] ∧ Readable amounts ∧ Text.trimBlanks text.toList = written amounts ∧
      duration.nanos = total amounts * 1000000 := by
  rcases readable_or_firstOffence (Text.trimBlanks text.toList) with
    ⟨amounts, some, readable, split⟩ | ⟨error, offence⟩
  · let sum : Duration := ⟨total amounts * 1000000, total_lt readable⟩
    have read := parse_of_readable split some readable (rfl : sum.nanos = total amounts * 1000000)
    obtain rfl := Except.ok.inj (parsed.symm.trans read)
    exact ⟨amounts, some, readable, split, rfl⟩
  · cases parsed.symm.trans (parse_of_firstOffence rfl offence)

/-- Only texts with a first offence are not read. -/
theorem firstOffence_of_parse {text : String} {error : DurationParseError}
    (failed : parse text = .error error) : FirstOffence (Text.trimBlanks text.toList) error := by
  rcases readable_or_firstOffence (Text.trimBlanks text.toList) with
    ⟨amounts, some, readable, split⟩ | ⟨first, offence⟩
  · let sum : Duration := ⟨total amounts * 1000000, total_lt readable⟩
    have read := parse_of_readable split some readable (rfl : sum.nanos = total amounts * 1000000)
    cases failed.symm.trans read
  · obtain rfl := Except.error.inj (failed.symm.trans (parse_of_firstOffence rfl offence))
    exact offence

/-- Reading accepts exactly the rows of amounts of the grammar, with their sum, and fails on every
other text with its first offence. -/
theorem parse_iff_grammar (text : String) :
    let cs := Text.trimBlanks text.toList
    (∀ duration, parse text = .ok duration ↔
      ∃ amounts, amounts ≠ [] ∧ Readable amounts ∧ cs = written amounts ∧
        duration.nanos = total amounts * 1000000) ∧
    (∀ amounts, Readable amounts → total amounts * 1000000 < limit) ∧
    (∀ error, parse text = .error error ↔ FirstOffence cs error) ∧
    ∀ error, FirstOffence cs error →
      (error.kind = .parse ↔
        (∃ value reason, error = .badValue value reason) ∨ error = .overflow) := by
  refine ⟨fun duration => ⟨exists_amounts_of_parse, ?_⟩, fun amounts => total_lt,
    fun error => ⟨firstOffence_of_parse, parse_of_firstOffence rfl⟩, fun error _ => ?_⟩
  · rintro ⟨amounts, some, readable, split, sum⟩
    exact parse_of_readable split some readable sum
  · cases error <;> simp [DurationParseError.kind]

/-- Half an hour, with a sign and a zero that it does not need. -/
def halfHour : Amount :=
  ⟨['+', '0', '3', '0'], 30, .minute, ['0', '3', '0'], List.cons_ne_nil _ _,
    List.all_eq_true.mp rfl, .inr rfl, rfl⟩

theorem parse_iff_grammar_halfHour :
    parse "\t1h+030m " = .ok (ofSeconds 5400) ∧
    parse "15d2h1d" = .error (.unitOrder .hour .day) ∧
    DurationParseError.kind (.unitOrder .hour .day) ≠ .parse := by
  have readable : Readable [.ofNat 1 .hour, halfHour] := ⟨by decide, by decide⟩
  have parsed := ((parse_iff_grammar "\t1h+030m ").1 (ofSeconds 5400)).mpr
    ⟨[.ofNat 1 .hour, halfHour], by decide, readable, by decide, by decide⟩
  have ordered : Readable [.ofNat 15 .day, .ofNat 2 .hour] := ⟨by decide, by decide⟩
  have runs : Runs ['1', 'd'] ['1'] ['d'] [] :=
    (Amount.ofNat 1 .day).runs (by simp)
  have offence : Offence (lastUnit? [.ofNat 15 .day, .ofNat 2 .hour]) ['1'] ['d']
      (.unitOrder .hour .day) :=
    .unitOrder (Numeral.writes_toDigits 1) (by decide) rfl rfl (by decide)
  have ascii : IsAscii ['1', '5', 'd', '2', 'h', '1', 'd'] :=
    isAscii_written [.ofNat 15 .day, .ofNat 2 .hour, .ofNat 1 .day]
  have first : FirstOffence (Text.trimBlanks "15d2h1d".toList) (.unitOrder .hour .day) :=
    .amount ascii ordered (by decide) runs offence
  obtain ⟨-, -, failed, kind⟩ := parse_iff_grammar "15d2h1d"
  exact ⟨parsed, (failed _).mpr first, mt (kind _ first).mp (by simp)⟩

end Duration

end ManagedCluster
