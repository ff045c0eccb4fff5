import Mathlib.Computability.Language
import ManagedCluster.Validation

/-! # The form of names

Messages show the form of a name as a pattern. A text has the form if it is in the language of that
pattern, and these are the texts that one would describe without it: the first character is a
letter, the last one no hyphen, and there are but letters, digits and hyphens.
-/

namespace ManagedCluster

/-- A pattern that texts match as a whole. Classes of characters are given by ranges. -/
inductive Pattern where
  | oneOf (ranges : List (Char × Char))
  | manyOf (ranges : List (Char × Char))
  | followedBy (first second : Pattern)
  | optional (pattern : Pattern)

namespace Pattern

def rangeText (range : Char × Char) : List Char :=
  if range.1 = range.2 then [range.1] else [range.1, '-', range.2]

def classText (ranges : List (Char × Char)) : List Char := '[' :: ranges.flatMap rangeText ++ [']']

/-- How a pattern is written. -/
def text : Pattern → List Char
  | oneOf ranges => classText ranges
  | manyOf ranges => classText ranges ++ ['*']
  | followedBy first second => first.text ++ second.text
  | optional pattern => '(' :: pattern.text ++ [')', '?']

def InClass (ranges : List (Char × Char)) (c : Char) : Prop :=
  ∃ range ∈ ranges, range.1 ≤ c ∧ c ≤ range.2

/-- The texts of one character from the class. -/
def ofClass (ranges : List (Char × Char)) : Language Char :=
  {word | ∃ c, word = [c] ∧ InClass ranges c}

/-- The texts that match a pattern. -/
def language : Pattern → Language Char
  | oneOf ranges => ofClass ranges
  | manyOf ranges => KStar.kstar (ofClass ranges)
  | followedBy first second => first.language * second.language
  | optional pattern => 1 + pattern.language

def letters : List (Char × Char) := [('a', 'z')]

def lettersAndDigits : List (Char × Char) := [('a', 'z'), ('0', '9')]

/-- The pattern of the names of clusters. -/
def clusterName : Pattern :=
  .followedBy (.oneOf letters)
    (.optional (.followedBy (.manyOf (('-', '-') :: lettersAndDigits)) (.oneOf lettersAndDigits)))

/-- The pattern that messages show. -/
theorem text_clusterName : String.ofList clusterName.text = Violation.namePattern := by decide

end Pattern

/-- The text can be the name of a cluster. -/
structure IsClusterName (name : String) : Prop where
  fits : name.utf8ByteSize ≤ 55
  starts : ∃ first rest, name.toList = first :: rest ∧ 'a' ≤ first ∧ first ≤ 'z'
  plain : ∀ c ∈ name.toList, ('a' ≤ c ∧ c ≤ 'z') ∨ ('0' ≤ c ∧ c ≤ '9') ∨ c = '-'
  ends : name.toList.getLast? ≠ some '-'

theorem isNameLetter_iff {c : Char} : isNameLetter c = true ↔ 'a' ≤ c ∧ c ≤ 'z' := by
  simp [isNameLetter]

theorem isNameEnd_iff {c : Char} :
    isNameEnd c = true ↔ ('a' ≤ c ∧ c ≤ 'z') ∨ ('0' ≤ c ∧ c ≤ '9') := by
  simp [isNameEnd, isNameLetter]

theorem not_isNameEnd_hyphen : ¬ isNameEnd '-' = true := by decide

theorem hasNameForm_iff {word : List Char} :
    hasNameForm word = true ↔
      (∃ first rest, word = first :: rest ∧ isNameLetter first = true) ∧
      (∃ last, word.getLast? = some last ∧ isNameEnd last = true) ∧
      ∀ c ∈ word, c = '-' ∨ isNameEnd c = true := by
  simp only [hasNameForm, Bool.and_eq_true, Option.any_eq_true, List.head?_eq_some_iff,
    List.all_eq_true, Bool.or_eq_true, beq_iff_eq, and_assoc]
  grind

theorem getLast?_cons_concat (first : Char) (middle : List Char) (last : Char) :
    (first :: (middle ++ [last])).getLast? = some last := by
  rw [← List.cons_append, List.getLast?_concat]

namespace Pattern

variable {ranges : List (Char × Char)} {word : List Char} {c : Char}

theorem mem_ofClass_iff : word ∈ ofClass ranges ↔ ∃ c, word = [c] ∧ InClass ranges c := Iff.rfl

theorem mem_kstar_ofClass_iff :
    word ∈ KStar.kstar (ofClass ranges) ↔ ∀ c ∈ word, InClass ranges c := by
  rw [Language.mem_kstar]
  constructor
  · rintro ⟨words, rfl, each⟩ c member
    obtain ⟨part, inWords, inPart⟩ := List.mem_flatten.mp member
    obtain ⟨only, rfl, inClass⟩ := mem_ofClass_iff.mp (each part inWords)
    rwa [List.mem_singleton.mp inPart]
  · intro all
    refine ⟨word.map fun c => [c], ?_, fun part inWords => ?_⟩
    · rw [← List.flatMap_def, List.flatMap_singleton']
    · obtain ⟨c, member, rfl⟩ := List.mem_map.mp inWords
      exact mem_ofClass_iff.mpr ⟨c, rfl, all c member⟩

theorem inClass_letters_iff : InClass letters c ↔ isNameLetter c = true := by
  simp [InClass, letters, isNameLetter]

theorem inClass_lettersAndDigits_iff : InClass lettersAndDigits c ↔ isNameEnd c = true := by
  simp [InClass, lettersAndDigits, isNameEnd, isNameLetter]

theorem inClass_hyphen_iff :
    InClass (('-', '-') :: lettersAndDigits) c ↔ c = '-' ∨ isNameEnd c = true := by
  have hyphen : '-' ≤ c ∧ c ≤ '-' ↔ c = '-' :=
    ⟨fun ⟨low, high⟩ => Char.le_antisymm high low, by rintro rfl; decide⟩
  rw [← inClass_lettersAndDigits_iff, ← hyphen]
  simp only [InClass, List.exists_mem_cons_iff]

/-- The pattern matches the last character of a longer name apart from those in the middle. -/
theorem mem_clusterName_iff : word ∈ clusterName.language ↔ hasNameForm word = true := by
  simp only [clusterName, language, Language.mem_mul, Language.mem_add, Language.mem_one,
    mem_ofClass_iff, mem_kstar_ofClass_iff, inClass_letters_iff, inClass_lettersAndDigits_iff,
    inClass_hyphen_iff, hasNameForm_iff]
  constructor
  · rintro ⟨_, ⟨first, rfl, letter⟩, rest, rfl | ⟨middle, inside, _, ⟨last, rfl, ending⟩, rfl⟩, rfl⟩
    · simp [letter, isNameEnd]
    · refine ⟨⟨first, _, rfl, letter⟩, ⟨last, getLast?_cons_concat first middle last, ending⟩, ?_⟩
      simp only [List.singleton_append, List.mem_cons, List.mem_append, List.not_mem_nil, or_false]
      rintro c (rfl | member | rfl)
      · exact .inr (by simp [isNameEnd, letter])
      · exact inside c member
      · exact .inr ending
  · rintro ⟨⟨first, rest, rfl, letter⟩, ⟨last, isLast, ending⟩, inside⟩
    refine ⟨[first], ⟨first, rfl, letter⟩, rest, ?_, rfl⟩
    obtain rfl | ⟨middle, final, rfl⟩ := List.eq_nil_or_concat rest
    · exact .inl rfl
    · rw [List.concat_eq_append, getLast?_cons_concat, Option.some.injEq] at isLast
      obtain rfl := isLast
      exact .inr ⟨middle, fun c member => inside c (by simp [member]), [final],
        ⟨final, rfl, ending⟩, List.concat_eq_append.symm⟩

end Pattern

theorem isClusterName_iff {name : String} :
    IsClusterName name ↔ name.utf8ByteSize ≤ maxNameBytes ∧ hasNameForm name.toList = true := by
  rw [hasNameForm_iff]
  constructor
  · rintro ⟨fits, ⟨first, rest, text, letter⟩, plain, ends⟩
    have inside : ∀ c ∈ name.toList, c = '-' ∨ isNameEnd c = true := fun c member => by
      rcases plain c member with letter | digit | hyphen
      · exact .inr (isNameEnd_iff.mpr (.inl letter))
      · exact .inr (isNameEnd_iff.mpr (.inr digit))
      · exact .inl hyphen
    have notEmpty : name.toList ≠ [] := by simp [text]
    refine ⟨fits, ⟨first, rest, text, isNameLetter_iff.mpr letter⟩,
      ⟨name.toList.getLast notEmpty, List.getLast?_eq_some_getLast notEmpty, ?_⟩, inside⟩
    refine (inside _ (List.getLast_mem notEmpty)).resolve_left fun hyphen => ends ?_
    rw [List.getLast?_eq_some_getLast notEmpty, hyphen]
  · rintro ⟨fits, ⟨first, rest, text, letter⟩, ⟨last, isLast, ending⟩, inside⟩
    refine ⟨fits, ⟨first, rest, text, isNameLetter_iff.mp letter⟩, fun c member => ?_, ?_⟩
    · rcases inside c member with hyphen | plain
      · exact .inr (.inr hyphen)
      · exact (isNameEnd_iff.mp plain).imp_right .inl
    · rw [isLast, Ne, Option.some.injEq]
      rintro rfl
      exact not_isNameEnd_hyphen ending

theorem nameViolations_eq_nil_iff {name : String} :
    nameViolations name = [] ↔ IsClusterName name := by
  rw [isClusterName_iff, nameViolations, List.append_eq_nil_iff]
  refine and_congr ?_ ?_
  · split <;> simp_all
  · split <;> simp_all

end ManagedCluster
