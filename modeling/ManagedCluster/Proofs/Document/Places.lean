import Mathlib.Data.List.Find
import ManagedCluster.Proofs.Document.Records
import ManagedCluster.Proofs.Document.Trees

/-! # Around one field of a record

The entries of a map are read in order, and so are the items of a list that stands for a record. So
reading can be split around the value of one field, and what is read before and after it does not
depend on the form of that value.
-/

namespace ManagedCluster

namespace Document

/-- The document with this tag, if there is one. -/
def withTag : Option Tag → Document → Document
  | none, document => document
  | some tag, document => .tagged tag document

@[simp] theorem isTree_withTag {tag : Option Tag} {document : Document} :
    (withTag tag document).isTree = document.isTree := by
  cases tag <;> rfl

theorem isDirect_map {tag : Option Tag} {entries : List (Document × Document)} :
    (withTag tag (.map entries)).IsDirect := by
  intro reading
  cases tag <;> rfl

end Document

variable {σ : Type} {fields : List (Field σ)}

/-- A value of the field can make this change to a record. -/
def Field.Makes (field : Field σ) (change : σ → σ) : Prop :=
  ∃ reading document, field.read reading document = pure change

namespace Decoder

open Reading (follow_of_isTree fail_alike mismatch_alike exists_mismatch_eq)

theorem stepOf_cases (key : Document) :
    (∃ name, stepOf key = .key name) ∨ stepOf key = .unnamed := by
  unfold stepOf
  split
  · exact .inl ⟨_, rfl⟩
  · exact .inl ⟨_, rfl⟩
  · exact .inr rfl

theorem textExpecting_of_stepOf {key : Document} {name : String} (named : stepOf key = .key name)
    (expected : String) (reading : Reading) :
    textExpecting expected reading key = pure name := by
  unfold stepOf at named
  split at named
  · cases named
    rfl
  · cases named
    rfl
  · cases named

theorem exists_textExpecting_eq_throw {key : Document} (tree : key.isTree = true)
    (unnamed : stepOf key = .unnamed) (expected : String) (reading : Reading) :
    ∃ error, textExpecting expected reading key = throw error := by
  unfold textExpecting
  rw [follow_of_isTree tree, pure_bind]
  cases key with
  | scalar value =>
      cases value with
      | text | written => cases unnamed
      | null | bool | int | float => exact exists_mismatch_eq _ _
  | reference | list | map | tagged => exact exists_mismatch_eq _ _

section Entries

variable {reading also : Reading} {seen : List String} {record : σ}

theorem recordEntries_append (before after : List (Document × Document)) :
    recordEntries fields reading seen record (before ++ after) = (do
      let ended ← recordEntries fields reading seen record before
      recordEntries fields reading ended.1 ended.2 after) := by
  induction before generalizing seen record with
  | nil => rfl
  | cons entry rest ih =>
      obtain ⟨key, value⟩ := entry
      simp only [List.cons_append, recordEntries, bind_assoc]
      congr
      funext name
      split
      · exact ih
      · split
        · rfl
        · simp only [bind_assoc]
          congr
          funext change
          exact ih

/-- Entries that only name some fields are read alike from records in which these fields are as
far. -/
theorem recordEntries_alike (allowed : String → Prop)
    (related : List String × σ → List String × σ → Prop)
    (steady : ∀ field ∈ fields, field.read.Steady)
    (seenAlike : ∀ {a b name}, related a b → allowed name → a.1.contains name = b.1.contains name)
    (kept : ∀ {a b field change}, related a b → field ∈ fields → allowed field.name →
      field.Makes change →
      related (field.name :: a.1, change a.2) (field.name :: b.1, change b.2))
    {entries : List (Document × Document)}
    (trees : ∀ entry ∈ entries, entry.1.isTree = true ∧ entry.2.isTree = true)
    (names : ∀ entry ∈ entries, ∀ name, stepOf entry.1 = .key name → allowed name)
    (same : reading.dialect = also.dialect) {a b : List String × σ} (start : related a b) :
    Alike related (recordEntries fields reading a.1 a.2 entries)
      (recordEntries fields also b.1 b.2 entries) := by
  induction entries generalizing a b with
  | nil => exact .values start
  | cons entry rest ih =>
      obtain ⟨key, value⟩ := entry
      obtain ⟨⟨keyTree, valueTree⟩, laterTrees⟩ := List.forall_mem_cons.mp trees
      obtain ⟨named, laterNames⟩ := List.forall_mem_cons.mp names
      unfold recordEntries
      rcases stepOf_cases key with ⟨name, isName⟩ | unnamed
      · simp only [textExpecting_of_stepOf isName, pure_bind]
        cases found : fields.find? (·.name == name) with
        | none => exact ih laterTrees laterNames start
        | some field =>
            have member := List.mem_of_find?_eq_some found
            obtain rfl : field.name = name := by simpa using List.find?_some found
            have isAllowed := named _ isName
            simp only [seenAlike start isAllowed]
            split
            · exact fail_alike _ _
            · have alike : Alike Eq (field.read (reading.below (stepOf key)) value)
                  (field.read (also.below (stepOf key)) value) := steady field member valueTree same
              have changes := alike.with_property fun change made =>
                (⟨_, _, made⟩ : field.Makes change)
              refine Alike.bind changes ?_
              rintro change _ ⟨rfl, made⟩
              exact ih laterTrees laterNames (kept start member isAllowed made)
      · obtain ⟨error, first⟩ := exists_textExpecting_eq_throw keyTree unnamed "field identifier"
          reading
        obtain ⟨other, second⟩ := exists_textExpecting_eq_throw keyTree unnamed "field identifier"
          also
        rw [first, second]
        exact .errors error other

theorem recordEntries_steady (steady : ∀ field ∈ fields, field.read.Steady)
    {entries : List (Document × Document)}
    (trees : ∀ entry ∈ entries, entry.1.isTree = true ∧ entry.2.isTree = true)
    (same : reading.dialect = also.dialect) :
    Alike Eq (recordEntries fields reading seen record entries)
      (recordEntries fields also seen record entries) :=
  recordEntries_alike (fun _ => True) Eq steady
    (by rintro _ _ _ rfl _; rfl) (by rintro _ _ _ _ rfl _ _ _; rfl) trees (fun _ _ _ _ => trivial)
    same (a := (seen, record)) (b := (seen, record)) rfl

/-- As far as a record is read, the field with this name was not seen, and it is as it is by
default. -/
def Untouched (name : String) (clear : σ → σ) (ended : List String × σ) : Prop :=
  clear ended.2 = ended.2 ∧ ended.1.contains name = false

/-- The same record is read, and the same fields are seen, but for the one with this name. -/
def SameBut (name : String) (a b : List String × σ) : Prop :=
  a.2 = b.2 ∧ ∀ other, other ≠ name → a.1.contains other = b.1.contains other

section Others

variable (steady : ∀ field ∈ fields, field.read.Steady) {name : String}
  {entries : List (Document × Document)}
  (trees : ∀ entry ∈ entries, entry.1.isTree = true ∧ entry.2.isTree = true)
  (others : ∀ entry ∈ entries, stepOf entry.1 ≠ .key name)
  (same : reading.dialect = also.dialect)

include steady trees others same

/-- The entries of other fields leave a field untouched. -/
theorem recordEntries_untouched {clear : σ → σ}
    (keeps : ∀ field ∈ fields, field.name ≠ name → ∀ change, field.Makes change →
      ∀ record, clear record = record → clear (change record) = change record)
    {start : List String × σ} (untouched : Untouched name clear start) :
    Alike (fun a b => a = b ∧ Untouched name clear a)
      (recordEntries fields reading start.1 start.2 entries)
      (recordEntries fields also start.1 start.2 entries) := by
  refine recordEntries_alike (· ≠ name) _ steady ?_ ?_ trees ?_ same ⟨rfl, untouched⟩
  · rintro a _ other ⟨rfl, -⟩ -
    rfl
  · rintro a _ field change ⟨rfl, cleared, unseen⟩ member other makes
    refine ⟨rfl, keeps field member other change makes _ cleared, ?_⟩
    rw [List.contains_cons, unseen, beq_eq_false_iff_ne.mpr other.symm]
    rfl
  · rintro entry member _ isName rfl
    exact others entry member isName

/-- The entries of other fields are read alike, whether a field was seen before or not. -/
theorem recordEntries_sameBut {a b : List String × σ} (start : SameBut name a b) :
    Alike (SameBut name) (recordEntries fields reading a.1 a.2 entries)
      (recordEntries fields also b.1 b.2 entries) := by
  refine recordEntries_alike (· ≠ name) _ steady ?_ ?_ trees ?_ same start
  · rintro a b other ⟨-, seen⟩ isOther
    exact seen other isOther
  · rintro a b field change ⟨records, seen⟩ - - -
    refine ⟨congrArg change records, fun other isOther => ?_⟩
    rw [List.contains_cons, List.contains_cons, seen other isOther]
  · rintro entry member _ isName rfl
    exact others entry member isName

end Others

/-- One entry of a block, if it is the first of its field. -/
theorem recordEntries_of_field {key value : Document} {name : String} {field : Field σ}
    (named : stepOf key = .key name) (found : fields.find? (·.name == name) = some field)
    (after : List (Document × Document)) :
    recordEntries fields reading seen record ((key, value) :: after) =
      if seen.contains name then reading.fail (.duplicateField name)
      else (do
        let change ← field.read (reading.below (.key name)) value
        recordEntries fields reading (name :: seen) (change record) after) := by
  rw [recordEntries, textExpecting_of_stepOf named, pure_bind]
  simp only [found, named]

end Entries

section Items

variable {reading also : Reading} {expected : String} {record : σ}

theorem recordItems_append {earlier later : List (Field σ)} {before after : List Document}
    (level : earlier.length = before.length) (position : Nat) :
    recordItems expected reading position record (earlier ++ later) (before ++ after) = (do
      let record ← recordItems expected reading position record earlier before
      recordItems expected reading (position + before.length) record later after) := by
  induction earlier generalizing before position record with
  | nil =>
      obtain rfl := List.length_eq_zero_iff.mp level.symm
      rfl
  | cons field earlier ih =>
      obtain _ | ⟨value, before⟩ := before
      · cases level
      · simp only [List.cons_append, recordItems, bind_assoc]
        congr
        funext change
        rw [ih (Nat.succ.inj level), List.length_cons, Nat.add_right_comm, Nat.add_assoc]

/-- Where the items come to an end before the fields. -/
theorem recordItems_short {earlier later : List (Field σ)} {items : List Document}
    (level : earlier.length = items.length) (position : Nat) :
    recordItems expected reading position record (earlier ++ later) items = (do
      let record ← recordItems expected reading position record earlier items
      recordItems expected reading (position + items.length) record later []) := by
  have whole : recordItems expected reading position record (earlier ++ later) (items ++ []) = _ :=
    recordItems_append level position
  rwa [List.append_nil] at whole

/-- Items that only stand for some fields are read alike into records that stay related. -/
theorem recordItems_alike (related : σ → σ → Prop) (steady : ∀ field ∈ fields, field.read.Steady)
    (kept : ∀ {a b field change}, related a b → field ∈ fields → field.Makes change →
      related (change a) (change b))
    {items : List Document} (trees : ∀ item ∈ items, item.isTree = true)
    (same : reading.dialect = also.dialect) (position : Nat) {a b : σ} (start : related a b) :
    Alike related (recordItems expected reading position a fields items)
      (recordItems expected also position b fields items) := by
  induction fields generalizing items position a b with
  | nil => cases items <;> first | exact .values start | exact fail_alike _ _
  | cons field fields ih =>
      obtain ⟨here, later⟩ := List.forall_mem_cons.mp steady
      have keptLater {a b : σ} {field : Field σ} {change : σ → σ} (start : related a b)
          (member : field ∈ fields) (made : field.Makes change) : related (change a) (change b) :=
        kept start (List.mem_cons_of_mem _ member) made
      cases items with
      | nil =>
          unfold recordItems
          split
          · exact fail_alike _ _
          · exact ih later keptLater trees _ start
      | cons value rest =>
          obtain ⟨tree, trees⟩ := List.forall_mem_cons.mp trees
          unfold recordItems
          have alike : Alike Eq (field.read (reading.below (.index position)) value)
              (field.read (also.below (.index position)) value) := here tree same
          have changes := alike.with_property fun change made =>
            (⟨_, _, made⟩ : field.Makes change)
          refine Alike.bind changes ?_
          rintro change _ ⟨rfl, made⟩
          exact ih later keptLater trees _ (kept start List.mem_cons_self made)

theorem recordItems_steady (steady : ∀ field ∈ fields, field.read.Steady) {items : List Document}
    (trees : ∀ item ∈ items, item.isTree = true) (same : reading.dialect = also.dialect)
    (position : Nat) :
    Alike Eq (recordItems expected reading position record fields items)
      (recordItems expected also position record fields items) :=
  recordItems_alike Eq steady (by rintro _ _ _ _ rfl _ _; rfl) trees same position rfl

end Items

/-- The end of a record: the fields that have to be there are. -/
def ending (fields : List (Field σ)) (reading : Reading) (ended : List String × σ) : Decoding σ :=
  match fields.find? fun field => field.required && !ended.1.contains field.name with
  | some field => reading.fail (.missingField field.name)
  | none => return ended.2

/-- The same record is made where the same fields are missing. -/
theorem ending_alike {reading also : Reading} {a b : List String × σ} (records : a.2 = b.2)
    (missing : ∀ field ∈ fields, field.required = true →
      a.1.contains field.name = b.1.contains field.name) :
    Alike Eq (ending fields reading a) (ending fields also b) := by
  have asMuch : (fields.find? fun field => field.required && !a.1.contains field.name) =
      fields.find? fun field => field.required && !b.1.contains field.name := by
    apply List.find?_congr
    intro field member
    cases needed : field.required with
    | false => rfl
    | true => rw [missing field member needed]
  unfold ending
  rw [asMuch]
  split
  · exact fail_alike _ _
  · exact .values records

variable {name : String} {default : σ} {reading : Reading}

/-- A list stands for a record in some dialects; everything else is read by its entries. -/
theorem record_cases (reading : Reading) {document : Document} (tree : document.isTree = true) :
    (∃ items, document = .list items ∧ reading.dialect.listsAsRecords = true) ∨
    ∀ {also : Reading}, also.dialect = reading.dialect →
      record name fields default also document = (do
        let given ← entries ("struct " ++ name) also document
        let ended ← recordEntries fields also [] default given
        ending fields also ended) := by
  by_cases isRecord : reading.dialect.listsAsRecords = true ∧ ∃ items, document = .list items
  · obtain ⟨asRecords, items, rfl⟩ := isRecord
    exact .inl ⟨items, rfl, asRecords⟩
  · refine .inr fun {also} same => ?_
    unfold record
    rw [follow_of_isTree tree, pure_bind]
    dsimp only
    split
    · next items asRecords => exact absurd ⟨same ▸ asRecords, items, rfl⟩ isRecord
    · rfl

/-- What a list has to be that stands for a record. -/
def listOf (name : String) (fields : List (Field σ)) : String :=
  "struct " ++ name ++ " with " ++
    (toString fields.length ++ if fields.length = 1 then " element" else " elements")

theorem record_list {items : List Document} (isRecord : reading.dialect.listsAsRecords = true) :
    record name fields default reading (.list items) =
      recordItems (listOf name fields) reading 0 default fields items := by
  have here : reading.follow (.list items) = pure (.list items) := rfl
  unfold record
  simp only [here, pure_bind, isRecord]
  rfl

/-- In the other dialects no list is a record. -/
theorem record_list_alike {also : Reading} {items others : List Document}
    (noRecord : reading.dialect.listsAsRecords = false) (same : reading.dialect = also.dialect) :
    Alike Eq (record name fields default reading (.list items))
      (record name fields default also (.list others)) := by
  have fails (reading : Reading) (items : List Document)
      (noRecord : reading.dialect.listsAsRecords = false) :
      ∃ error, record name fields default reading (.list items) = throw error := by
    have here : reading.follow (.list items) = pure (.list items) := rfl
    unfold record
    simp only [here, pure_bind, noRecord]
    exact ⟨_, rfl⟩
  obtain ⟨error, first⟩ := fails reading items noRecord
  obtain ⟨other, second⟩ := fails also others (same ▸ noRecord)
  rw [first, second]
  exact .errors error other

theorem record_map {tag : Option Tag} {given : List (Document × Document)} :
    record name fields default reading (.withTag tag (.map given)) = (do
      let ended ← recordEntries fields reading [] default given
      ending fields reading ended) := by
  have inside (expected : String) :
      entries expected reading (.withTag tag (.map given)) = pure given := by
    cases tag <;> rfl
  unfold record
  simp only [Document.isDirect_map reading, pure_bind]
  split
  · next isList => cases tag <;> cases isList
  · simp only [inside, pure_bind]
    rfl

theorem record_steady (steady : ∀ field ∈ fields, field.read.Steady) :
    (record name fields default).Steady := by
  intro document tree reading also same
  rcases record_cases reading tree with ⟨items, rfl, isRecord⟩ | byEntries
  · rw [record_list isRecord, record_list (same ▸ isRecord)]
    exact recordItems_steady steady (Document.isTree_list_iff.mp tree) same 0
  · rw [byEntries rfl, byEntries same.symm]
    refine (entries_alike tree _ reading also).bind ?_
    rintro given _ ⟨rfl, trees⟩
    refine (recordEntries_steady steady trees same).bind_eq fun ended => ?_
    exact ending_alike rfl fun _ _ _ => rfl

end Decoder

end ManagedCluster
