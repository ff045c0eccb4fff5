import ManagedCluster.Decimal.Text

/-! # Documents

A document is a tree of scalars, lists and maps. Documents that the library writes hold typed
scalars. A scalar that was read from a YAML text keeps its text and style instead, since what it
means depends on what is expected in its place: a plain `1.30` is a text where a text is expected.
-/

namespace ManagedCluster

/-- A number that is no integer. -/
inductive FloatNumber where
  | finite (value : Decimal)
  | infinite (negative : Bool)
  | notANumber
  deriving Repr, DecidableEq

/-- How a scalar stands in a text: without quotes, as a literal block, or in any other way. -/
inductive ScalarStyle where
  | plain
  | literal
  | quoted
  deriving Repr, DecidableEq

/-- The types of the core schema that a tag can ask for. -/
inductive CoreType where
  | bool
  | int
  | float
  | null
  deriving Repr, DecidableEq

/-- What the tag of a node says. -/
inductive Tag where
  | core (type : CoreType)
  /-- A tag of the text's own. One whose bytes are no text names nothing. -/
  | own (isText : Bool)
  | other
  deriving Repr, DecidableEq

/-- A leaf of a document. -/
inductive Scalar where
  | null
  | bool (value : Bool)
  | int (value : Int)
  | float (value : FloatNumber)
  | text (value : String)
  /-- A scalar of a YAML text, with its tag if it has one. -/
  | written (text : String) (style : ScalarStyle) (tag : Option Tag)
  deriving Repr, DecidableEq

/-- A tree of scalars, lists and maps. -/
inductive Document where
  | scalar (value : Scalar)
  | list (items : List Document)
  | map (entries : List (Document × Document))
  /-- A list or a map with a tag. -/
  | tagged (tag : Tag) (collection : Document)
  /-- The node with the given number among those that the text names. -/
  | reference (anchor : Nat)
  deriving Repr

namespace Document

instance : Inhabited Document := ⟨scalar .null⟩

abbrev null : Document := scalar .null

abbrev bool (value : Bool) : Document := scalar (.bool value)

abbrev int (value : Int) : Document := scalar (.int value)

abbrev nat (value : Nat) : Document := scalar (.int value)

abbrev text (value : String) : Document := scalar (.text value)

mutual

/-- Whether two documents are the same. -/
def same : Document → Document → Bool
  | scalar value, scalar other => value == other
  | list items, list others => sameItems items others
  | map entries, map others => sameEntries entries others
  | tagged tag collection, tagged mark other => tag == mark && same collection other
  | reference anchor, reference other => anchor == other
  | _, _ => false

def sameItems : List Document → List Document → Bool
  | [], [] => true
  | item :: items, other :: others => same item other && sameItems items others
  | _, _ => false

def sameEntries : List (Document × Document) → List (Document × Document) → Bool
  | [], [] => true
  | (key, value) :: entries, (name, content) :: others =>
    same key name && same value content && sameEntries entries others
  | _, _ => false

end

mutual

theorem same_iff (document other : Document) : same document other = true ↔ document = other := by
  cases document with
  | scalar value => cases other <;> simp [same]
  | list items => cases other <;> simp [same, sameItems_iff items]
  | map entries => cases other <;> simp [same, sameEntries_iff entries]
  | tagged tag collection => cases other <;> simp [same, same_iff collection]
  | reference anchor => cases other <;> simp [same]

theorem sameItems_iff (items others : List Document) :
    sameItems items others = true ↔ items = others := by
  cases items with
  | nil => cases others <;> simp [sameItems]
  | cons item items => cases others <;> simp [sameItems, same_iff item, sameItems_iff items]

theorem sameEntries_iff (entries others : List (Document × Document)) :
    sameEntries entries others = true ↔ entries = others := by
  cases entries with
  | nil => cases others <;> simp [sameEntries]
  | cons entry entries =>
      obtain ⟨key, value⟩ := entry
      cases others <;>
        simp [sameEntries, Prod.ext_iff, same_iff key, same_iff value, sameEntries_iff entries]

end

instance : DecidableEq Document := fun document other =>
  decidable_of_iff (same document other = true) (same_iff document other)

mutual

/-- The number of marks in a document: one for a leaf, and two for the ends of a list or a map. -/
def marks : Document → Nat
  | scalar _ | reference _ => 1
  | tagged _ collection => marks collection
  | list items => 2 + itemMarks items
  | map entries => 2 + entryMarks entries

def itemMarks : List Document → Nat
  | [] => 0
  | item :: rest => marks item + itemMarks rest

def entryMarks : List (Document × Document) → Nat
  | [] => 0
  | (key, value) :: rest => marks key + marks value + entryMarks rest

end

def object (entries : List (String × Document)) : Document :=
  map (entries.map fun (key, value) => (text key, value))

def texts (values : List String) : Document := list (values.map text)

end Document

end ManagedCluster
