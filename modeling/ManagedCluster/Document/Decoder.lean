import ManagedCluster.Document.Resolution
import ManagedCluster.Duration.Parse
import ManagedCluster.StringMap

/-! # Reading values from documents

A decoder reads a value of one type from a node of a document, or says at which node what was found
in place of what. Documents come in two dialects: YAML texts and JSON values. They differ in how a
missing value and a number are shown, and in whether a list can stand for a record. A node of a YAML
text can refer to another one. Since a short text could stand for a huge tree in this way, only so
many references are followed.
-/

namespace ManagedCluster

/-- One step from a node to a node below it. -/
inductive Step where
  | key (name : String)
  | index (position : Nat)
  /-- To the value of a key that has no text of its own. -/
  | unnamed
  deriving Repr, DecidableEq

/-- What differs between the sources of documents. -/
structure Dialect where
  /-- How a missing value is shown. -/
  nullText : String
  /-- How a number is shown. -/
  floatForm : Decimal.Form
  /-- A record can be given as the list of its fields. -/
  listsAsRecords : Bool
  /-- Messages say where the wrong node is. -/
  showsPath : Bool

namespace Dialect

def yaml : Dialect := ⟨"unit value", Decimal.positional, false, true⟩

def json : Dialect := ⟨"null", Decimal.scientific, true, false⟩

end Dialect

/-- What stands in a place where something else is expected. -/
inductive Found where
  | null
  | bool (value : Bool)
  | int (value : Int)
  | float (value : FloatNumber)
  | text (value : String)
  | list
  | map
  /-- A node with a tag of its own. -/
  | choice
  deriving Repr, DecidableEq

/-- What is wrong with a node. -/
inductive DecodeCause where
  | invalidType (found : Found) (expected : String)
  | invalidValue (found : Found) (expected : String)
  | invalidLength (length : Nat) (expected : String)
  | missingField (name : String)
  | duplicateField (name : String)
  /-- A list of several blocks where at most one can stand. -/
  | repeatedBlock (block : String) (count : Nat)
  | badDuration (error : DurationParseError)
  /-- More references were followed than the document allows. -/
  | tooManyReferences
  deriving Repr, DecidableEq

/-- Where a document is wrong, and how. -/
structure DecodeError where
  /-- The steps from the root to the wrong node. -/
  path : List Step
  cause : DecodeCause
  deriving Repr, DecidableEq

/-- A path as it is shown: keys are joined by points, and positions stand in brackets. -/
def pathText : List Step → String
  | [] => "."
  | steps => steps.foldl extend ""
where
  extend (before : String) (step : Step) : String :=
    let below := if before.isEmpty then "" else before ++ "."
    match step with
    | .key name => below ++ name
    | .index position => (if before.isEmpty then "." else before) ++ "[" ++ toString position ++ "]"
    | .unnamed => below ++ "?"

namespace FloatNumber

def message (form : Decimal.Form) : FloatNumber → String
  | finite value => value.text form
  | infinite negative => if negative then "-inf" else "inf"
  | notANumber => "NaN"

end FloatNumber

namespace Found

def message (dialect : Dialect) : Found → String
  | null => dialect.nullText
  | bool value => "boolean `" ++ toString value ++ "`"
  | int value =>
    let width :=
      if Int.pow 2 64 ≤ value then " as u128"
      else if value < -Int.pow 2 63 then " as i128"
      else ""
    "integer `" ++ toString value ++ "`" ++ width
  | float value => "floating point `" ++ value.message dialect.floatForm ++ "`"
  | text value => "string " ++ Text.quoted value
  | list => "sequence"
  | map => "map"
  | choice => "enum"

/-- A typed scalar in the wrong place. -/
def ofScalar : Scalar → Found
  | .null => null
  | .bool value => bool value
  | .int value => int value
  | .float value => float value
  | .text value => text value
  | .written form _ _ => text form

end Found

namespace DecodeCause

def message (dialect : Dialect) : DecodeCause → String
  | invalidType found expected =>
    "invalid type: " ++ found.message dialect ++ ", expected " ++ expected
  | invalidValue found expected =>
    "invalid value: " ++ found.message dialect ++ ", expected " ++ expected
  | invalidLength length expected =>
    "invalid length " ++ toString length ++ ", expected " ++ expected
  | missingField name => "missing field `" ++ name ++ "`"
  | duplicateField name => "duplicate field `" ++ name ++ "`"
  | repeatedBlock block count =>
    "at most one " ++ block ++ " block may be specified, found " ++ toString count
  | badDuration error => error.message
  | tooManyReferences => "repetition limit exceeded"

end DecodeCause

namespace DecodeError

def message (dialect : Dialect) (error : DecodeError) : String :=
  let text := error.cause.message dialect
  if dialect.showsPath && !error.path.isEmpty then pathText error.path ++ ": " ++ text else text

end DecodeError

/-- What is known of the document while one of its nodes is read. -/
structure Reading where
  dialect : Dialect
  /-- The nodes that references name. -/
  anchors : Array Document
  /-- The steps to the node, the last one first. -/
  steps : List Step

/-- A result of decoding. The state is how many references may still be followed. -/
abbrev Decoding := StateT Nat (Except DecodeError)

namespace Reading

/-- The reading of a whole document without references. -/
def root (dialect : Dialect) : Reading := ⟨dialect, #[], []⟩

def below (reading : Reading) (step : Step) : Reading :=
  { reading with steps := step :: reading.steps }

def above (reading : Reading) : Reading :=
  { reading with steps := reading.steps.tail }

def fail {α : Type} (reading : Reading) (cause : DecodeCause) : Decoding α :=
  throw ⟨reading.steps.reverse, cause⟩

/-- The node itself, or the one that it refers to. References never name each other. -/
def follow (reading : Reading) : Document → Decoding Document
  | .reference anchor => do
    match ← get with
    | 0 => throw ⟨[], .tooManyReferences⟩
    | left + 1 =>
      set left
      return reading.anchors[anchor]?.getD .null
  | node => return node

end Reading

namespace Document

/-- The node without its tag. -/
def untagged : Document → Document
  | .tagged _ collection => collection
  | other => other

def isVariant : Document → Bool
  | .tagged (.own true) _ | .scalar (.written _ _ (some (.own true))) => true
  | _ => false

end Document

/-- A way to read a value from a node. -/
abbrev Decoder (α : Type) := Reading → Document → Decoding α

namespace Reading

/-- The error for a node of the wrong kind, which is no reference. -/
def mismatch {α : Type} (reading : Reading) (node : Document) (expected : String) : Decoding α :=
  match node.untagged with
  | .list _ => reading.fail (.invalidType .list expected)
  | .map _ => reading.fail (.invalidType .map expected)
  | .scalar scalar =>
    match scalar.resolve with
    | .ok value => reading.fail (.invalidType (Found.ofScalar value) expected)
    | .error bad => reading.fail (.invalidValue (.text bad.text) bad.expected)
  | _ => reading.fail (.invalidType .null expected)

end Reading

namespace Decoder

/-- A text. Any scalar of a YAML text can be read as one. -/
def textExpecting (expected : String) : Decoder String := fun reading document => do
  let node ← reading.follow document
  match node with
  | .scalar (.text value) => return value
  | .scalar (.written form _ _) => return form
  | _ => reading.mismatch node expected

def text : Decoder String := textExpecting "a string"

/-- A scalar of a YAML text whose form can decide that it is no text: a plain one, or a literal
block with the tag for the expected type. -/
def formFor (type : CoreType) : Scalar → Option String
  | .written form .plain _ => some form
  | .written form .literal (some (.core tagged)) => if tagged = type then some form else none
  | _ => none

def bool : Decoder Bool := fun reading document => do
  let node ← reading.follow document
  match node with
  | .scalar (.bool value) => return value
  | .scalar scalar =>
    match (formFor .bool scalar).bind Scalar.bool? with
    | some value => return value
    | none => reading.mismatch node "a boolean"
  | _ => reading.mismatch node "a boolean"

/-- The integer that a scalar is. One that is not negative can be written in a YAML text. -/
def integerOf? : Scalar → Option Int
  | .int value => some value
  | scalar =>
    let number := ((formFor .int scalar).bind Scalar.unsigned?).filter (· < UInt64.size)
    number.map Int.ofNat

/-- An integer of the interval from `low` to below `high`, which messages call `name`. -/
def intBetween (low high : Int) (name : String) : Decoder Int := fun reading document => do
  let node ← reading.follow document
  match node with
  | .scalar scalar =>
    match integerOf? scalar with
    | some value =>
      if low ≤ value ∧ value < high then return value
      else reading.fail (.invalidValue (.int value) name)
    | none => reading.mismatch node name
  | _ => reading.mismatch node name

/-- A natural number below `bound`, which messages call `name`. -/
def natBelow (bound : Nat) (name : String) : Decoder Nat := fun reading document =>
  Int.toNat <$> intBetween 0 bound name reading document

/-- The items of a list. An empty scalar of a YAML text is an empty list. -/
def items (expected : String) : Decoder (List Document) := fun reading document => do
  let node ← reading.follow document
  match node.untagged with
  | .list items => return items
  | .scalar (.written "" .plain _) => return []
  | _ => reading.mismatch node expected

/-- The entries of a map. An empty scalar of a YAML text is an empty map. -/
def entries (expected : String) : Decoder (List (Document × Document)) := fun reading document => do
  let node ← reading.follow document
  match node.untagged with
  | .map entries => return entries
  | .scalar (.written "" .plain _) => return []
  | _ => reading.mismatch node expected

/-- The items in order, from the given position on. -/
def itemsFrom {α : Type} (item : Decoder α) (reading : Reading) (position : Nat) :
    List Document → Decoding (List α)
  | [] => return []
  | first :: rest => do
    let value ← item (reading.below (.index position)) first
    let values ← itemsFrom item reading (position + 1) rest
    return value :: values

def list {α : Type} (item : Decoder α) : Decoder (List α) := fun reading document => do
  itemsFrom item reading 0 (← items "a sequence" reading document)

def stepOf : Document → Step
  | .scalar (.text name) | .scalar (.written name _ _) => .key name
  | _ => .unnamed

/-- The entries of a map of texts in order, put into the given map. The last of the entries with one
key holds. -/
def textEntries (reading : Reading) (map : StringMap) :
    List (Document × Document) → Decoding StringMap
  | [] => return map
  | (key, value) :: rest => do
    let name ← text reading key
    let content ← text (reading.below (stepOf key)) value
    textEntries reading (map.insert name content) rest

def stringMap : Decoder StringMap := fun reading document => do
  textEntries reading .empty (← entries "a map" reading document)

def optional {α : Type} (value : Decoder α) : Decoder (Option α) := fun reading document => do
  let node ← reading.follow document
  match node with
  | .scalar .null => return none
  | .scalar (.written form .plain none) =>
    if form.isEmpty || Scalar.nullForms.contains form then return none
    else some <$> value reading node
  | .scalar (.written form .plain (some (.core .null))) =>
    if Scalar.nullForms.contains form then return none
    else reading.above.fail (.invalidValue (.text form) "null")
  | _ => some <$> value reading node

def duration : Decoder Duration := fun reading document => do
  let form ← textExpecting "a duration string like \"500s\" or \"5m\"" reading document
  match Duration.parse form with
  | .ok duration => return duration
  | .error error => reading.fail (.badDuration error)

/-- A block: the node itself, or the only item of a list of blocks. A missing value and an empty
list are no block. All items of a list are read before they are counted. -/
def block {α : Type} (name : String) (value : Decoder α) : Decoder (Option α) :=
  fun reading document => do
    let expected := "a " ++ name ++ " block or a list containing at most one"
    let node ← reading.follow document
    if node.isVariant then reading.fail (.invalidType .choice expected)
    else
      match node.untagged with
      | .map _ => some <$> value reading node
      | .list items => do
        let blocks ← itemsFrom value reading 0 items
        if 1 < blocks.length then reading.fail (.repeatedBlock name blocks.length)
        else return blocks.head?
      | .scalar scalar =>
        match scalar.resolve with
        | .ok .null => return none
        | _ => reading.mismatch node expected
      | _ => reading.mismatch node expected

end Decoder

end ManagedCluster
