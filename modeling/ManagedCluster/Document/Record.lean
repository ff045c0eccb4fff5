import ManagedCluster.Document.Decoder

/-! # Records in documents

A codec writes the values of one type as documents and reads them back. A record is written as the
map of its fields, and the list of its fields is both how it is written and how it is read: the
fields stand in the order of the list, and one that holds its default is left out.
-/

namespace ManagedCluster

/-- How the values of a type stand in documents. -/
structure Codec (α : Type) where
  write : α → Document
  read : Decoder α

/-- One field of a record. -/
structure Field (σ : Type) where
  name : String
  /-- A document without the field is wrong. -/
  required : Bool
  /-- The value of the field, unless it is left out. -/
  write : σ → Option Document
  /-- What a value of the field changes in the record. -/
  read : Decoder (σ → σ)

namespace Codec

def text : Codec String := ⟨.text, .text⟩

def bool : Codec Bool := ⟨.bool, .bool⟩

def word32 : Codec UInt32 where
  write value := .nat value.toNat
  read reading document := UInt32.ofNat <$> Decoder.natBelow UInt32.size "u32" reading document

def word64 : Codec UInt64 where
  write value := .nat value.toNat
  read reading document := UInt64.ofNat <$> Decoder.natBelow UInt64.size "u64" reading document

def int32 : Codec Int32 where
  write value := .int value.toInt
  read reading document :=
    Int32.ofInt <$> Decoder.intBetween (-Int.pow 2 31) (Int.pow 2 31) "i32" reading document

def duration : Codec Duration := ⟨fun duration => .text duration.text, .duration⟩

def list {α : Type} (item : Codec α) : Codec (List α) :=
  ⟨fun values => .list (values.map item.write), .list item.read⟩

def stringMap : Codec StringMap :=
  ⟨fun map => .object (map.entries.map fun (key, value) => (key, .text value)), .stringMap⟩

end Codec

namespace Field

variable {σ α : Type}

/-- A field that has to be there. -/
def mandatory (name : String) (codec : Codec α) (get : σ → α) (set : α → σ → σ) : Field σ where
  name := name
  required := true
  write record := some (codec.write (get record))
  read reading document := set <$> codec.read reading document

/-- A field that is always written and can be missing in a document. -/
def defaulted (name : String) (codec : Codec α) (get : σ → α) (set : α → σ → σ) : Field σ where
  name := name
  required := false
  write record := some (codec.write (get record))
  read reading document := set <$> codec.read reading document

/-- A field that is left out while its value is empty. -/
def unlessEmpty (name : String) (codec : Codec α) (isEmpty : α → Bool) (get : σ → α)
    (set : α → σ → σ) : Field σ where
  name := name
  required := false
  write record := if isEmpty (get record) then none else some (codec.write (get record))
  read reading document := set <$> codec.read reading document

/-- A field that may have no value. -/
def optional (name : String) (codec : Codec α) (get : σ → Option α) (set : Option α → σ → σ) :
    Field σ where
  name := name
  required := false
  write record := (get record).map codec.write
  read reading document := set <$> Decoder.optional codec.read reading document

/-- A field that holds at most one block, which can also be given as a list. -/
def block (name : String) (codec : Codec α) (get : σ → Option α) (set : Option α → σ → σ) :
    Field σ where
  name := name
  required := false
  write record := (get record).map codec.write
  read reading document := set <$> Decoder.block name codec.read reading document

end Field

namespace Decoder

variable {σ : Type}

/-- Read entries in order. Each changes the record; a name that was seen before is wrong, and one
that is no field is passed over. The result is the record with the names of its fields. -/
def recordEntries (fields : List (Field σ)) (reading : Reading) (seen : List String) (record : σ) :
    List (Document × Document) → Decoding (List String × σ)
  | [] => return (seen, record)
  | (key, value) :: rest => do
    let name ← textExpecting "field identifier" reading key
    match fields.find? (·.name == name) with
    | none => recordEntries fields reading seen record rest
    | some field =>
      if seen.contains name then reading.fail (.duplicateField name)
      else
        let change ← field.read (reading.below (stepOf key)) value
        recordEntries fields reading (name :: seen) (change record) rest

/-- Read the values of fields in order; what is missing at the end keeps its default. -/
def recordItems (expected : String) (reading : Reading) (position : Nat) (record : σ) :
    List (Field σ) → List Document → Decoding σ
  | [], [] => return record
  | [], items => reading.fail (.invalidLength (position + items.length) "fewer elements in array")
  | field :: fields, [] =>
    if field.required then reading.fail (.invalidLength position expected)
    else recordItems expected reading (position + 1) record fields []
  | field :: fields, value :: rest => do
    let change ← field.read (reading.below (.index position)) value
    recordItems expected reading (position + 1) (change record) fields rest

/-- A record with the given fields. Fields that are missing keep the values of `default`. -/
def record (name : String) (fields : List (Field σ)) (default : σ) : Decoder σ :=
  fun reading document => do
    let expected := "struct " ++ name
    let node ← reading.follow document
    match reading.dialect.listsAsRecords, node with
    | true, .list items =>
      let count := toString fields.length ++ (if fields.length = 1 then " element" else " elements")
      recordItems (expected ++ " with " ++ count) reading 0 default fields items
    | _, _ =>
      let entries ← entries expected reading node
      let (seen, record) ← recordEntries fields reading [] default entries
      match fields.find? fun field => field.required && !seen.contains field.name with
      | some field => reading.fail (.missingField field.name)
      | none => return record

end Decoder

namespace Codec

/-- A record with the given fields. Fields that are missing keep the values of `default`. -/
def record {σ : Type} (name : String) (fields : List (Field σ)) (default : σ) : Codec σ where
  write value := .object (fields.filterMap fun field => (field.write value).map (field.name, ·))
  read := .record name fields default

/-- The value that a document without references holds. -/
def decode {α : Type} (codec : Codec α) (dialect : Dialect) (document : Document) :
    Except DecodeError α :=
  (codec.read (.root dialect) document).run' 0

end Codec

end ManagedCluster
