import ManagedCluster.Document.Basic

/-! # Schemas of documents

A schema says what documents of a kind look like. Records are described once, each under its name,
and a property that holds one refers to it.
-/

namespace ManagedCluster

/-- What the value of a property looks like. -/
inductive Shape where
  | text
  | bool
  /-- A natural number of so many bits. -/
  | word (bits : Nat)
  | textMap
  | list (item : Shape)
  /-- A record that is described elsewhere. -/
  | record (name : String)
  deriving Repr, DecidableEq

namespace Shape

/-- A schema that only names a type. -/
def typed (type : Document) : List (String × Document) := [("type", type)]

def keywords : Shape → List (String × Document)
  | text => typed (.text "string")
  | bool => typed (.text "boolean")
  | word bits =>
    [("type", .text "integer"), ("format", .text ("uint" ++ toString bits)), ("minimum", .nat 0)]
  | textMap =>
    [("type", .text "object"), ("additionalProperties", .object (typed (.text "string")))]
  | list item => [("type", .text "array"), ("items", .object item.keywords)]
  | record name => [("$ref", .text ("#/$defs/" ++ name))]

/-- The keywords of a shape whose value can also be null. -/
def orNull (shape : Shape) : List (String × Document) :=
  match shape.keywords with
  | ("type", type) :: others => ("type", .list [type, .text "null"]) :: others
  | keywords =>
    [("anyOf", .list [.object keywords, .object (typed (.text "null"))])]

end Shape

/-- The keyword for a description, unless there are no lines. -/
def Shape.describe (lines : List String) : List (String × Document) :=
  if lines.isEmpty then [] else [("description", .text ("\n".intercalate lines))]

/-- A property of a record. -/
structure Property where
  name : String
  shape : Shape
  /-- The lines that describe the property. -/
  description : List String := []
  required : Bool := false
  nullable : Bool := false
  /-- The value that stands in for a missing one, where it is not just nothing. -/
  default : Option Document := none

namespace Property

def schema (property : Property) : Document :=
  let shape := if property.nullable then property.shape.orNull else property.shape.keywords
  .object <| shape ++ Shape.describe property.description
    ++ (property.default.map ("default", ·)).toList

end Property

/-- What the documents of a record look like. -/
structure RecordSchema where
  name : String
  /-- The lines that describe the record. -/
  description : List String := []
  properties : List Property

namespace RecordSchema

def required (record : RecordSchema) : List String :=
  (record.properties.filter (·.required)).map (·.name)

def keywords (record : RecordSchema) : List (String × Document) :=
  Shape.typed (.text "object") ++ Shape.describe record.description
    ++ [("properties", .object (record.properties.map fun property =>
      (property.name, property.schema)))]
    ++ if record.required.isEmpty then [] else [("required", .texts record.required)]

def dialect : String := "https://json-schema.org/draft/2020-12/schema"

/-- The schema of a record, with the descriptions of all records that it refers to. -/
def schema (record : RecordSchema) (definitions : List RecordSchema) : Document :=
  .object <| [("$schema", .text dialect), ("title", .text record.name)] ++ record.keywords
    ++ [("$defs", .object (definitions.map fun definition =>
      (definition.name, .object definition.keywords)))]

end RecordSchema

end ManagedCluster
