import ManagedCluster.Yaml.ScalarForm

/-! # Documents as YAML texts

Every entry of a map and every item of a list has a row of its own. A map is set two columns to the
right of the one around it, and a list under a key stays in the column of the key. An item that is
itself a collection starts in the row of its dash.
-/

namespace ManagedCluster

namespace Yaml

/-- A row with a break at its end. -/
def closed (row : List Char) : List Char :=
  if row.getLast?.any isBreak then row else row ++ ['\n']

def rowsAt (indent : Nat) (rows : List (List Char)) : List Char :=
  rows.flatMap fun row => indentation indent ++ closed row

/-- Rows of which the first goes on where something was written before. -/
def rowsFrom (indent : Nat) (rows : List (List Char)) : List Char :=
  (rowsAt indent rows).drop indent

/-- A key that fits before its colon: one line of at most 128 bytes. -/
def isSimpleKey : Document → Bool
  | .scalar (.text text) | .scalar (.written text _ _) =>
    !isMultiline text.toList && text.utf8ByteSize ≤ 128
  | .scalar _ | .list [] | .map [] => true
  | _ => false

mutual

/-- The rows of a list or a map, in the given column. -/
def rows (indent : Nat) : Document → List (List Char)
  | .list items => itemRows indent items
  | .map entries => entryRows indent entries
  | .tagged _ collection => rows indent collection
  | .scalar _ | .reference _ => []

def itemRows (indent : Nat) : List Document → List (List Char)
  | [] => []
  | item :: rest => ('-' :: afterMark indent item) :: itemRows indent rest

def entryRows (indent : Nat) : List (Document × Document) → List (List Char)
  | [] => []
  | (key, value) :: rest =>
    let here :=
      if isSimpleKey key then
        [(afterMark indent key).drop 1 ++ ':' :: afterKey indent value]
      else ['?' :: afterMark indent key, ':' :: afterMark indent value]
    here ++ entryRows indent rest

/-- What follows the mark of an item, or of a key or value that is marked like one. -/
def afterMark (indent : Nat) : Document → List Char
  | .scalar value => ' ' :: writeScalar (indent + 2) value
  | .list [] => " []".toList
  | .map [] => " \x7b\x7d".toList
  | .list items => ' ' :: rowsFrom (indent + 2) (itemRows (indent + 2) items)
  | .map entries => ' ' :: rowsFrom (indent + 2) (entryRows (indent + 2) entries)
  | .tagged _ collection => afterMark indent collection
  | .reference _ => " null".toList

/-- What follows the colon of a simple key. -/
def afterKey (indent : Nat) : Document → List Char
  | .scalar value => ' ' :: writeScalar (indent + 2) value
  | .list [] => " []".toList
  | .map [] => " \x7b\x7d".toList
  | .list items => '\n' :: rowsAt indent (itemRows indent items)
  | .map entries => '\n' :: rowsAt (indent + 2) (entryRows (indent + 2) entries)
  | .tagged _ collection => afterKey indent collection
  | .reference _ => " null".toList

end

/-- A whole document without the mark of its start. -/
def body : Document → List Char
  | .scalar value => closed (writeScalar 2 value)
  | .list [] => "[]\n".toList
  | .map [] => "\x7b\x7d\n".toList
  | document => rowsAt 0 (rows 0 document)

def separator : String := "---\n"

/-- What stands before a document. -/
def start (explicitStart : Bool) : String := if explicitStart then separator else ""

def write (explicitStart : Bool) (document : Document) : String :=
  start explicitStart ++ String.ofList (body document)

/-- The bytes that are left of a space after a text, if it fits. -/
def spaceAfter? (space : Nat) (text : String) : Option Nat :=
  if text.utf8ByteSize ≤ space then some (space - text.utf8ByteSize) else none

end Yaml

end ManagedCluster
