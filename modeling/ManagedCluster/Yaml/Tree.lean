import ManagedCluster.Document.Decoder
import ManagedCluster.Yaml.Lexer

/-! # From tokens to documents

The tokens of a text are the leaves and brackets of one document. What is left out between two
marks is an empty scalar. A node that has a name is kept apart, so that references can find it; a
name can be given again, and a node can refer to one that it is part of.
-/

namespace ManagedCluster

namespace Yaml

/-- What is left to read, and which nodes have names. -/
structure TreeState where
  tokens : List Token
  /-- The handles of tags and what they are short for. -/
  handles : List (String × List UInt8)
  /-- The number of each name. -/
  names : List (String × Nat) := []
  /-- For each number the node that has it, the last one first. -/
  places : List (Nat × Nat) := []
  /-- How many nodes with names have started. -/
  started : Nat := 0
  /-- The nodes with names that are read to their end. -/
  nodes : List (Nat × Document) := []

/-- A document whose references are numbers of nodes. -/
structure Tree where
  root : Document
  anchors : Array Document
  deriving DecidableEq

namespace TreeState

/-- Go on after the next token. -/
def next (state : TreeState) : TreeState := { state with tokens := state.tokens.tail }

def sees (state : TreeState) (tokens : List Token) : Bool :=
  state.tokens.head?.any tokens.contains

/-- Note that a node with this name starts. Numbers count the names that differ, so a name that is
given again shares its number with the next new one, and the last node with a number has it. -/
def start (state : TreeState) (name : String) : TreeState :=
  let number := state.names.length
  { state with
    names := (name, number) :: state.names.filter (·.1 != name)
    places := (number, state.started) :: state.places
    started := state.started + 1 }

/-- Keep a node that is read, if it has a name. -/
def finish (state : TreeState) (place : Option Nat) (node : Document) : TreeState :=
  match place with
  | some place => { state with nodes := (place, node) :: state.nodes }
  | none => state

/-- The tag that a handle and a suffix are short for. -/
def fullTag? (state : TreeState) (handle : String) (suffix : List UInt8) : Option Tag :=
  if handle.isEmpty then some (tagOfBytes suffix)
  else (state.handles.lookup handle).map fun full => tagOfBytes (full ++ suffix)

/-- The nodes with names, by their numbers. -/
def anchors (state : TreeState) : Array Document :=
  let number (n : Nat) : Document :=
    ((state.places.lookup n).bind fun place => state.nodes.lookup place).getD .null
  ((List.range (state.names.length + 1)).map number).toArray

end TreeState

/-- The scalar that stands where nothing is written. -/
def emptyScalar (tag : Option Tag) : Document := .scalar (.written "" .plain tag)

/-- A list or a map with a tag, if it has one. -/
def withTag (tag : Option Tag) (collection : Document) : Document :=
  match tag with
  | some tag => .tagged tag collection
  | none => collection

/-- The properties in front of a node. -/
structure Properties where
  name : Option String := none
  tag : Option (String × List UInt8) := none

/-- The name and the tag in front of a node, in either order. -/
def takeProperties : List Token → Properties × List Token
  | .anchor name :: .tag handle suffix :: rest => (⟨some name, some (handle, suffix)⟩, rest)
  | .tag handle suffix :: .anchor name :: rest => (⟨some name, some (handle, suffix)⟩, rest)
  | .anchor name :: rest => (⟨some name, none⟩, rest)
  | .tag handle suffix :: rest => (⟨none, some (handle, suffix)⟩, rest)
  | rest => ({}, rest)

mutual

/-- A node. Blocks are only possible outside brackets, and a list in the column of its key only
after a key. -/
def node (fuel : Nat) (inBlock afterKey : Bool) (state : TreeState) :
    Option (Document × TreeState) :=
  match fuel, state.tokens with
  | 0, _ => none
  | _, .alias name :: _ => do
    let number ← state.names.lookup name
    return (.reference number, state.next)
  | fuel + 1, tokens => do
    let (properties, rest) := takeProperties tokens
    let tag ← match properties.tag with
      | some (handle, suffix) => (state.fullTag? handle suffix).map some
      | none => some none
    let place := properties.name.map fun _ => state.started
    let state := { state with tokens := rest }
    let state := match properties.name with
      | some name => state.start name
      | none => state
    let (document, state) ← content fuel inBlock afterKey (place.isSome || tag.isSome) tag state
    return (document, state.finish place document)

/-- What stands in a node after its properties. Properties alone make an empty scalar. -/
def content (fuel : Nat) (inBlock afterKey hasProperties : Bool) (tag : Option Tag)
    (state : TreeState) : Option (Document × TreeState) :=
  match fuel with
  | 0 => none
  | fuel + 1 =>
    let collection (result : Option (Document × TreeState)) : Option (Document × TreeState) :=
      result.map fun (document, state) => (withTag tag document, state)
    match state.tokens with
    | .scalar text style :: _ =>
      some (.scalar (.written text style tag), state.next)
    | .flowListStart :: _ => collection (flowItems fuel true [] state.next)
    | .flowMapStart :: _ => collection (flowEntries fuel true [] state.next)
    | token :: _ =>
      if token == .blockEntry && afterKey then collection (plainItems fuel [] state)
      else if token == .blockListStart && inBlock then collection (blockItems fuel [] state.next)
      else if token == .blockMapStart && inBlock then collection (blockEntries fuel [] state.next)
      else if hasProperties then some (emptyScalar tag, state)
      else none
    | [] => if hasProperties then some (emptyScalar tag, state) else none

/-- A node, or an empty scalar if one of the given tokens is next. -/
def nodeUnless (fuel : Nat) (inBlock afterKey : Bool) (tokens : List Token) (state : TreeState) :
    Option (Document × TreeState) :=
  match fuel with
  | 0 => none
  | fuel + 1 =>
    if state.sees tokens then some (emptyScalar none, state)
    else node fuel inBlock afterKey state

/-- The items of a block, after those before in reverse. -/
def blockItems (fuel : Nat) (before : List Document) (state : TreeState) :
    Option (Document × TreeState) :=
  match fuel, state.tokens with
  | fuel + 1, .blockEntry :: _ => do
    let (item, state) ← nodeUnless fuel true false [.blockEntry, .blockEnd] state.next
    blockItems fuel (item :: before) state
  | _ + 1, .blockEnd :: _ => some (.list before.reverse, state.next)
  | _, _ => none

/-- The items in the column of a key, which end without a mark. -/
def plainItems (fuel : Nat) (before : List Document) (state : TreeState) :
    Option (Document × TreeState) :=
  match fuel, state.tokens with
  | 0, _ => none
  | fuel + 1, .blockEntry :: _ => do
    let (item, state) ←
      nodeUnless fuel true false [.blockEntry, .key, .value, .blockEnd] state.next
    plainItems fuel (item :: before) state
  | _ + 1, _ => some (.list before.reverse, state)

/-- The entries of a block, after those before in reverse. -/
def blockEntries (fuel : Nat) (before : List (Document × Document)) (state : TreeState) :
    Option (Document × TreeState) :=
  match fuel, state.tokens with
  | fuel + 1, .key :: _ => do
    let ends := [Token.key, .value, .blockEnd]
    let (key, state) ← nodeUnless fuel true true ends state.next
    let (value, state) ← valueUnless fuel true ends state
    blockEntries fuel ((key, value) :: before) state
  | _ + 1, .blockEnd :: _ => some (.map before.reverse, state.next)
  | _, _ => none

/-- The value after a colon, or an empty scalar if there is no colon or one of the given tokens
follows it. -/
def valueUnless (fuel : Nat) (inBlock : Bool) (ends : List Token) (state : TreeState) :
    Option (Document × TreeState) :=
  match fuel with
  | 0 => none
  | fuel + 1 =>
    if state.sees [.value] then nodeUnless fuel inBlock inBlock ends state.next
    else some (emptyScalar none, state)

/-- The items between brackets, after those before in reverse. -/
def flowItems (fuel : Nat) (first : Bool) (before : List Document) (state : TreeState) :
    Option (Document × TreeState) :=
  match fuel with
  | 0 => none
  | fuel + 1 =>
    if state.sees [.flowListEnd] then some (.list before.reverse, state.next)
    else if !first && !state.sees [.flowEntry] then none
    else
      let state := if first then state else state.next
      if state.sees [.flowListEnd] then some (.list before.reverse, state.next)
      else do
        let (item, state) ←
          if state.sees [.key] then flowPair fuel state.next else node fuel false false state
        flowItems fuel false (item :: before) state

/-- An item that is a map of one entry. Where its key is left out, the token there is lost. -/
def flowPair (fuel : Nat) (state : TreeState) : Option (Document × TreeState) :=
  match fuel with
  | 0 => none
  | fuel + 1 => do
    let (key, state) ←
      if state.sees [.value, .flowEntry, .flowListEnd] then some (emptyScalar none, state.next)
      else node fuel false false state
    let (value, state) ← valueUnless fuel false [.flowEntry, .flowListEnd] state
    return (.map [(key, value)], state)

/-- The entries between braces, after those before in reverse. -/
def flowEntries (fuel : Nat) (first : Bool) (before : List (Document × Document))
    (state : TreeState) : Option (Document × TreeState) :=
  match fuel with
  | 0 => none
  | fuel + 1 =>
    if state.sees [.flowMapEnd] then some (.map before.reverse, state.next)
    else if !first && !state.sees [.flowEntry] then none
    else
      let state := if first then state else state.next
      if state.sees [.flowMapEnd] then some (.map before.reverse, state.next)
      else if state.sees [.key] then do
        let (key, state) ←
          nodeUnless fuel false false [.value, .flowEntry, .flowMapEnd] state.next
        let (value, state) ← valueUnless fuel false [.flowEntry, .flowMapEnd] state
        flowEntries fuel false ((key, value) :: before) state
      else do
        let (key, state) ← node fuel false false state
        flowEntries fuel false ((key, emptyScalar none) :: before) state

end

/-- The directives in front of a document. There is at most one version, which has to be known,
and one directive for each handle. -/
def takeDirectives (versions : Nat) (handles : List (String × List UInt8)) :
    List Token → Option (List (String × List UInt8) × List Token)
  | .version major minor :: rest => do
    guard (versions == 0 && major == 1 && (minor == 1 || minor == 2))
    takeDirectives 1 handles rest
  | .tagHandle handle full :: rest => do
    guard (handles.lookup handle).isNone
    takeDirectives versions ((handle, full) :: handles) rest
  | rest => some (handles, rest)

/-- The handles that need no directive. -/
def standardHandles : List (String × List UInt8) :=
  [("!", asciiBytes ['!']), ("!!", asciiBytes coreTagStart.toList)]

def startsDocument : Token → Bool
  | .version _ _ | .tagHandle _ _ | .documentStart | .documentEnd => true
  | _ => false

/-- The only document of the tokens. A text without a document is an empty scalar. -/
def Tree.ofTokens? (tokens : List Token) : Option Tree := do
  let fuel := 5 * tokens.length + 8
  let (handles, rest) ← takeDirectives 0 [] tokens
  let hasDirectives := rest.length < tokens.length
  let explicitStart := rest.head? == some .documentStart
  guard (explicitStart || !hasDirectives)
  let content := if explicitStart then rest.tail else rest
  let state : TreeState := { tokens := content, handles := handles ++ standardHandles }
  let isEmpty := if explicitStart then content.head?.all startsDocument else content.isEmpty
  let (root, state) ←
    if isEmpty then some (emptyScalar none, state) else node fuel true false state
  guard (state.tokens.all (· == .documentEnd))
  return ⟨root, state.anchors⟩

/-- The document of a text, unless the text is malformed. -/
def read? (text : String) : Option Tree :=
  (Token.ofText? text).bind Tree.ofTokens?

/-- Why a value could not be loaded from a text. -/
inductive LoadError where
  | malformed
  | decode (error : DecodeError)
  deriving Repr, DecidableEq

namespace LoadError

def message : LoadError → String
  | malformed => "malformed YAML"
  | decode error => error.message .yaml

end LoadError

/-- How many references may be followed for each mark of a document. -/
def referencesPerMark : Nat := 100

def load {α : Type} (decoder : Decoder α) (text : String) : Except LoadError α :=
  match read? text with
  | none => .error .malformed
  | some tree =>
    let reading : Reading := { dialect := .yaml, anchors := tree.anchors, steps := [] }
    ((decoder reading tree.root).run' (referencesPerMark * tree.root.marks)).mapError .decode

end Yaml

end ManagedCluster
