import ManagedCluster.Yaml.PropertyToken

/-! # From texts to tokens

Reading a text from the left, it can turn out late that a scalar was a key: when the colon comes.
So each place where a key can start gets a slot, which holds no token until then. A key has to fit
on one line and into 1024 bytes. The indentation of a line says which blocks end before it.
-/

namespace ManagedCluster

namespace Yaml

/-- A token, or a slot for the tokens that start a key. -/
inductive Entry where
  | token (token : Token)
  | slot (number : Nat)

/-- A place where a key may have started. -/
structure OpenKey where
  slot : Nat
  /-- Nothing but a key can stand here. -/
  required : Bool
  index : Nat
  line : Nat
  column : Nat

/-- How far a text is cut into tokens. -/
structure Lexer where
  cursor : Cursor
  /-- What was found so far, the last first. -/
  found : List Entry := []
  /-- The columns of the blocks that are open, the innermost first. -/
  indents : List Nat := []
  /-- A key can start here. -/
  keyAllowed : Bool := true
  /-- The possible key outside all brackets. -/
  blockKey : Option OpenKey := none
  /-- The possible keys inside the open brackets, the innermost first. -/
  flowKeys : List (Option OpenKey) := []
  slots : Nat := 0
  /-- The slots that hold a key, and whether it is the first of its map. -/
  filled : List (Nat × Bool) := []

namespace Lexer

def inFlow (lexer : Lexer) : Bool := !lexer.flowKeys.isEmpty

/-- The possible key of the innermost brackets. -/
def openKey (lexer : Lexer) : Option OpenKey :=
  match lexer.flowKeys with
  | [] => lexer.blockKey
  | key :: _ => key

def setOpenKey (lexer : Lexer) (key : Option OpenKey) : Lexer :=
  match lexer.flowKeys with
  | [] => { lexer with blockKey := key }
  | _ :: others => { lexer with flowKeys := key :: others }

def push (lexer : Lexer) (token : Token) : Lexer :=
  { lexer with found := .token token :: lexer.found }

/-- Add a token that the next characters are. -/
def take (lexer : Lexer) (token : Token) (count : Nat) : Lexer :=
  { lexer.push token with cursor := lexer.cursor.skip count }

def takeTo (lexer : Lexer) (token : Token) (cursor : Cursor) : Lexer :=
  { lexer.push token with cursor := cursor }

/-- Whether a key can start after here. -/
def allowKey (lexer : Lexer) (allowed : Bool) : Lexer :=
  { lexer with keyAllowed := allowed }

/-- The possible key has become impossible here: it is on another line, or too long. -/
def isStale (lexer : Lexer) (key : OpenKey) : Bool :=
  key.line < lexer.cursor.line || key.index + 1024 < lexer.cursor.index

/-- The possible key, unless it has become impossible, which is wrong for a required one. -/
def refreshKey (lexer : Lexer) : Option OpenKey → Option (Option OpenKey)
  | none => some none
  | some key =>
    if lexer.isStale key then if key.required then none else some none
    else some (some key)

def dropStaleKeys (lexer : Lexer) : Option Lexer := do
  let blockKey ← lexer.refreshKey lexer.blockKey
  let flowKeys ← lexer.flowKeys.mapM lexer.refreshKey
  return { lexer with blockKey := blockKey, flowKeys := flowKeys }

/-- Give up the possible key of the innermost brackets, which is wrong for a required one. -/
def closeKey (lexer : Lexer) : Option Lexer :=
  if lexer.openKey.any (·.required) then none else some (lexer.setOpenKey none)

/-- The column of the innermost block. -/
def indent? (lexer : Lexer) : Option Nat := lexer.indents.head?

/-- Note that a key may start here, if one can. -/
def openSlot (lexer : Lexer) : Option Lexer :=
  if !lexer.keyAllowed then some lexer
  else do
    let lexer ← lexer.closeKey
    let cursor := lexer.cursor
    let required := !lexer.inFlow && lexer.indent? == some cursor.column
    let key : OpenKey := ⟨lexer.slots, required, cursor.index, cursor.line, cursor.column⟩
    let lexer := lexer.setOpenKey (some key)
    return { lexer with
      found := .slot lexer.slots :: lexer.found
      slots := lexer.slots + 1 }

/-- A block that starts in this column is a new one. -/
def isDeeper (lexer : Lexer) (column : Nat) : Bool :=
  !lexer.inFlow && lexer.indent?.all (· < column)

/-- Start a block here, unless it goes on. -/
def openBlock (lexer : Lexer) (token : Token) : Lexer :=
  let column := lexer.cursor.column
  if lexer.isDeeper column then
    { lexer.push token with indents := column :: lexer.indents }
  else lexer

/-- End the innermost of the given blocks while they are to the right of the column; without a
column, all. -/
def closeBlocksOf (column : Option Nat) (found : List Entry) : List Nat → List Entry × List Nat
  | [] => (found, [])
  | indent :: outer =>
    if column.all (· < indent) then closeBlocksOf column (.token .blockEnd :: found) outer
    else (found, indent :: outer)

/-- End the blocks that are to the right of the column. -/
def closeBlocks (lexer : Lexer) (column : Option Nat) : Lexer :=
  if lexer.inFlow then lexer
  else
    let (found, indents) := closeBlocksOf column lexer.found lexer.indents
    { lexer with found := found, indents := indents }

/-- The place of the next token: blanks, comments and breaks are passed over. A tab cannot stand
where indentation counts. An encoding mark at the start of a line is passed over too, and takes a
column. -/
def skipToToken (lexer : Lexer) : Nat → Lexer
  | 0 => lexer
  | fuel + 1 =>
    let cursor := lexer.cursor
    let cursor :=
      if cursor.column == 0 && cursor.head? == some '\ufeff' then cursor.skip 1 else cursor
    let cursor := cursor.skipWhile fun c =>
      c == ' ' || c == '\t' && (lexer.inFlow || !lexer.keyAllowed)
    let cursor := if cursor.head? == some '#' then cursor.skipWhile (!isBreak ·) else cursor
    if cursor.head?.any isBreak then
      skipToToken
        { lexer with
          cursor := cursor.skipBreak
          keyAllowed := lexer.keyAllowed || !lexer.inFlow } fuel
    else { lexer with cursor := cursor }

/-- The mark of the start or the end of a document. -/
def documentMark (lexer : Lexer) (token : Token) : Option Lexer := do
  let lexer ← (lexer.closeBlocks none).closeKey
  return (lexer.allowKey false).take token 3

def directive (lexer : Lexer) : Option Lexer := do
  let lexer ← (lexer.closeBlocks none).closeKey
  let (token, cursor) ← readDirective lexer.cursor
  return (lexer.allowKey false).takeTo token cursor

def openFlow (lexer : Lexer) (token : Token) : Option Lexer := do
  let lexer ← lexer.openSlot
  return ({ lexer with flowKeys := none :: lexer.flowKeys }.allowKey true).take token 1

def closeFlow (lexer : Lexer) (token : Token) : Option Lexer := do
  let lexer ← lexer.closeKey
  return ({ lexer with flowKeys := lexer.flowKeys.tail }.allowKey false).take token 1

def flowEntry (lexer : Lexer) : Option Lexer := do
  let lexer ← lexer.closeKey
  return (lexer.allowKey true).take .flowEntry 1

/-- The dash of an item. -/
def blockEntry (lexer : Lexer) : Option Lexer := do
  guard (lexer.inFlow || lexer.keyAllowed)
  let lexer ← (lexer.openBlock .blockListStart).closeKey
  return (lexer.allowKey true).take .blockEntry 1

/-- The question mark of a key. -/
def markedKey (lexer : Lexer) : Option Lexer := do
  guard (lexer.inFlow || lexer.keyAllowed)
  let lexer ← (lexer.openBlock .blockMapStart).closeKey
  return (lexer.allowKey (!lexer.inFlow)).take .key 1

/-- The colon before a value. If a key may have started before it on the line, it has. -/
def value (lexer : Lexer) : Option Lexer :=
  match lexer.openKey with
  | some key =>
    let first := lexer.isDeeper key.column
    let lexer := { lexer.setOpenKey none with
      filled := (key.slot, first) :: lexer.filled
      indents := if first then key.column :: lexer.indents else lexer.indents }
    some ((lexer.allowKey false).take .value 1)
  | none => do
    guard (lexer.inFlow || lexer.keyAllowed)
    let lexer := lexer.openBlock .blockMapStart
    return (lexer.allowKey (!lexer.inFlow)).take .value 1

/-- A token that may be the start of a key. -/
def keyToken (lexer : Lexer) (read : Cursor → Option ReadToken) : Option Lexer := do
  let lexer ← lexer.openSlot
  let (token, cursor) ← read lexer.cursor
  return (lexer.allowKey false).takeTo token cursor

/-- A scalar without quotes. -/
def plain (lexer : Lexer) : Option Lexer := do
  let lexer ← lexer.openSlot
  let least := (lexer.indent?.map (· + 1)).getD 0
  let (read, endsLine) ← readPlain lexer.inFlow least lexer.cursor
  return (lexer.allowKey endsLine).takeTo (.scalar (String.ofList read.text) .plain) read.next

/-- A scalar that is a block. -/
def block (lexer : Lexer) (literal : Bool) : Option Lexer := do
  let lexer ← lexer.closeKey
  let read ← readBlock literal lexer.indent? lexer.cursor
  let style := if literal then .literal else .quoted
  return (lexer.allowKey true).takeTo (.scalar (String.ofList read.text) style) read.next

/-- The token that starts with the given character. -/
def token (lexer : Lexer) (c : Char) : Option Lexer :=
  let cursor := lexer.cursor
  let inFlow := lexer.inFlow
  let standsAlone := endsWord cursor.rest.tail
  if cursor.column == 0 && c == '%' then lexer.directive
  else if cursor.atDocumentMark '-' then lexer.documentMark .documentStart
  else if cursor.atDocumentMark '.' then lexer.documentMark .documentEnd
  else if c == '[' then lexer.openFlow .flowListStart
  else if c == '\x7b' then lexer.openFlow .flowMapStart
  else if c == ']' then lexer.closeFlow .flowListEnd
  else if c == '\x7d' then lexer.closeFlow .flowMapEnd
  else if c == ',' then lexer.flowEntry
  else if c == '-' && standsAlone then lexer.blockEntry
  else if c == '?' && (inFlow || standsAlone) then lexer.markedKey
  else if c == ':' && (inFlow || standsAlone) then lexer.value
  else if c == '*' then
    lexer.keyToken fun cursor => (readName cursor).map fun (name, next) => (.alias name, next)
  else if c == '&' then
    lexer.keyToken fun cursor => (readName cursor).map fun (name, next) => (.anchor name, next)
  else if c == '!' then
    lexer.keyToken fun cursor => (readTag cursor).filter fun (_, next) => endsTag inFlow next
  else if c == '|' && !inFlow then lexer.block true
  else if c == '>' && !inFlow then lexer.block false
  else if c == '\'' || c == '"' then
    lexer.keyToken fun cursor => (readQuoted c cursor).map fun read =>
      (.scalar (String.ofList read.text) .quoted, read.next)
  else if "#|>%@`\t".toList.contains c then none
  else lexer.plain

def run (lexer : Lexer) : Nat → Option Lexer
  | 0 => none
  | fuel + 1 => do
    let lexer := lexer.skipToToken (lexer.cursor.rest.length + 1)
    let lexer ← lexer.dropStaleKeys
    let lexer := lexer.closeBlocks (some lexer.cursor.column)
    match lexer.cursor.head? with
    | some c => run (← lexer.token c) fuel
    | none => (lexer.closeBlocks none).closeKey

def tokensOf (filled : List (Nat × Bool)) : Entry → List Token
  | .token token => [token]
  | .slot number =>
    match filled.lookup number with
    | some true => [.blockMapStart, .key]
    | some false => [.key]
    | none => []

def tokens (lexer : Lexer) : List Token :=
  lexer.found.reverse.flatMap (tokensOf lexer.filled)

end Lexer

/-- A character that can stand in a text. -/
def isReadable (c : Char) : Bool :=
  c == '\t' || c == '\r' || c == '\u0085' || c == '\ufeff' || isWritable c

def Token.ofText? (text : String) : Option (List Token) := do
  let cs := text.toList
  guard (cs.all isReadable)
  let lexer ← Lexer.run { cursor := { rest := cs } } (cs.length + 2)
  return lexer.tokens

end Yaml

end ManagedCluster
