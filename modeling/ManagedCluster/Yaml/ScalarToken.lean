import ManagedCluster.Document.Resolution
import ManagedCluster.Yaml.Cursor

/-! # Scalars in YAML texts

A scalar without quotes ends before a colon or a comment, one with quotes at the closing quote,
and a block with its indentation. Scalars of several lines are folded, except in literal blocks.
-/

namespace ManagedCluster

namespace Yaml

/-- A text that was read, and the place after it. -/
structure ReadText where
  text : List Char
  next : Cursor

/-! ## Plain scalars -/

/-- A character that ends a word between brackets. -/
def isFlowMark (c : Char) : Bool := ",[]\x7b\x7d".toList.contains c

/-- The word at the start of a text. Between brackets a colon right before a mark is wrong. -/
def plainWord (inFlow : Bool) : List Char → Option (List Char)
  | [] => some []
  | c :: rest =>
    if isSeparator c then some []
    else if inFlow && c == ':' && rest.head?.any (fun d => isFlowMark d || d == '?') then none
    else if c == ':' && endsWord rest || inFlow && isFlowMark c then some []
    else (plainWord inFlow rest).map (c :: ·)

/-- The scalar that goes on at a place, after some text and a gap. The last gap is not part of it.
In a block it ends with its indentation. -/
def plainFrom (inFlow : Bool) (indent : Nat) (text : List Char) (gap : Gap) (cursor : Cursor) :
    Nat → Option (ReadText × Gap)
  | 0 => none
  | fuel + 1 =>
    if cursor.atDocumentEdge || cursor.head? == some '#' then some (⟨text, cursor⟩, gap)
    else do
      let word ← plainWord inFlow cursor.rest
      let (text, gap) := if word.isEmpty then (text, gap) else (text ++ gap.fold ++ word, {})
      let cursor := cursor.skip word.length
      if cursor.head?.any fun c => isBlank c || isBreak c then
        let (gap, cursor) ← cursor.gap indent gap
        if !inFlow && cursor.column < indent then return (⟨text, cursor⟩, gap)
        else plainFrom inFlow indent text gap cursor fuel
      else return (⟨text, cursor⟩, gap)

/-- A scalar without quotes. The flag says that a line ends after it. -/
def readPlain (inFlow : Bool) (indent : Nat) (cursor : Cursor) : Option (ReadText × Bool) :=
  (plainFrom inFlow indent [] {} cursor (cursor.rest.length + 1)).map fun (read, gap) =>
    (read, gap.hasBreak)

/-! ## Scalars between quotes -/

def escapes : List (Char × Char) := [
  ('0', '\x00'), ('a', '\x07'), ('b', '\x08'), ('t', '\t'), ('\t', '\t'), ('n', '\n'),
  ('v', '\x0b'), ('f', '\x0c'), ('r', '\r'), ('e', '\x1b'), (' ', ' '), ('"', '"'), ('/', '/'),
  ('\\', '\\'), ('N', '\u0085'), ('_', '\u00a0'), ('L', '\u2028'), ('P', '\u2029')]

/-- The escapes of a code, and the number of their digits. -/
def codeEscapes : List (Char × Nat) := [('x', 2), ('u', 4), ('U', 8)]

def charOfCode? (code : Nat) : Option Char :=
  if code.isValidChar then some (Char.ofNat code) else none

/-- The character of an escape that starts with the given letter, and the number of digits that
follow the letter. -/
def escapedChar? (letter : Char) (rest : List Char) : Option (Char × Nat) :=
  match escapes.lookup letter, codeEscapes.lookup letter with
  | some c, _ => some (c, 0)
  | none, some count => do
    guard (count ≤ rest.length)
    let code ← Scalar.digits? 16 (rest.take count)
    return (← charOfCode? code, count)
  | none, none => none

/-- How a run of characters between quotes ends. -/
inductive RunEnd where
  | quote
  | gap
  /-- A break after a backslash. -/
  | escapedBreak
  deriving DecidableEq

/-- The run of characters up to a quote or a gap, on top of those before in reverse. -/
def singleRun (text : List Char) (cursor : Cursor) : Nat → Option (List Char × RunEnd × Cursor)
  | 0 => none
  | fuel + 1 =>
    match cursor.rest with
    | '\'' :: '\'' :: _ => singleRun ('\'' :: text) (cursor.skip 2) fuel
    | '\'' :: _ => some (text, .quote, cursor)
    | c :: _ =>
      if isSeparator c then some (text, .gap, cursor)
      else singleRun (c :: text) (cursor.skip 1) fuel
    | [] => some (text, .gap, cursor)

/-- The run of characters up to a quote or a gap, on top of those before in reverse. -/
def doubleRun (text : List Char) (cursor : Cursor) : Nat → Option (List Char × RunEnd × Cursor)
  | 0 => none
  | fuel + 1 =>
    match cursor.rest with
    | '"' :: _ => some (text, .quote, cursor)
    | '\\' :: letter :: rest =>
      if isBreak letter then some (text, .escapedBreak, (cursor.skip 1).skipBreak)
      else
        match escapedChar? letter rest with
        | some (c, digits) => doubleRun (c :: text) (cursor.skip (2 + digits)) fuel
        | none => none
    | ['\\'] => none
    | c :: _ =>
      if isSeparator c then some (text, .gap, cursor)
      else doubleRun (c :: text) (cursor.skip 1) fuel
    | [] => some (text, .gap, cursor)

/-- The scalar that goes on at a place, on top of the text before in reverse. -/
def quotedFrom (run : List Char → Cursor → Nat → Option (List Char × RunEnd × Cursor))
    (quote : Char) (text : List Char) (cursor : Cursor) : Nat → Option ReadText
  | 0 => none
  | fuel + 1 =>
    if cursor.atDocumentEdge || cursor.rest.isEmpty then none
    else do
      let (text, ending, cursor) ← run text cursor (cursor.rest.length + 1)
      if cursor.head? == some quote then return ⟨text.reverse, cursor.skip 1⟩
      else
        let (gap, cursor) ← cursor.gap 0 { escaped := ending = .escapedBreak }
        quotedFrom run quote (gap.fold.reverse ++ text) cursor fuel

/-- A scalar between quotes, from the opening one on. -/
def readQuoted (quote : Char) (cursor : Cursor) : Option ReadText :=
  let run := if quote == '"' then doubleRun else singleRun
  quotedFrom run quote [] (cursor.skip 1) (cursor.rest.length + 1)

/-! ## Blocks -/

/-- What becomes of the breaks at the end of a block. -/
inductive Chomping where
  | strip
  | clip
  | keep
  deriving DecidableEq

def chompingOf? : Char → Option Chomping
  | '-' => some .strip
  | '+' => some .keep
  | _ => none

def widthOf? (c : Char) : Option Nat :=
  if '1' ≤ c ∧ c ≤ '9' then some (c.toNat - '0'.toNat) else none

/-- The header of a block after its first character: how to chomp, by how many columns the block is
indented if that is said, and the number of characters. A width of zero is wrong. -/
def blockHeader (rest : List Char) : Option (Chomping × Option Nat × Nat) :=
  let sign := rest.head?.bind chompingOf?
  let rest := if sign.isSome then rest.tail else rest
  let width := rest.head?.bind widthOf?
  if rest.head? == some '0' then none
  else if width.isNone then some (sign.getD .clip, none, if sign.isSome then 1 else 0)
  else if sign.isSome then some (sign.getD .clip, width, 2)
  else
    let sign := rest.tail.head?.bind chompingOf?
    some (sign.getD .clip, width, if sign.isSome then 2 else 1)

/-- The rest of a line after a header or a directive: blanks and a comment. -/
def endOfLine (cursor : Cursor) : Option Cursor :=
  let cursor := cursor.skipWhile isBlank
  let cursor := if cursor.head? == some '#' then cursor.skipWhile (!isBreak ·) else cursor
  if cursor.rest.isEmpty then some cursor
  else if cursor.atLineEnd then some cursor.skipBreak
  else none

/-- The empty lines at a place, up to the indentation of a line that is not empty: the breaks, the
widest indentation and the place after it. Unless it is known, the indentation has no limit. A tab
in the place of indentation is wrong. -/
def emptyLines (indent : Option Nat) (breaks : List Char) (widest : Nat) (cursor : Cursor) :
    Nat → Option (List Char × Nat × Cursor)
  | 0 => none
  | fuel + 1 =>
    let spaces := (cursor.takeWhile (· == ' ')).1.length
    let count := match indent with
      | some indent => min spaces (indent - cursor.column)
      | none => spaces
    let cursor := cursor.skip count
    let widest := max widest cursor.column
    match cursor.head? with
    | none => some (breaks, widest, cursor)
    | some c =>
      if c == '\t' && indent.all (cursor.column < ·) then none
      else if isBreak c then
        emptyLines indent (breaks ++ [Cursor.readBreak c]) widest cursor.skipBreak fuel
      else some (breaks, widest, cursor)

/-- What is known of a block while it is read. -/
structure BlockText where
  /-- The text up to the last break, in reverse. -/
  text : List Char := []
  /-- The break at the end of the last line. -/
  last : List Char := []
  /-- The breaks of the empty lines after it. -/
  empty : List Char := []
  /-- The last line starts with a blank, and is not folded. -/
  indented : Bool := false

/-- What stands between the last line and one that starts with a blank or not. -/
def BlockText.join (block : BlockText) (literal startsBlank : Bool) : List Char :=
  if !literal && block.last == ['\n'] && !block.indented && !startsBlank then
    if block.empty.isEmpty then [' '] else block.empty
  else block.last ++ block.empty

def blockLines (literal : Bool) (indent : Nat) (block : BlockText) (cursor : Cursor) :
    Nat → Option (BlockText × Cursor)
  | 0 => none
  | fuel + 1 =>
    if cursor.column != indent || cursor.rest.isEmpty then some (block, cursor)
    else do
      let startsBlank := cursor.head?.any isBlank
      let before := block.join literal startsBlank
      let (line, cursor) := cursor.takeWhile (!isBreak ·)
      let last := (cursor.head?.map Cursor.readBreak).toList
      let cursor := if cursor.rest.isEmpty then cursor else cursor.skipBreak
      let (empty, _, cursor) ← emptyLines (some indent) [] 0 cursor (cursor.rest.length + 1)
      blockLines literal indent
        ⟨line.reverse ++ before.reverse ++ block.text, last, empty, startsBlank⟩ cursor fuel

/-- A block from its first character on, inside a block with the given indentation or at the root.
-/
def readBlock (literal : Bool) (parent : Option Nat) (cursor : Cursor) : Option ReadText := do
  let cursor := cursor.skip 1
  let (chomping, width, length) ← blockHeader cursor.rest
  let cursor ← endOfLine (cursor.skip length)
  let known := width.map fun width => parent.getD 0 + width
  let (empty, widest, cursor) ← emptyLines known [] 0 cursor (cursor.rest.length + 1)
  let least := (parent.map (· + 1)).getD 1
  let indent := known.getD (max widest least)
  let (block, cursor) ←
    blockLines literal indent { empty := empty } cursor (cursor.rest.length + 1)
  let ending := match chomping with
    | .strip => []
    | .clip => block.last
    | .keep => block.last ++ block.empty
  return ⟨block.text.reverse ++ ending, cursor⟩

end Yaml

end ManagedCluster
