import ManagedCluster.Yaml.Character

/-! # Places in a text

A cursor is a place in a text: what is left to read, and the index, line and column there. The index
counts bytes, the column characters. A break
of two characters counts as one. Words of a scalar are separated by gaps, which fold when the
scalar is read: a single line break becomes a space, and of several the first is dropped.
-/

namespace ManagedCluster

namespace Yaml

/-- A place in a text. -/
structure Cursor where
  rest : List Char
  /-- The number of bytes before the place. -/
  index : Nat := 0
  line : Nat := 0
  column : Nat := 0

def byteCount (cs : List Char) : Nat := cs.foldl (fun bytes c => bytes + c.utf8Size) 0

namespace Cursor

/-- The place after the next `count` characters, which are no breaks. -/
def skip (cursor : Cursor) (count : Nat) : Cursor :=
  { cursor with
    rest := cursor.rest.drop count
    index := cursor.index + byteCount (cursor.rest.take count)
    column := cursor.column + count }

/-- The place after the next break. -/
def skipBreak (cursor : Cursor) : Cursor :=
  let count := match cursor.rest with
    | '\r' :: '\n' :: _ => 2
    | _ => 1
  ⟨cursor.rest.drop count, cursor.index + byteCount (cursor.rest.take count), cursor.line + 1, 0⟩

/-- The next characters that pass a test, and the place after them. None of them is a break. -/
def takeWhile (test : Char → Bool) (cursor : Cursor) : List Char × Cursor :=
  let taken := cursor.rest.takeWhile test
  (taken, cursor.skip taken.length)

def skipWhile (test : Char → Bool) (cursor : Cursor) : Cursor := (cursor.takeWhile test).2

def head? (cursor : Cursor) : Option Char := cursor.rest.head?

/-- A break or the end of the text is next. -/
def atLineEnd (cursor : Cursor) : Bool := cursor.head?.all isBreak

def startsWith (cursor : Cursor) (text : List Char) : Bool := text.isPrefixOf cursor.rest

/-- A line starts here with three equal characters that mark the start or the end of a document. -/
def atDocumentMark (cursor : Cursor) (mark : Char) : Bool :=
  cursor.column == 0 && cursor.startsWith [mark, mark, mark] && endsWord (cursor.rest.drop 3)

/-- A document starts or ends here. -/
def atDocumentEdge (cursor : Cursor) : Bool :=
  cursor.atDocumentMark '-' || cursor.atDocumentMark '.'

/-- How a break is read: the ones of one line are alike, the others stand for themselves. -/
def readBreak (c : Char) : Char := if c == '\u2028' || c == '\u2029' then c else '\n'

end Cursor

/-- What stands between two words. -/
structure Gap where
  /-- The blanks before the first break. -/
  blanks : List Char := []
  breaks : List Char := []
  /-- The first break does not count. -/
  escaped : Bool := false

namespace Gap

/-- A line ends in the gap. -/
def hasBreak (gap : Gap) : Bool := gap.escaped || !gap.breaks.isEmpty

/-- What the gap is read as. -/
def fold (gap : Gap) : List Char :=
  if gap.escaped then gap.breaks
  else
    match gap.breaks with
    | [] => gap.blanks
    | ['\n'] => [' ']
    | '\n' :: others => others
    | breaks => breaks

/-- The gap with one more blank. Blanks at the start of a line do not count. -/
def blank (gap : Gap) (c : Char) : Gap :=
  if gap.hasBreak then gap else { gap with blanks := gap.blanks ++ [c] }

def line (gap : Gap) (c : Char) : Gap := { gap with breaks := gap.breaks ++ [c] }

end Gap

namespace Cursor

/-- The gap that goes on at a place. A tab before the given column is wrong at the start of a
line. -/
def gapFrom (minColumn : Nat) (gap : Gap) (index line column : Nat) :
    List Char → Option (Gap × Cursor)
  | '\r' :: '\n' :: rest => gapFrom minColumn (gap.line '\n') (index + 2) (line + 1) 0 rest
  | c :: rest =>
    if isBlank c then
      if gap.hasBreak && c == '\t' && column < minColumn then none
      else gapFrom minColumn (gap.blank c) (index + c.utf8Size) line (column + 1) rest
    else if isBreak c then
      gapFrom minColumn (gap.line (readBreak c)) (index + c.utf8Size) (line + 1) 0 rest
    else some (gap, ⟨c :: rest, index, line, column⟩)
  | [] => some (gap, ⟨[], index, line, column⟩)

/-- The gap at a place, and the place after it. -/
def gap (cursor : Cursor) (minColumn : Nat) (start : Gap) : Option (Gap × Cursor) :=
  gapFrom minColumn start cursor.index cursor.line cursor.column cursor.rest

end Cursor

end Yaml

end ManagedCluster
