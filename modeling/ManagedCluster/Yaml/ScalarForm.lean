import ManagedCluster.Document.Resolution
import ManagedCluster.Yaml.Character

/-! # Forms of written texts

A text stands in a document as it is, between single or double quotes, or as a literal block. The
first form that reads back as the same text is taken; a text of several lines is a literal block
where it can be one. A text that would be read as a number, a truth value or nothing at all is
quoted.
-/

namespace ManagedCluster

namespace Yaml

/-- How a text is written. -/
inductive ScalarForm where
  | plain
  | single
  | double
  | literal
  deriving Repr, DecidableEq

/-- A character that means something at the start of a text. -/
def isIndicator (c : Char) : Bool :=
  ",[]\x7b\x7d#&*!|>'\"%@`".toList.contains c

/-- The start of a text has a meaning of its own. -/
def startsMarked : List Char → Bool
  | '-' :: '-' :: '-' :: _ | '.' :: '.' :: '.' :: _ => true
  | c :: rest => isIndicator c || (c == '?' || c == ':' || c == '-') && endsWord rest
  | [] => false

/-- Something after the start of a text ends a key or starts a comment. The flag says that a
separator stands before the text. -/
def marksInside (separated : Bool) : List Char → Bool
  | [] => false
  | c :: rest =>
    c == ':' && endsWord rest || c == '#' && separated || marksInside (isSeparator c) rest

/-- Some character that passes the first test stands before one that passes the second. -/
def hasPair (first second : Char → Bool) : List Char → Bool
  | a :: b :: rest => first a && second b || hasPair first second (b :: rest)
  | _ => false

def isMultiline (text : List Char) : Bool := text.any isBreak

/-- A text with a character that only an escape can write. -/
def needsEscape (text : List Char) : Bool := text.any (!isWritable ·)

def hasSpaceBeforeBreak (text : List Char) : Bool := hasPair (· == ' ') isBreak text

/-- A text that can stand as it is. -/
def isPlain (text : List Char) : Bool :=
  text.head?.any (· != ' ') && text.getLast?.any (· != ' ') && !isMultiline text
    && !needsEscape text && !startsMarked text && !marksInside false text.tail

/-- A text that can stand between single quotes. -/
def isSingle (text : List Char) : Bool :=
  !hasPair isBreak (· == ' ') text && !hasSpaceBeforeBreak text && !needsEscape text

/-- A text that can be a literal block. -/
def isLiteral (text : List Char) : Bool :=
  text.getLast?.any (· != ' ') && !hasSpaceBeforeBreak text && !needsEscape text

/-- The text would not be read as a text. -/
def isAmbiguous (text : String) : Bool :=
  match Scalar.resolvePlain text with
  | .text _ => Scalar.isPaddedNumeral text.toList
  | _ => true

def ScalarForm.of (text : String) : ScalarForm :=
  let cs := text.toList
  if cs.contains '\n' then if isLiteral cs then .literal else .double
  else if isPlain cs && !isAmbiguous text then .plain
  else if isSingle cs then .single
  else .double

def indentation (indent : Nat) : List Char := List.replicate indent ' '

/-- The text with every line moved to the right, except those without characters. The flag says
that a line starts here. -/
def indented (indent : Nat) (atStart : Bool) : List Char → List Char
  | [] => []
  | c :: rest =>
    if isBreak c then c :: indented indent true rest
    else (if atStart then indentation indent else []) ++ c :: indented indent false rest

/-- A text between single quotes. A quote is written twice, and a text that ends with a break has
its closing quote on a line of its own. -/
def singleQuoted (indent : Nat) (text : List Char) : List Char :=
  let body := (indented indent false text).flatMap fun c => if c == '\'' then [c, c] else [c]
  let ending := if text.getLast?.any isBreak then indentation indent else []
  '\'' :: (body ++ ending ++ ['\''])

def hexDigits (width code : Nat) : List Char :=
  let digits := (Nat.toDigits 16 code).map Char.toUpper
  List.replicate (width - digits.length) '0' ++ digits

def shortEscapes : List (Char × Char) := [
  ('\x00', '0'), ('\x07', 'a'), ('\x08', 'b'), ('\t', 't'), ('\n', 'n'), ('\x0b', 'v'),
  ('\x0c', 'f'), ('\r', 'r'), ('\x1b', 'e'), ('"', '"'), ('\\', '\\'), ('\u0085', 'N'),
  ('\u00a0', '_'), ('\u2028', 'L'), ('\u2029', 'P')]

def escaped (c : Char) : List Char :=
  match shortEscapes.lookup c with
  | some letter => ['\\', letter]
  | none =>
    let code := c.toNat
    if code ≤ 0xff then '\\' :: 'x' :: hexDigits 2 code
    else if code ≤ 0xffff then '\\' :: 'u' :: hexDigits 4 code
    else '\\' :: 'U' :: hexDigits 8 code

def doubleQuoted (text : List Char) : List Char :=
  let body := text.flatMap fun c =>
    if !isWritable c || isBreak c || c == '"' || c == '\\' then escaped c else [c]
  '"' :: (body ++ ['"'])

/-- What the header of a literal block says of the breaks at the end: none, one, or all of them. -/
def chomping (text : List Char) : List Char :=
  match text.reverse with
  | last :: before =>
    if !isBreak last then ['-']
    else if before.head?.all isBreak then ['+']
    else []
  | [] => ['-']

/-- A text as a literal block. The indentation is given where it cannot be seen. -/
def literalBlock (indent : Nat) (text : List Char) : List Char :=
  let hint := if text.head?.any fun c => c == ' ' || isBreak c then ['2'] else []
  '|' :: (hint ++ chomping text ++ '\n' :: indented indent true text)

/-- A text in its form, with further lines at the given indentation. -/
def writeText (indent : Nat) (text : String) : List Char :=
  let cs := text.toList
  match ScalarForm.of text with
  | .plain => cs
  | .single => singleQuoted indent cs
  | .double => doubleQuoted cs
  | .literal => literalBlock indent cs

def writeScalar (indent : Nat) : Scalar → List Char
  | .null => "null".toList
  | .bool value => (toString value).toList
  | .int value => (toString value).toList
  | .float (.finite value) => (value.text Decimal.scientific).toList
  | .float (.infinite negative) => (if negative then "-.inf" else ".inf").toList
  | .float .notANumber => ".nan".toList
  | .text value | .written value _ _ => writeText indent value

end Yaml

end ManagedCluster
