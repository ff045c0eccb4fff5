import ManagedCluster.Text.Printable

/-! # Quoted names in messages

Messages show names between double quotes, so that blanks, quotes and characters without a form of
their own can be seen.
-/

namespace ManagedCluster

namespace Text

/-- The code of a character in lower case hexadecimal digits, as in `\u{7f}`. -/
def escapeByCode (c : Char) : List Char :=
  '\\' :: 'u' :: '\x7b' :: (Nat.toDigits 16 c.toNat ++ ['\x7d'])

def quotedChar (c : Char) : List Char :=
  if c = '\x00' then ['\\', '0']
  else if c = '\t' then ['\\', 't']
  else if c = '\r' then ['\\', 'r']
  else if c = '\n' then ['\\', 'n']
  else if c = '\\' || c = '"' then ['\\', c]
  else if isExtending c || !isPrintable c then escapeByCode c
  else [c]

/-- A text between double quotes. -/
def quoted (s : String) : String :=
  String.ofList ('"' :: (s.toList.flatMap quotedChar ++ ['"']))

/-- The path of a file between double quotes. In a path, a single quote is escaped too. -/
def quotedPath (path : String) : String :=
  let char (c : Char) : List Char := if c = '\'' then ['\\', c] else quotedChar c
  String.ofList ('"' :: (path.toList.flatMap char ++ ['"']))

example : quoted "a\"b\n" = "\"a\\\"b\\n\"" := by decide +kernel

end Text

end ManagedCluster
