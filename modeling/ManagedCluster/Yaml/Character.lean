/-! # Characters of YAML texts

A text is cut into lines by breaks. The characters that end a line, separate words, or can be
written without an escape are the same for reading and for writing.
-/

namespace ManagedCluster

namespace Yaml

/-- A character that ends a line. -/
def isBreak (c : Char) : Bool :=
  c == '\n' || c == '\r' || c == '\u0085' || c == '\u2028' || c == '\u2029'

/-- A space or a tab. -/
def isBlank (c : Char) : Bool := c == ' ' || c == '\t'

/-- A character that no word contains. -/
def isSeparator (c : Char) : Bool := isBlank c || isBreak c || c == '\x00'

/-- The text is at its end or goes on with a separator. -/
def endsWord (rest : List Char) : Bool := rest.head?.all isSeparator

def isWritable (c : Char) : Bool :=
  let code := c.toNat
  code == 0x0a || (0x20 ≤ code && code ≤ 0x7e)
    || (0xa0 ≤ code && code != 0xfeff && code != 0xfffe && code != 0xffff)

example : isBreak '\u2028' = true ∧ isWritable '\t' = false ∧ endsWord [] = true := by decide

end Yaml

end ManagedCluster
