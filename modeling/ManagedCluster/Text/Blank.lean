/-! # Blank characters

The property White_Space of the character database, and the text between blanks.
-/

namespace ManagedCluster

namespace Text

/-- A character with the property White_Space. -/
def isBlank (c : Char) : Bool :=
  let code := c.toNat
  (0x09 ≤ code && code ≤ 0x0d) || code == 0x20 || code == 0x85 || code == 0xa0 || code == 0x1680
    || (0x2000 ≤ code && code ≤ 0x200a) || code == 0x2028 || code == 0x2029 || code == 0x202f
    || code == 0x205f || code == 0x3000

/-- The text without the blanks at its two ends. -/
def trimBlanks (cs : List Char) : List Char :=
  ((cs.dropWhile isBlank).reverse.dropWhile isBlank).reverse

theorem trimBlanks_of_noBlanks {cs : List Char} (none : ∀ c ∈ cs, isBlank c = false) :
    trimBlanks cs = cs := by
  have kept : ∀ {l : List Char}, (∀ c ∈ l, isBlank c = false) → l.dropWhile isBlank = l := by
    intro l noBlank
    cases l with
    | nil => rfl
    | cons c rest => exact List.dropWhile_cons_of_neg (by simp [noBlank c List.mem_cons_self])
  simp only [trimBlanks]
  rw [kept none, kept fun c member => none c (List.mem_reverse.mp member), List.reverse_reverse]

example : trimBlanks [' ', '\t', 'a', ' ', 'b', '\n'] = ['a', ' ', 'b'] := by decide

end Text

end ManagedCluster
