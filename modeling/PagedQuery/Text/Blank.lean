/-!
# Blank characters

The characters that surround a text without belonging to it, and texts without them.
-/

namespace PagedQuery.Text

/-- White space: the bidirectional separators and blanks of Unicode. -/
def isBlank (c : Char) : Bool :=
  let code := c.toNat
  (0x9 ≤ code && code ≤ 0xd) || (0x1c ≤ code && code ≤ 0x20) || code == 0x85 || code == 0xa0 ||
    code == 0x1680 || (0x2000 ≤ code && code ≤ 0x200a) || code == 0x2028 || code == 0x2029 ||
    code == 0x202f || code == 0x205f || code == 0x3000

/-- Blanks around numbers: the ASCII separators do not count as such. -/
def isNumberBlank (c : Char) : Bool := isBlank c && !(0x1c ≤ c.toNat && c.toNat ≤ 0x1f)

/-- Blanks among bytes: ASCII characters, without the separators. -/
def isByteBlank (b : UInt8) : Bool := b.toNat < 128 && isNumberBlank (Char.ofNat b.toNat)

/-- A list without what leads and trails it. -/
def stripList {α : Type} (blank : α → Bool) (xs : List α) : List α :=
  ((xs.dropWhile blank).reverse.dropWhile blank).reverse

/-- The text without its leading and trailing blanks. -/
def trimChars (cs : List Char) : List Char := stripList isBlank cs

def trim (s : String) : String := String.ofList (trimChars s.toList)

/-- Whether a text holds nothing but blanks. -/
def isBlankText (s : String) : Bool := s.toList.all isBlank

theorem isBlank_of_isWhitespace (c : Char) (h : c.isWhitespace = true) : isBlank c = true := by
  simp only [Char.isWhitespace, Bool.or_eq_true, decide_eq_true_eq] at h
  rcases h with ((h | h) | h) | h <;> subst h <;> decide

end PagedQuery.Text
