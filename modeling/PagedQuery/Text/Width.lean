import PagedQuery.Text.Case
import PagedQuery.Text.WidthTable

/-!
# Display width

How many terminal columns a text takes, and the signs that a text is drawn with: a character with
the marks over it, with the characters joined to it, and with the request to be a picture.
-/

namespace PagedQuery.Text

def charWidth (c : Char) : Nat :=
  let code := c.toNat
  if code < 0x20 || (0x7f ≤ code && code < 0xa0) then 0
  else if code < 0xad then 1
  else if inRanges zeroWidthRanges code then 0
  else if inRanges wideRanges code then 2
  else 1

/-- Joins the next character to the one before. -/
def joiner : Char := '\u200d'

/-- Asks for the picture that the character before it stands for. -/
def pictureMark : Char := '\ufe0f'

/-- How much wider a character is as a picture. -/
def widening (c : Char) : Nat := if inRanges widenedRanges c.toNat then 1 else 0

/-- The columns of a text after a visible character that may become a picture. -/
def columnsAfter : Option Char → List Char → Nat
  | _, [] => 0
  | last, c :: rest =>
    if c = joiner then
      match rest with
      | [] => 0
      | _ :: rest => columnsAfter last rest
    else if c = pictureMark then (last.map widening).getD 0 + columnsAfter none rest
    else if charWidth c = 0 then columnsAfter last rest
    else charWidth c + columnsAfter (some c) rest

def columns (cs : List Char) : Nat := columnsAfter none cs

/-- Characters that are drawn together, and their width. -/
structure Sign where
  chars : List Char
  width : Nat
  deriving Repr, DecidableEq

/-- The signs of a text after some signs, the last of which comes first. -/
def signsAfter : List Sign → Option Char → List Char → List Sign
  | seen, _, [] => seen.reverse
  | [], last, c :: rest =>
    signsAfter [⟨[c], charWidth c⟩] (if charWidth c = 0 then last else some c) rest
  | s :: seen, last, c :: rest =>
    if c = joiner then
      match rest with
      | [] => signsAfter (⟨s.chars ++ [c], s.width⟩ :: seen) last []
      | d :: rest => signsAfter (⟨s.chars ++ [c, d], s.width⟩ :: seen) last rest
    else if c = pictureMark then
      let more := (last.map widening).getD 0
      signsAfter (⟨s.chars ++ [c], s.width + more⟩ :: seen) (if more = 0 then last else none) rest
    else if charWidth c = 0 then signsAfter (⟨s.chars ++ [c], s.width⟩ :: seen) last rest
    else signsAfter (⟨[c], charWidth c⟩ :: s :: seen) (some c) rest

def signs (cs : List Char) : List Sign := signsAfter [] none cs

end PagedQuery.Text
