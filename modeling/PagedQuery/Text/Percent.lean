import PagedQuery.Text.Digit
import PagedQuery.Text.Utf8

/-!
# Percent escapes

Decoding of `%XX` escapes. Each run of ASCII characters is read as bytes, an escape giving one of
them, and the bytes as UTF-8; other characters stand for themselves, and so does a percent sign
that starts no escape.
-/

namespace PagedQuery.Text.Percent

def isAscii (c : Char) : Bool := c.toNat < 128

/-- The bytes of an ASCII run. -/
def bytesOf : List Char → List UInt8
  | [] => []
  | '%' :: a :: b :: rest =>
    match hexValue? a, hexValue? b with
    | some x, some y => UInt8.ofNat (16 * x + y) :: bytesOf rest
    | _, _ => 37 :: bytesOf (a :: b :: rest)
  | c :: rest => UInt8.ofNat c.toNat :: bytesOf rest

/-- The ASCII run read so far, reversed, and the characters still to come. -/
def decodeRun (run : List Char) : List Char → List Char
  | [] => decodeUtf8 (bytesOf run.reverse)
  | c :: rest =>
    if isAscii c then decodeRun (c :: run) rest
    else decodeUtf8 (bytesOf run.reverse) ++ c :: decodeRun [] rest

def decodeChars (cs : List Char) : List Char := decodeRun [] cs

def decode (s : String) : String := String.ofList (decodeChars s.toList)

end PagedQuery.Text.Percent
