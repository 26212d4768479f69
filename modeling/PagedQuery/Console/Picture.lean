import PagedQuery.Console.PictureTable
import PagedQuery.Text.Blank
import PagedQuery.Text.Case
import PagedQuery.Text.Split

/-!
# Named pictures

A text for the console may name a picture between colons, as a text or as a picture if the name
ends so.
-/

namespace PagedQuery.Console

open PagedQuery.Text

/-- The word after a name, in words that are names and pictures in turn. -/
def pictureIn? (name : String) : List String → Option String
  | key :: picture :: rest => if key = name then some picture else pictureIn? name rest
  | _ => none

/-- The picture of a name. -/
def picture? (name : String) : Option String :=
  pictureRows.findSome? fun row => pictureIn? name (split ' ' row)

/-- The endings of names that ask for a form, with the marks that stand for them. -/
def pictureForms : List (List Char × Char) :=
  [("-emoji".toList, '\ufe0f'), ("-text".toList, '\ufe0e')]

/-- A name without the ending that asks for a form, and the mark of the form. -/
def pictureForm (name : List Char) : List Char × List Char :=
  match pictureForms.find? fun (ending, _) => ending.isSuffixOf name with
  | some (ending, mark) => (name.take (name.length - ending.length), [mark])
  | none => (name, [])

/-- The picture that stands for a name between colons, or the name as it is. -/
def pictureOf (name : List Char) : List Char :=
  let (plain, mark) := pictureForm name
  match picture? (lower (String.ofList plain)) with
  | some picture => picture.toList ++ mark
  | none => ':' :: name ++ [':']

/-- A text with its names of pictures replaced, from left to right. -/
def withPicturesFrom : Nat → List Char → List Char
  | 0, cs => cs
  | _, [] => []
  | fuel + 1, ':' :: rest =>
    let name := rest.takeWhile fun c => c != ':' && !isBlank c
    match rest.drop name.length with
    | ':' :: rest => pictureOf name ++ withPicturesFrom fuel rest
    | _ => ':' :: withPicturesFrom fuel rest
  | fuel + 1, c :: rest => c :: withPicturesFrom fuel rest

def withPictures (cs : List Char) : List Char := withPicturesFrom cs.length cs

end PagedQuery.Console
