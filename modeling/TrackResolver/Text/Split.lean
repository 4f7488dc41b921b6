/-!
# Cutting a text at a character
-/
namespace TrackResolver.Text

/-- The parts between the places where `sep` stands; there is always one more than places. -/
def splitOn (sep : Char) : List Char → List (List Char)
  | [] => [[]]
  | c :: cs =>
    if c = sep then [] :: splitOn sep cs
    else match splitOn sep cs with
      | [] => [[c]]
      | part :: parts => (c :: part) :: parts

/-- The text before the first `sep` and the text behind it, if there is one. -/
def cutAt? (sep : Char) : List Char → Option (List Char × List Char)
  | [] => none
  | c :: cs =>
    if c = sep then some ([], cs)
    else (cutAt? sep cs).map fun (before, behind) => (c :: before, behind)

end TrackResolver.Text
