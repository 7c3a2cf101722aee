/-!
# Pieces

A text between separators falls into pieces, of which some may be empty.
-/

namespace ToolSchema

namespace Text

/-- The pieces of a text between separators; there is always a first one. -/
def pieces (separates : Char → Bool) : List Char → List (List Char)
  | [] => [[]]
  | c :: rest =>
    if separates c then [] :: pieces separates rest
    else
      match pieces separates rest with
      | [] => [[c]]
      | piece :: others => (c :: piece) :: others

end Text

end ToolSchema
