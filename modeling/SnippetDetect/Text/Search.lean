/-!
Occurrence of one text in another.
-/

namespace SnippetDetect.Text

/-- Whether `needle` stands somewhere in the row. -/
def occursIn {α : Type} [BEq α] (needle : List α) : List α → Bool
  | [] => needle.isEmpty
  | a :: rest => needle.isPrefixOf (a :: rest) || occursIn needle rest

/-- The pieces of the text between separators, at least one. -/
def splitAt (separator : Char) : List Char → List (List Char)
  | [] => [[]]
  | c :: rest =>
      if c = separator then [] :: splitAt separator rest
      else match splitAt separator rest with
        | [] => [[c]]
        | first :: others => (c :: first) :: others

end SnippetDetect.Text
