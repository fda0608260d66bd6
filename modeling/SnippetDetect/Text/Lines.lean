/-!
Line ends. A text that is read from outside ends its lines by a line feed, whether they
were ended by a carriage return, a line feed or both.
-/

namespace SnippetDetect.Text

/-- Every line end as one line feed. -/
def unifyLineEnds : List Char → List Char
  | [] => []
  | '\r' :: '\n' :: rest => '\n' :: unifyLineEnds rest
  | c :: rest => (if c = '\r' then '\n' else c) :: unifyLineEnds rest

end SnippetDetect.Text
