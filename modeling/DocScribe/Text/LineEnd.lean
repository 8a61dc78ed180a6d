/-! The line ends of different systems. -/

namespace DocScribe.Text

/-- Every carriage return, and every pair of carriage return and line feed, becomes one line feed. -/
def unifyLineEnds : List Char → List Char
  | '\r' :: '\n' :: rest => '\n' :: unifyLineEnds rest
  | '\r' :: rest => '\n' :: unifyLineEnds rest
  | c :: rest => c :: unifyLineEnds rest
  | [] => []

end DocScribe.Text
