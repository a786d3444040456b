namespace ConfigGate.Text

/-- Read on with the characters in `found`, latest first, in front. -/
def unifyLineEndsAfter : List Char → List Char → List Char
  | [], found => found.reverse
  | '\r' :: '\n' :: rest, found => unifyLineEndsAfter rest ('\n' :: found)
  | '\r' :: rest, found => unifyLineEndsAfter rest ('\n' :: found)
  | c :: rest, found => unifyLineEndsAfter rest (c :: found)

/-- A text in which every line ends with a single line feed. A carriage return ends a line alone or
together with the line feed after it. -/
def unifyLineEnds (text : List Char) : List Char :=
  unifyLineEndsAfter text []

end ConfigGate.Text
