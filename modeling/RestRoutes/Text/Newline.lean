import RestRoutes.Text.Split

/-! Line ends. -/

namespace RestRoutes.Text

/-- Every line end as a line feed: a carriage return counts as one, and so does a carriage return with
a line feed after it. -/
def plainNewlines : List Char → List Char
  | '\r' :: '\n' :: rest => '\n' :: plainNewlines rest
  | '\r' :: rest => '\n' :: plainNewlines rest
  | c :: rest => c :: plainNewlines rest
  | [] => []

/-- A text that ends with a line feed: the text itself, or with one added. -/
def endedLine (s : String) : String := if endsWith "\n" s then s else s ++ "\n"

end RestRoutes.Text
