/-!
# Line ends

Text files end their lines in three ways. Read as text, all of them are a line feed.
-/

namespace MarkupTree.Text

/-- Writes a line feed for every carriage return, with or without a line feed after it. -/
def normalizeNewlines : List Char → List Char
  | '\r' :: '\n' :: cs => '\n' :: normalizeNewlines cs
  | '\r' :: cs => '\n' :: normalizeNewlines cs
  | c :: cs => c :: normalizeNewlines cs
  | [] => []

end MarkupTree.Text
