/-!
# Lines

A line ends at a line feed, which may have a carriage return before it.  Behind the last line feed
there is no line unless there is a text.
-/

namespace SchemaCheck.Text

/-- A line without the carriage return at its end. -/
def withoutReturn (line : List Char) : List Char :=
  if line.getLast? = some '\r' then line.dropLast else line

def lines (text : String) : List String :=
  let pieces := text.toList.splitOn '\n'
  let last := pieces.getLast?.getD []
  (pieces.dropLast.map withoutReturn ++ if last.isEmpty then [] else [last]).map String.ofList

end SchemaCheck.Text
