/-! # Lines

A line ends at a line feed, which is no part of it. What follows the last line feed is a line as
well, unless it is empty. This holds of characters and of bytes alike. -/

namespace Reckoner.Text

/-- The lines of the items after `line`, which was read backwards and has not ended; `feed` ends a
line. -/
def linesFrom {α : Type} [DecidableEq α] (feed : α) (line : List α) : List α → List (List α)
  | [] => if line.isEmpty then [] else [line.reverse]
  | item :: rest =>
    if item = feed then line.reverse :: linesFrom feed [] rest
    else linesFrom feed (item :: line) rest

/-- The lines of a text. -/
def lines (text : String) : List String := (linesFrom '\n' [] text.toList).map String.ofList

end Reckoner.Text
