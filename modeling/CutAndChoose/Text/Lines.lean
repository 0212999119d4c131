/-!
# CutAndChoose.Text.Lines

Lines of a text. A line ends with a line feed, and one carriage return right before that line feed
belongs to the ending; any other carriage return belongs to the line. Text after the last ending
is a line if it is not empty.
-/

namespace CutAndChoose

/-- Lines of the rest of a text, `current` holding the open line backwards. -/
def linesFrom (current : List Char) : List Char → List (List Char)
  | [] => if current.isEmpty then [] else [current.reverse]
  | '\n' :: rest => current.reverse :: linesFrom [] rest
  | '\r' :: '\n' :: rest => current.reverse :: linesFrom [] rest
  | c :: rest => linesFrom (c :: current) rest

def textLines (text : List Char) : List (List Char) := linesFrom [] text

end CutAndChoose
