import CutAndChoose.Text.Blank

/-!
# CutAndChoose.Pattern.Mode

Regular expressions are read here to tell patterns from other texts. What they match does not
matter, so reading yields no tree; it follows the notation far enough to find every mistake.

Two of the settings that a pattern can change while it is read bear on that: whether characters or
bytes are matched, and whether blanks and comments between items are passed over.
-/

namespace CutAndChoose.Pattern

structure Mode where
  /-- Characters are matched, and not the bytes that encode them. -/
  unicode : Bool
  /-- Blanks and comments between items have no meaning. -/
  spaced : Bool
  deriving DecidableEq

/-- Drops blanks and comments. A comment runs from a number sign to the end of its line. -/
def dropSpace (inComment : Bool) : List Char → List Char
  | [] => []
  | c :: s =>
    if inComment then dropSpace (c != '\n') s
    else if isBlank c then dropSpace false s
    else if c = '#' then dropSpace true s
    else c :: s

namespace Mode

def initial : Mode := ⟨true, false⟩

def drop (m : Mode) (s : List Char) : List Char := if m.spaced then dropSpace false s else s

/-- The next character. Where blanks have no meaning it is looked for behind them, and behind a
number sign inside the comment. -/
def peek (m : Mode) (s : List Char) : Option Char :=
  if m.spaced then
    match s.dropWhile isBlank with
    | '#' :: s => (s.dropWhile isBlank).head?
    | s => s.head?
  else s.head?

/-- The mode after a setting is switched; other letters than these two have no bearing. -/
def switch (m : Mode) (letter : Char) (on : Bool) : Mode :=
  if letter = 'u' then { m with unicode := on }
  else if letter = 'x' then { m with spaced := on }
  else m

end Mode

end CutAndChoose.Pattern
