import CutAndChoose.Pattern.Mode
import CutAndChoose.Text.Alphanumeric

/-!
# CutAndChoose.Pattern.Group

What stands behind an opening parenthesis: the start of a group, with a name or with settings of
its own, or settings for the rest of the group around it.
-/

namespace CutAndChoose.Pattern

inductive Opening where
  /-- A group, and the mode inside it. -/
  | group (name : Option String) (mode : Mode)
  /-- Settings alone, and the mode behind them. -/
  | settings (mode : Mode)
  deriving DecidableEq

/-- Letters of settings, and the sign behind which they are switched off. -/
def settingLetters : List Char := "imsUuRx-".toList

/-- Reads settings behind those in `seen`, the last of them first. Nothing may be said twice, and
the sign must have a letter behind it. -/
def readSettings (m : Mode) (seen : List Char) : List Char → Option (Opening × List Char)
  | [] => none
  | c :: s =>
    if c = ':' then
      if seen.head? = some '-' then none else some (.group none m, s)
    else if c = ')' then
      if seen = [] ∨ seen.head? = some '-' then none else some (.settings m, s)
    else if c ∈ settingLetters ∧ c ∉ seen then
      readSettings (m.switch c (!seen.contains '-')) (c :: seen) s
    else none

/-- Names start with a letter or an underscore; dots, brackets and numerals may follow. -/
def isGroupName : List Char → Bool
  | [] => false
  | c :: s =>
    (c == '_' || isAlphabetic c) &&
      s.all fun c => c == '_' || c == '.' || c == '[' || c == ']' || isAlphanumeric c

def readGroupName (s : List Char) : Option (String × List Char) :=
  let name := s.takeWhile (· != '>')
  match s.dropWhile (· != '>') with
  | [] => none
  | _ :: rest => if isGroupName name then some (String.ofList name, rest) else none

def readNamedGroup (m : Mode) (s : List Char) : Option (Opening × List Char) :=
  (readGroupName s).map fun (name, s) => (.group (some name) m, s)

def readOpening (m : Mode) (s : List Char) : Option (Opening × List Char) :=
  match m.drop s with
  | '?' :: 'P' :: '<' :: s => readNamedGroup m s
  | '?' :: '<' :: s => readNamedGroup m s
  | '?' :: s => readSettings m [] s
  | s => some (.group none m, s)

end CutAndChoose.Pattern
