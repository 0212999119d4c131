import CutAndChoose.Pattern.Atom
import CutAndChoose.Pattern.Parts

/-!
# CutAndChoose.Pattern.Bracket

Classes of characters in square brackets: members, ranges, named classes and classes within
classes, joined by operators on sets.

Where bytes are matched, a class holds ASCII only. A complement holds all bytes past ASCII, so it
is refused there, even if an operator or another complement would take these bytes out again.
-/

namespace CutAndChoose.Pattern

/-- A class whose closing bracket has not been read. -/
structure OpenClass where
  /-- The depth of the set before the last operator, if there is one. -/
  before : Option Nat
  /-- Whether only hyphens have been read. -/
  leading : Bool
  /-- The members behind the last operator. -/
  members : Parts
  deriving DecidableEq

namespace OpenClass

def start : OpenClass := ⟨none, true, .empty⟩

def add (k : OpenClass) (depth : Nat) : OpenClass :=
  { k with leading := false, members := k.members.add depth }

def depth (k : OpenClass) : Nat :=
  match k.before with
  | some d => Nat.max d k.members.depth + 1
  | none => k.members.depth

def operate (k : OpenClass) : OpenClass := ⟨some k.depth, false, .empty⟩

/-- Whether a character is a member because of its place: hyphens at the start are members, and so
is a closing bracket there. -/
def takesLeading (k : OpenClass) (c : Char) : Bool :=
  k.leading && (c == '-' || (c == ']' && k.members.count == 0))

def addLeading (k : OpenClass) (c : Char) : OpenClass := { k.add 0 with leading := c == '-' }

end OpenClass

/-- Passes the sign of a complement behind the bracket of a class. -/
def dropComplement (m : Mode) (s : List Char) : Option (List Char) :=
  match m.drop s with
  | '^' :: s => if m.unicode then some s else none
  | s => some s

def classNames : List String :=
  ["alnum", "alpha", "ascii", "blank", "cntrl", "digit", "graph", "lower", "print", "punct",
    "space", "upper", "word", "xdigit"]

/-- Reads a named class behind its bracket; gives whether it is a complement. -/
def readNamedClass : List Char → Option (Bool × List Char)
  | ':' :: s =>
    let (negated, s) := match s with
      | '^' :: s => (true, s)
      | s => (false, s)
    match s.dropWhile (· != ':') with
    | ':' :: ']' :: rest =>
      if String.ofList (s.takeWhile (· != ':')) ∈ classNames then some (negated, rest) else none
    | _ => none
  | _ => none

/-- Reads a member or a range. A hyphen before a closing bracket or another hyphen makes no
range. -/
def readMember (m : Mode) (s : List Char) : Option (List Char) :=
  match readAtom m s with
  | none => none
  | some (first, s) =>
    if !first.isMember m then none
    else
      match m.drop s with
      | '-' :: t =>
        if m.peek t ∈ [some ']', some '-'] then some ('-' :: t)
        else
          match readAtom m (m.drop t) with
          | none => none
          | some (last, rest) =>
            match first.code?, last.code? with
            | some a, some b => if last.isMember m ∧ a ≤ b then some rest else none
            | _, _ => none
      | s => some s

/-- Passes an operator: intersection, difference or symmetric difference. -/
def dropOperator : List Char → Option (List Char)
  | '&' :: '&' :: s => some s
  | '-' :: '-' :: s => some s
  | '~' :: '~' :: s => some s
  | _ => none

/-- Reads to the end of the outermost class, from inside the classes `k` and `outer`; gives its
depth. Every round passes a character, so `fuel` above the length of the text never runs out. -/
def readClasses (m : Mode) :
    Nat → OpenClass → List OpenClass → List Char → Option (Nat × List Char)
  | 0, _, _, _ => none
  | fuel + 1, k, outer, s =>
    match m.drop s with
    | [] => none
    | c :: s =>
      if k.takesLeading c then readClasses m fuel (k.addLeading c) outer s
      else if c = '[' then
        match readNamedClass s with
        | some (negated, s) =>
          if negated && !m.unicode then none else readClasses m fuel (k.add 0) outer s
        | none =>
          match dropComplement m s with
          | some s => readClasses m fuel .start (k :: outer) s
          | none => none
      else if c = ']' then
        match outer with
        | [] => some (k.depth + 1, s)
        | k' :: outer => readClasses m fuel (k'.add (k.depth + 1)) outer s
      else
        match dropOperator (c :: s) with
        | some s => readClasses m fuel k.operate outer s
        | none =>
          match readMember m (c :: s) with
          | some s => readClasses m fuel (k.add 0) outer s
          | none => none

def readClass (m : Mode) (s : List Char) : Option (Nat × List Char) :=
  (dropComplement m s).bind fun s => readClasses m (s.length + 1) .start [] s

end CutAndChoose.Pattern
