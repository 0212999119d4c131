import CutAndChoose.Pattern.Bracket
import CutAndChoose.Pattern.Group

/-!
# CutAndChoose.Pattern.WellFormed

Which texts are patterns. Groups are closed and have different names, a repetition has something to
repeat, every item is allowed in the mode it stands in, and nothing is nested too deeply.

A repetition count needs a closing brace. The texts that are read here hold none, so an opening
brace outside a class is always a mistake.
-/

namespace CutAndChoose.Pattern

/-- What is read of a group: the alternatives before the last, and the items of that one. -/
structure OpenGroup where
  mode : Mode
  alternatives : Parts
  items : Parts
  deriving DecidableEq

namespace OpenGroup

def start (m : Mode) : OpenGroup := ⟨m, .empty, .empty⟩

def add (g : OpenGroup) (depth : Nat) : OpenGroup := { g with items := g.items.add depth }

def alternative (g : OpenGroup) : OpenGroup :=
  ⟨g.mode, g.alternatives.add g.items.depth, .empty⟩

def depth (g : OpenGroup) : Nat := (g.alternatives.add g.items.depth).depth

end OpenGroup

/-- A pattern as far as it is read. -/
structure Reading where
  names : List String
  /-- The innermost group; the pattern itself counts as one. -/
  group : OpenGroup
  /-- The groups around it, the innermost first. -/
  outer : List OpenGroup
  /-- The depth of the item that a repetition sign would repeat. -/
  last : Option Nat
  deriving DecidableEq

namespace Reading

def initial : Reading := ⟨[], .start .initial, [], none⟩

def item (r : Reading) (depth : Nat) : Reading :=
  { r with group := r.group.add depth, last := some depth }

/-- Behind a repetition sign, if there is something to repeat. -/
def repeated (r : Reading) : Option Reading :=
  r.last.map fun depth =>
    let items := r.group.items.deepen (depth + 1)
    { r with group := { r.group with items := items }, last := some (depth + 1) }

/-- Behind the sign between alternatives. -/
def alternative (r : Reading) : Reading := { r with group := r.group.alternative, last := none }

/-- Behind an opening parenthesis, unless a name comes back. -/
def opened (r : Reading) : Opening → Option Reading
  | .settings m => some { r with group := { r.group.add 0 with mode := m }, last := none }
  | .group name m =>
    if name.any r.names.contains then none
    else some ⟨name.toList ++ r.names, .start m, r.group :: r.outer, none⟩

/-- Behind a closing parenthesis, if a group is open. -/
def closed (r : Reading) : Option Reading :=
  match r.outer with
  | [] => none
  | g :: outer => some (item ⟨r.names, g, outer, none⟩ (r.group.depth + 1))

end Reading

def isRepetition (c : Char) : Bool := c == '?' || c == '*' || c == '+'

/-- Passes the sign of a reluctant repetition. -/
def dropReluctant : List Char → List Char
  | '?' :: s => s
  | s => s

/-- Passes one item of a pattern that starts with the character `c`. -/
def Reading.step (r : Reading) (c : Char) (s : List Char) : Option (Reading × List Char) :=
  let m := r.group.mode
  if c = '(' then (readOpening m s).bind fun (opening, s) => (r.opened opening).map (·, s)
  else if c = ')' then r.closed.map (·, s)
  else if c = '|' then some (r.alternative, s)
  else if c = '[' then (readClass m s).map fun (depth, s) => (r.item depth, s)
  else if isRepetition c then r.repeated.map (·, dropReluctant s)
  else if c = '\x7b' then none
  else if c = '.' then if m.unicode then some (r.item 0, s) else none
  else
    (readAtom m (c :: s)).bind fun (a, s) => if a.standsAlone m then some (r.item 0, s) else none

/-- How deeply a pattern may be nested. -/
def depthLimit : Nat := 250

/-- Whether the rest of a pattern is well-formed. Every round passes a character, so `fuel` above
the length of the text never runs out. -/
def Reading.finishes : Nat → Reading → List Char → Bool
  | 0, _, _ => false
  | fuel + 1, r, s =>
    match r.group.mode.drop s with
    | [] => r.outer.isEmpty && r.group.depth ≤ depthLimit
    | c :: s =>
      match r.step c s with
      | some (r, s) => finishes fuel r s
      | none => false

/-- Whether a text without closing braces is a pattern. -/
def isPattern (s : List Char) : Bool := Reading.initial.finishes (s.length + 1) s

end CutAndChoose.Pattern
