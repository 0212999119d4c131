import CutAndChoose.Pattern.Mode

/-!
# CutAndChoose.Pattern.Atom

The smallest items of a pattern: a character by itself, or a backslash and what follows it.

Where bytes are matched, an item is allowed only if it cannot match a part of the encoding of a
character. A word boundary is never allowed where characters are matched.
-/

namespace CutAndChoose.Pattern

inductive Atom where
  | char (c : Char)
  /-- A number below 256 in two hexadecimal digits: a character or a byte. -/
  | byte (n : Nat)
  /-- Digits, blanks or word characters, or all others. -/
  | shorthand (negated : Bool)
  /-- The characters of a general category. -/
  | category
  | wordBoundary
  | textBoundary
  deriving DecidableEq

def hexDigit? (c : Char) : Option Nat :=
  if c.isDigit then some (c.toNat - '0'.toNat)
  else if 'a' ≤ c ∧ c ≤ 'f' then some (c.toNat - 'a'.toNat + 10)
  else if 'A' ≤ c ∧ c ≤ 'F' then some (c.toNat - 'A'.toNat + 10)
  else none

/-- Reads `k` hexadecimal digits behind the number `n`. -/
def readHex (m : Mode) : Nat → Nat → List Char → Option (Nat × List Char)
  | 0, n, s => some (n, s)
  | k + 1, n, s =>
    match m.drop s with
    | [] => none
    | c :: s =>
      match hexDigit? c with
      | some d => readHex m k (16 * n + d) s
      | none => none

def charAtom? (n : Nat) : Option Atom :=
  if n.isValidChar then some (.char (Char.ofNat n)) else none

/-- General categories with a name of one letter. -/
def categoryLetters : List Char := "CLMNPSZclmnpsz".toList

def readCategory (m : Mode) (s : List Char) : Option (Atom × List Char) :=
  match m.drop s with
  | [] => none
  | c :: s => if c ∈ categoryLetters then some (.category, s) else none

/-- What a letter behind a backslash stands for, if nothing more is read. -/
def letterAtom? (c : Char) : Option Atom :=
  if c ∈ ['d', 's', 'w'] then some (.shorthand false)
  else if c ∈ ['D', 'S', 'W'] then some (.shorthand true)
  else if c ∈ ['b', 'B', '<', '>'] then some .wordBoundary
  else if c ∈ ['A', 'z'] then some .textBoundary
  else ([('a', 0x7), ('t', 0x9), ('n', 0xa), ('v', 0xb), ('f', 0xc), ('r', 0xd)].lookup c).map
    fun n => .char (Char.ofNat n)

/-- Reads what follows a backslash. Marks and blanks of ASCII stand for themselves. -/
def readEscape (m : Mode) : List Char → Option (Atom × List Char)
  | [] => none
  | c :: s =>
    if c = 'x' then (readHex m 2 0 s).map fun (n, s) => (.byte n, s)
    else if c = 'u' ∨ c = 'U' then
      (readHex m (if c = 'u' then 4 else 8) 0 s).bind fun (n, s) => (charAtom? n).map (·, s)
    else if c = 'p' ∨ c = 'P' then readCategory m s
    else
      match letterAtom? c with
      | some a => some (a, s)
      | none => if c.toNat < 128 ∧ !c.isAlphanum then some (.char c, s) else none

def readAtom (m : Mode) : List Char → Option (Atom × List Char)
  | [] => none
  | c :: s => if c = '\\' then readEscape m s else some (.char c, s)

namespace Atom

def standsAlone (m : Mode) : Atom → Bool
  | char _ => true
  | byte n => m.unicode || n < 128
  | shorthand negated => m.unicode || !negated
  | category => m.unicode
  | wordBoundary => !m.unicode
  | textBoundary => true

def isMember (m : Mode) : Atom → Bool
  | char c => m.unicode || c.toNat < 128
  | byte n => m.unicode || n < 128
  | shorthand negated => m.unicode || !negated
  | category => m.unicode
  | wordBoundary => false
  | textBoundary => false

/-- The number of the one character that an item matches. -/
def code? : Atom → Option Nat
  | char c => some c.toNat
  | byte n => some n
  | _ => none

end Atom

end CutAndChoose.Pattern
