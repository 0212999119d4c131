import CutAndChoose.Decimal.Basic
import CutAndChoose.Text.Blank

/-!
# CutAndChoose.Bench.Duration

Timing values. The first run of digits and points on a line is the value; a unit may follow, with
blanks between. Without a unit the value counts milliseconds.

* `Numeral`: digits with at most one point, such as `12`, `.5` and `7.`.
* `Unit.ofText?`: the unit that a text starts with.
* `durationOf`: the first value on a line in milliseconds.
-/

namespace CutAndChoose

/-- The first run of characters with `p`, and what follows it. -/
def firstRun (p : Char → Bool) (s : List Char) : List Char × List Char :=
  let tail := s.dropWhile (!p ·)
  (tail.takeWhile p, tail.dropWhile p)

def isNumeralChar (c : Char) : Bool := c.isDigit || c == '.'

/-- Reads a numeral: digits around at most one point, and at least one digit. -/
def numeral? (s : List Char) : Option Decimal :=
  let whole := s.takeWhile Char.isDigit
  match s.dropWhile Char.isDigit with
  | [] => if whole = [] then none else some (.ofNumeral whole [])
  | c :: fraction =>
    if c = '.' ∧ fraction.all Char.isDigit ∧ ¬(whole = [] ∧ fraction = []) then
      some (.ofNumeral whole fraction)
    else none

inductive TimeUnit where
  | nanosecond
  | microsecond
  | millisecond
  | second
  deriving DecidableEq

namespace TimeUnit

def milliseconds : TimeUnit → Binary64
  | nanosecond => Decimal.toBinary64 false ⟨1, -6⟩
  | microsecond => Decimal.toBinary64 false ⟨1, -3⟩
  | millisecond => Decimal.toBinary64 false ⟨1, 0⟩
  | second => Decimal.toBinary64 false ⟨1, 3⟩

/-- The unit that a text starts with; the micro sign and the letter `u` both mean micro. -/
def ofText? : List Char → Option TimeUnit
  | 'n' :: 's' :: _ => some nanosecond
  | 'µ' :: 's' :: _ => some microsecond
  | 'u' :: 's' :: _ => some microsecond
  | 'm' :: 's' :: _ => some millisecond
  | 's' :: _ => some second
  | _ => none

end TimeUnit

inductive DurationFault where
  | absent
  | malformed (value : String)
  deriving DecidableEq

/-- The first value on a line, scaled to milliseconds by the unit behind it. -/
def durationOf (line : List Char) : Except DurationFault Binary64 :=
  let (value, rest) := firstRun isNumeralChar line
  if value = [] then .error .absent
  else
    match numeral? value with
    | none => .error (.malformed (String.ofList value))
    | some d =>
      let unit := (TimeUnit.ofText? (rest.dropWhile isBlank)).getD .millisecond
      .ok (d.toBinary64 false * unit.milliseconds)

end CutAndChoose
