import CutAndChoose.Json.Input

/-!
# CutAndChoose.Json.Number

JSON numbers. Without point and exponent a number that fits in 64 bits is an integer; every other
number is the nearest binary64 number, and one past the overflow threshold is refused. Minus zero
is a float, so that its sign is kept.

No number halfway between two neighbours has more than 767 significant digits, unless zeros follow
at the end of its whole part. So of a longer numeral 768 digits are kept, and a single one stands
for the rest.
-/

namespace CutAndChoose.Json

/-- A number as it is written, without its sign. -/
structure NumberText where
  whole : List Char
  fraction : Option (List Char)
  exponent : Option Int
  deriving DecidableEq

inductive Number where
  | natural (n : Nat)
  | negative (i : Int)
  | float (x : Binary64)
  deriving DecidableEq

def takeDigits (s : Input) : List Char × Input :=
  ((s.takeWhile isDigitByte).map charOf, s.dropWhile isDigitByte)

/-- The digits before the point; a leading zero stands alone. -/
def readWhole : Reader (List Char)
  | [] => .error .endInValue
  | b :: s =>
    if b = byte '0' then
      match s with
      | d :: _ => if isDigitByte d then .error .invalidNumber else .ok (['0'], s)
      | [] => .ok (['0'], s)
    else if isDigitByte b then .ok (takeDigits (b :: s))
    else .error .invalidNumber

def readDigits (s : Input) : Except Fault (List Char × Input) :=
  match takeDigits s with
  | ([], []) => .error .endInValue
  | ([], _ :: _) => .error .invalidNumber
  | (digits, rest) => .ok (digits, rest)

def readFraction : Reader (Option (List Char))
  | [] => .ok (none, [])
  | b :: s =>
    if b = byte '.' then do
      let (digits, rest) ← readDigits s
      return (some digits, rest)
    else .ok (none, b :: s)

def readSign : Input → Bool × Input
  | [] => (false, [])
  | b :: s =>
    if b = byte '-' then (true, s) else if b = byte '+' then (false, s) else (false, b :: s)

def readExponent : Reader (Option Int)
  | [] => .ok (none, [])
  | b :: s =>
    if b = byte 'e' ∨ b = byte 'E' then do
      let (negative, s) := readSign s
      let (digits, rest) ← readDigits s
      let n : Int := Nat.ofDigitChars 10 digits 0
      return (some (if negative then -n else n), rest)
    else .ok (none, b :: s)

def readNumberText (s : Input) : Except Fault (NumberText × Input) := do
  let (whole, s) ← readWhole s
  let (fraction, s) ← readFraction s
  let (exponent, s) ← readExponent s
  return (⟨whole, fraction, exponent⟩, s)

/-- The digits of the fraction, without the zeros at its end. -/
def NumberText.places (t : NumberText) : List Char :=
  ((t.fraction.getD []).reverse.dropWhile (· == '0')).reverse

/-- The digits from the first that counts: below one, zeros behind the point do not. -/
def NumberText.significant (t : NumberText) : List Char :=
  if t.whole = ['0'] then t.places.dropWhile (· == '0') else t.whole ++ t.places

def keptDigits : Nat := 768

/-- The kept digits, and a one behind them that stands for all others. -/
def NumberText.abridged (t : NumberText) : Decimal :=
  ⟨Nat.ofDigitChars 10 (t.significant.take keptDigits ++ ['1']) 0,
    (t.significant.length : Int) - (keptDigits + 1) - t.places.length⟩

def NumberText.decimal (t : NumberText) : Decimal :=
  let d :=
    if t.significant.length ≤ keptDigits then Decimal.ofNumeral t.whole (t.fraction.getD [])
    else t.abridged
  ⟨d.digits, d.exponent + t.exponent.getD 0⟩

/-- The integer that is written, if there is neither point nor exponent. -/
def NumberText.integer? (t : NumberText) : Option Nat :=
  if t.fraction.isNone && t.exponent.isNone then some (Nat.ofDigitChars 10 t.whole 0) else none

def NumberText.float (negative : Bool) (t : NumberText) : Except Fault Number :=
  match t.decimal.magnitude? with
  | some a => .ok (.float (.finite negative a))
  | none => .error .numberOutOfRange

def NumberText.number (negative : Bool) (t : NumberText) : Except Fault Number :=
  match t.integer? with
  | none => t.float negative
  | some n =>
    if negative then
      if 0 < n ∧ n ≤ UInt64.size / 2 then .ok (.negative (-n)) else t.float true
    else if n < UInt64.size then .ok (.natural n)
    else t.float false

/-- Reads a number whose first byte is a digit or a minus sign. -/
def readNumber (s : Input) : Except Fault (Number × Input) := do
  let (negative, s) := match s with
    | b :: rest => if b = byte '-' then (true, rest) else (false, s)
    | [] => (false, s)
  let (t, s) ← readNumberText s
  let n ← t.number negative
  return (n, s)

/-- Passes over a number behind its sign; only its form is checked. -/
def skipNumber (s : Input) : Except Fault Input :=
  match readNumberText s with
  | .ok (_, rest) => .ok rest
  | .error _ => .error .invalidNumber

end CutAndChoose.Json
