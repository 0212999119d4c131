import CutAndChoose.Pattern.WellFormed

/-!
# CutAndChoose.Trace.FieldTest

What a directive asks of a field: that it is there, or also what its value is. A value is a
number, a truth value or a pattern for the text of the field; only a text that is none of these is
refused.
-/

namespace CutAndChoose.Trace

structure FieldTest where
  name : String
  /-- Whether the value is asked for too. -/
  valued : Bool
  deriving DecidableEq

/-- An exponent, or nothing. -/
def isExponentPart : List Char → Bool
  | [] => true
  | e :: s =>
    let digits := match s with
      | '+' :: s | '-' :: s => s
      | s => s
    (e == 'e' || e == 'E') && !digits.isEmpty && digits.all Char.isDigit

/-- A decimal number without a sign: digits with a point among or next to them, and an exponent. -/
def isNumeral (s : List Char) : Bool :=
  let rest := s.dropWhile Char.isDigit
  let whole := s.takeWhile Char.isDigit
  match rest with
  | '.' :: rest =>
    (!whole.isEmpty || rest.head?.any Char.isDigit) && isExponentPart (rest.dropWhile Char.isDigit)
  | rest => !whole.isEmpty && isExponentPart rest

/-- Texts of the numbers that have no digits. -/
def isNumberName (s : List Char) : Bool :=
  ["inf", "infinity", "nan"].contains (String.ofList (s.map Char.toLower))

/-- Whether a text can be asked for. Truth values and numbers are patterns too, except where a plus
sign stands first. -/
def isFieldValue : List Char → Bool
  | '+' :: s => isNumeral s || isNumberName s
  | s => Pattern.isPattern s

/-- Reads a field test: a name, and a value behind an equals sign. -/
def FieldTest.read? (s : String) : Option FieldTest :=
  match s.splitOn "=" with
  | name :: value :: _ => if isFieldValue value.toList then some ⟨name, true⟩ else none
  | _ => some ⟨s, false⟩

end CutAndChoose.Trace
