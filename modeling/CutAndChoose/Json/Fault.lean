import CutAndChoose.Decimal.Notation
import CutAndChoose.Text.Quoted

/-!
# CutAndChoose.Json.Fault

Why a JSON text is refused: it is no JSON, or a value is not of the expected kind, or a record lacks
a field or has one twice. The first fault from the left is the one reported.
-/

namespace CutAndChoose.Json

/-- A value of an unexpected kind. -/
inductive Found where
  | null
  | boolean (b : Bool)
  | integer (i : Int)
  | float (x : Binary64)
  | string (s : String)
  | list
  | object
  deriving DecidableEq

inductive Fault where
  | endInValue
  | endInList
  | endInObject
  | endInString
  | expectedValue
  | expectedWord
  | expectedColon
  | expectedListEnd
  | expectedObjectEnd
  | keyNotString
  | trailingComma
  | trailingCharacters
  | invalidNumber
  | numberOutOfRange
  | invalidEscape
  | loneSurrogate
  | unfinishedSurrogate
  | controlCharacter
  | invalidCodePoint
  | wrongKind (found : Found) (expected : String)
  | wrongValue (i : Int) (expected : String)
  | wrongLength (length : Nat) (expected : String) (fields : Nat)
  | missingField (name : String)
  | duplicateField (name : String)
  deriving DecidableEq

def Found.message : Found → String
  | null => "null"
  | boolean b => s!"boolean `{b}`"
  | integer i => s!"integer `{i}`"
  | float x => s!"floating point `{String.ofList (Notation.json.text x)}`"
  | string s => "string " ++ quotedText s
  | list => "sequence"
  | object => "map"

def Fault.message : Fault → String
  | endInValue => "EOF while parsing a value"
  | endInList => "EOF while parsing a list"
  | endInObject => "EOF while parsing an object"
  | endInString => "EOF while parsing a string"
  | expectedValue => "expected value"
  | expectedWord => "expected ident"
  | expectedColon => "expected `:`"
  | expectedListEnd => "expected `,` or `]`"
  | expectedObjectEnd => "expected `,` or `\x7d`"
  | keyNotString => "key must be a string"
  | trailingComma => "trailing comma"
  | trailingCharacters => "trailing characters"
  | invalidNumber => "invalid number"
  | numberOutOfRange => "number out of range"
  | invalidEscape => "invalid escape"
  | loneSurrogate => "lone leading surrogate in hex escape"
  | unfinishedSurrogate => "unexpected end of hex escape"
  | controlCharacter => "control character (\\u0000-\\u001F) found while parsing a string"
  | invalidCodePoint => "invalid unicode code point"
  | wrongKind found expected => s!"invalid type: {found.message}, expected {expected}"
  | wrongValue i expected => s!"invalid value: integer `{i}`, expected {expected}"
  | wrongLength length expected fields =>
    s!"invalid length {length}, expected {expected} with {fields} elements"
  | missingField name => s!"missing field `{name}`"
  | duplicateField name => s!"duplicate field `{name}`"

end CutAndChoose.Json
