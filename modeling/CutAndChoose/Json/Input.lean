import CutAndChoose.Json.Fault

/-!
# CutAndChoose.Json.Input

Reading from the front of a list of bytes. A reader takes the bytes that are left and gives a value
and what is left after it, or the first fault.
-/

namespace CutAndChoose.Json

abbrev Input := List UInt8

abbrev Reader (α : Type) : Type := Input → Except Fault (α × Input)

def byte (c : Char) : UInt8 := UInt8.ofNat c.toNat

def charOf (b : UInt8) : Char := Char.ofNat b.toNat

def isDigitByte (b : UInt8) : Bool := byte '0' ≤ b && b ≤ byte '9'

def isBlankByte (b : UInt8) : Bool :=
  b == byte ' ' || b == byte '\n' || b == byte '\t' || b == byte '\r'

def skipBlanks (s : Input) : Input := s.dropWhile isBlankByte

/-- Reads the rest of a literal word. -/
def readWord : List Char → Input → Except Fault Input
  | [], s => .ok s
  | _ :: _, [] => .error .endInValue
  | c :: cs, b :: s => if b = byte c then readWord cs s else .error .expectedWord

end CutAndChoose.Json
