import CutAndChoose.Json.Skip

/-!
# CutAndChoose.Json.Value

Readers of single values: 32-bit naturals, floats and booleans. A value of another kind is read far
enough to name it in the fault.
-/

namespace CutAndChoose.Json

/-- Names the value that starts with `b` instead of what was expected. -/
def reject (expected : String) (b : UInt8) (s : Input) : Fault :=
  let kind (found : Found) : Fault := .wrongKind found expected
  let word (cs : List Char) (found : Found) : Fault :=
    match readWord cs s with
    | .ok _ => kind found
    | .error f => f
  if b = byte 'n' then word ['u', 'l', 'l'] .null
  else if b = byte 't' then word ['r', 'u', 'e'] (.boolean true)
  else if b = byte 'f' then word ['a', 'l', 's', 'e'] (.boolean false)
  else if b = byte '-' ∨ isDigitByte b then
    match readNumber (b :: s) with
    | .ok (.natural n, _) => kind (.integer n)
    | .ok (.negative i, _) => kind (.integer i)
    | .ok (.float x, _) => kind (.float x)
    | .error f => f
  else if b = byte '"' then
    match readString s with
    | .ok (text, _) => kind (.string text)
    | .error f => f
  else if b = byte '[' then kind .list
  else if b = byte '\x7b' then kind .object
  else .expectedValue

/-- Reads a number and converts it; `expected` names what the number should be. -/
def readNumeric (expected : String) (convert : Number → Except Fault α) (s : Input) :
    Except Fault (α × Input) :=
  match skipBlanks s with
  | [] => .error .endInValue
  | b :: s =>
    if b = byte '-' ∨ isDigitByte b then do
      let (n, rest) ← readNumber (b :: s)
      let v ← convert n
      return (v, rest)
    else .error (reject expected b s)

def readWord32 : Reader UInt32 :=
  readNumeric "u32" fun
    | .natural n => if n < UInt32.size then .ok (UInt32.ofNat n) else .error (.wrongValue n "u32")
    | .negative i => .error (.wrongValue i "u32")
    | .float x => .error (.wrongKind (.float x) "u32")

/-- A float; an integer is converted to the nearest one. -/
def readFloat : Reader Binary64 :=
  readNumeric "f64" fun
    | .natural n => .ok (.ofNat n)
    | .negative i => .ok (.ofInt i)
    | .float x => .ok x

def readBool (s : Input) : Except Fault (Bool × Input) :=
  match skipBlanks s with
  | [] => .error .endInValue
  | b :: s =>
    if b = byte 't' then (readWord ['r', 'u', 'e'] s).map (true, ·)
    else if b = byte 'f' then (readWord ['a', 'l', 's', 'e'] s).map (false, ·)
    else .error (reject "a boolean" b s)

end CutAndChoose.Json
