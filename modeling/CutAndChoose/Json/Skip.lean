import CutAndChoose.Json.Number
import CutAndChoose.Json.Text

/-!
# CutAndChoose.Json.Skip

Passing over a value whose content does not matter, at any depth. The open lists and objects are
kept on a stack, the innermost first.

A comma before a closing bracket is no special case here: behind a comma a list wants a value and
an object a key.
-/

namespace CutAndChoose.Json

inductive Frame where
  | list
  | object
  deriving DecidableEq

def skipKey (s : Input) : Except Fault Input :=
  match skipBlanks s with
  | [] => .error .endInObject
  | b :: s =>
    if b = byte '"' then do
      let s ← skipString s
      match skipBlanks s with
      | [] => throw .endInObject
      | b :: s => if b = byte ':' then return s else throw .expectedColon
    else .error .keyNotString

/-- A value without parts, if the input starts with one. -/
def skipScalar (b : UInt8) (s : Input) : Except Fault Input :=
  if b = byte 'n' then readWord ['u', 'l', 'l'] s
  else if b = byte 't' then readWord ['r', 'u', 'e'] s
  else if b = byte 'f' then readWord ['a', 'l', 's', 'e'] s
  else if b = byte '-' then skipNumber s
  else if isDigitByte b then skipNumber (b :: s)
  else if b = byte '"' then skipString s
  else .error .expectedValue

mutual

/-- Passes over a value inside the open frames and over the rest of the frames. Every round passes
a byte, so `fuel` above the length of the input never runs out. -/
def skipInside : Nat → List Frame → Input → Except Fault Input
  | 0, _, _ => .error .endInValue
  | fuel + 1, stack, s =>
    match skipBlanks s with
    | [] => .error .endInValue
    | b :: s =>
      if b = byte '[' then
        match skipBlanks s with
        | [] => .error .endInList
        | c :: rest =>
          if c = byte ']' then skipOpen fuel stack rest
          else skipInside fuel (.list :: stack) s
      else if b = byte '\x7b' then
        match skipBlanks s with
        | [] => .error .endInObject
        | c :: rest =>
          if c = byte '\x7d' then skipOpen fuel stack rest
          else
            match skipKey s with
            | .ok s => skipInside fuel (.object :: stack) s
            | .error f => .error f
      else
        match skipScalar b s with
        | .ok s => skipOpen fuel stack s
        | .error f => .error f

/-- What may follow a value inside the open frames. -/
def skipOpen : Nat → List Frame → Input → Except Fault Input
  | _, [], s => .ok s
  | 0, _ :: _, _ => .error .endInValue
  | fuel + 1, .list :: stack, s =>
    match skipBlanks s with
    | [] => .error .endInList
    | b :: s =>
      if b = byte ',' then skipInside fuel (.list :: stack) s
      else if b = byte ']' then skipOpen fuel stack s
      else .error .expectedListEnd
  | fuel + 1, .object :: stack, s =>
    match skipBlanks s with
    | [] => .error .endInObject
    | b :: s =>
      if b = byte ',' then
        match skipKey s with
        | .ok s => skipInside fuel (.object :: stack) s
        | .error f => .error f
      else if b = byte '\x7d' then skipOpen fuel stack s
      else .error .expectedObjectEnd

end

def skipValue (s : Input) : Except Fault Input := skipInside (2 * s.length + 1) [] s

end CutAndChoose.Json
