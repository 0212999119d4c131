import CutAndChoose.Json.Input

/-!
# CutAndChoose.Json.Text

JSON strings, read byte by byte behind the opening quote.

* `Place`: where in a string the reader stands.
* `step`: what one byte does there.
* `readString`: the text of a string; its bytes must be UTF-8 and its surrogates paired.
* `skipString`: passes over a string whose text does not matter; only the form of its escapes is
  checked.
-/

namespace CutAndChoose.Json

/-- Where a reader stands inside a string. -/
inductive Place where
  | plain
  /-- Behind a backslash. -/
  | escape
  /-- Inside the four digits of an escape, those seen so far backwards. A high surrogate waits for
  its partner. -/
  | digits (high : Option Nat) (seen : List UInt8)
  /-- Behind the escape of a high surrogate, before the backslash of its partner. -/
  | partner (high : Nat)
  | partnerEscape (high : Nat)
  deriving DecidableEq

/-- What a byte does: it closes the string, or leads on and adds bytes of text, last one first. -/
inductive Move where
  | close
  | on (next : Place) (text : List UInt8)
  deriving DecidableEq

def hexValue? (b : UInt8) : Option Nat :=
  if isDigitByte b then some (b.toNat - 48)
  else if byte 'a' ≤ b && b ≤ byte 'f' then some (b.toNat - 87)
  else if byte 'A' ≤ b && b ≤ byte 'F' then some (b.toNat - 55)
  else none

/-- The value of hexadecimal digits, the last one first. -/
def hexNumber? : List UInt8 → Option Nat
  | [] => some 0
  | b :: bs => do return 16 * (← hexNumber? bs) + (← hexValue? b)

def isHighSurrogate (n : Nat) : Bool := 0xd800 ≤ n && n ≤ 0xdbff
def isLowSurrogate (n : Nat) : Bool := 0xdc00 ≤ n && n ≤ 0xdfff

/-- The bytes of a code point, last one first. -/
def codePointBytes (n : Nat) : List UInt8 :=
  (String.singleton (Char.ofNat n)).toUTF8.data.toList.reverse

/-- The character of a code unit `n`. A low surrogate stands only behind a high one, and a high one
waits for its partner. -/
def unit (high : Option Nat) (n : Nat) : Except Fault Move :=
  match high with
  | some h =>
    if isLowSurrogate n then
      .ok (.on .plain (codePointBytes (0x10000 + (h - 0xd800) * 0x400 + (n - 0xdc00))))
    else .error .loneSurrogate
  | none =>
    if isLowSurrogate n then .error .loneSurrogate
    else if isHighSurrogate n then .ok (.on (.partner n) [])
    else .ok (.on .plain (codePointBytes n))

/-- What an escape of one character stands for. -/
def shortEscape? (b : UInt8) : Option UInt8 :=
  if b = byte '"' then some b
  else if b = byte '\\' then some b
  else if b = byte '/' then some b
  else if b = byte 'b' then some 8
  else if b = byte 'f' then some 12
  else if b = byte 'n' then some 10
  else if b = byte 'r' then some 13
  else if b = byte 't' then some 9
  else none

/-- One byte of a string. The digits of an escape are checked when all four are there. `ofUnit`
says what becomes of the number they write. -/
def step (ofUnit : Option Nat → Nat → Except Fault Move) : Place → UInt8 → Except Fault Move
  | .plain, b =>
    if b = byte '"' then .ok .close
    else if b = byte '\\' then .ok (.on .escape [])
    else if b < 0x20 then .error .controlCharacter
    else .ok (.on .plain [b])
  | .escape, b =>
    match shortEscape? b with
    | some e => .ok (.on .plain [e])
    | none => if b = byte 'u' then .ok (.on (.digits none []) []) else .error .invalidEscape
  | .digits high seen, b =>
    if seen.length < 3 then .ok (.on (.digits high (b :: seen)) [])
    else
      match hexNumber? (b :: seen) with
      | some n => ofUnit high n
      | none => .error .invalidEscape
  | .partner high, b =>
    if b = byte '\\' then .ok (.on (.partnerEscape high) []) else .error .unfinishedSurrogate
  | .partnerEscape high, b =>
    if b = byte 'u' then .ok (.on (.digits (some high) []) []) else .error .unfinishedSurrogate

/-- The bytes of a string up to its closing quote, `acc` holding those read so far backwards. -/
def readStringFrom (ofUnit : Option Nat → Nat → Except Fault Move) :
    Place → List UInt8 → Reader (List UInt8)
  | _, _, [] => .error .endInString
  | place, acc, b :: s =>
    match step ofUnit place b with
    | .error f => .error f
    | .ok .close => .ok (acc.reverse, s)
    | .ok (.on next text) => readStringFrom ofUnit next (text ++ acc) s

def readString (s : Input) : Except Fault (String × Input) := do
  let (bytes, rest) ← readStringFrom unit .plain [] s
  match String.fromUTF8? ⟨bytes.toArray⟩ with
  | some text => return (text, rest)
  | none => throw .invalidCodePoint

def skipString (s : Input) : Except Fault Input := do
  let (_, rest) ← readStringFrom (fun _ _ => .ok (.on .plain [])) .plain [] s
  return rest

end CutAndChoose.Json
