import CutAndChoose.Decimal.Notation

/-!
# CutAndChoose.Json.Layout

Indented JSON text: one field or element per line, two blanks per level, an empty list on one line.
-/

namespace CutAndChoose.Json

/-- A line break and the indentation of a level. -/
def newLine (depth : Nat) : List Char := '\n' :: List.replicate (2 * depth) ' '

def itemLines (depth : Nat) (items : List (List Char)) : List Char :=
  newLine (depth + 1) ++ (',' :: newLine (depth + 1)).intercalate items ++ newLine depth

/-- A field; the names in use need no escapes. -/
def fieldLayout (field : String × List Char) : List Char :=
  '"' :: (field.1.toList ++ '"' :: ':' :: ' ' :: field.2)

def objectLayout (depth : Nat) (fields : List (String × List Char)) : List Char :=
  '\x7b' :: (itemLines depth (fields.map fieldLayout) ++ ['\x7d'])

def listLayout (depth : Nat) (items : List (List Char)) : List Char :=
  if items.isEmpty then ['[', ']'] else '[' :: (itemLines depth items ++ [']'])

def word32Layout (n : UInt32) : List Char := decimalDigits n.toNat

/-- Numbers that JSON cannot write become `null`. -/
def floatLayout (x : Binary64) : List Char :=
  if x.isFinite then Notation.json.text x else ['n', 'u', 'l', 'l']

def boolLayout (b : Bool) : List Char :=
  if b then ['t', 'r', 'u', 'e'] else ['f', 'a', 'l', 's', 'e']

end CutAndChoose.Json
