import CutAndChoose.Json.Value

/-!
# CutAndChoose.Json.Record

Readers of lists and of records with named fields.

A record is an object, its fields in any order and unknown fields passed over, or a list of all
fields in their own order. Reading fills the slots of a partial record `σ`; the last step turns
full slots into the record.

* `readList`: all elements of a list.
* `Shape`: the fields of a record and how they fill the slots.
* `readRecord`: a record of a shape.
-/

namespace CutAndChoose.Json

/-- Whether another element follows in a list, and the input at that element or at the bracket. -/
def nextElement (first : Bool) (s : Input) : Except Fault (Bool × Input) :=
  match skipBlanks s with
  | [] => .error .endInList
  | b :: s =>
    if b = byte ']' then .ok (false, b :: s)
    else if first then .ok (true, b :: s)
    else if b = byte ',' then
      match skipBlanks s with
      | [] => .error .endInValue
      | c :: s => if c = byte ']' then .error .trailingComma else .ok (true, c :: s)
    else .error .expectedListEnd

/-- Whether another key follows in an object, and the input behind the quote of that key or at the
brace. -/
def nextKey (first : Bool) (s : Input) : Except Fault (Bool × Input) :=
  match skipBlanks s with
  | [] => .error .endInObject
  | b :: s =>
    if b = byte '\x7d' then .ok (false, b :: s)
    else if first then
      if b = byte '"' then .ok (true, s) else .error .keyNotString
    else if b = byte ',' then
      match skipBlanks s with
      | [] => .error .endInValue
      | c :: s =>
        if c = byte '"' then .ok (true, s)
        else if c = byte '\x7d' then .error .trailingComma
        else .error .keyNotString
    else .error .expectedObjectEnd

/-- The bracket that closes a list whose wanted elements have all been read. -/
def closeList (s : Input) : Except Fault Input :=
  match skipBlanks s with
  | [] => .error .endInList
  | b :: s =>
    if b = byte ']' then .ok s
    else if b = byte ',' ∧ (skipBlanks s).head? = some (byte ']') then .error .trailingComma
    else .error .trailingCharacters

/-- The brace that closes an object whose keys have all been read. -/
def closeObject (s : Input) : Except Fault Input :=
  match skipBlanks s with
  | [] => .error .endInObject
  | b :: s =>
    if b = byte '\x7d' then .ok s
    else if b = byte ',' then .error .trailingComma
    else .error .trailingCharacters

def readColon (s : Input) : Except Fault Input :=
  match skipBlanks s with
  | [] => .error .endInObject
  | b :: s => if b = byte ':' then .ok s else .error .expectedColon

/-- The elements up to the bracket, `acc` holding those read so far backwards. -/
def readElements (item : Reader α) : Nat → List α → Reader (List α)
  | 0, _, _ => .error .endInList
  | fuel + 1, acc, s => do
    let (more, s) ← nextElement acc.isEmpty s
    if more then
      let (a, s) ← item s
      readElements item fuel (a :: acc) s
    else return (acc.reverse, s)

def readList (item : Reader α) (s : Input) : Except Fault (List α × Input) :=
  match skipBlanks s with
  | [] => .error .endInValue
  | b :: s =>
    if b = byte '[' then do
      let (items, s) ← readElements item (s.length + 1) [] s
      return (items, ← closeList s)
    else .error (reject "a sequence" b s)

structure Field (σ : Type) where
  name : String
  filled : σ → Bool
  read : σ → Reader σ

def Field.slot (name : String) (get : σ → Option α) (set : σ → α → σ)
    (value : Reader α) : Field σ :=
  ⟨name, fun slots => (get slots).isSome, fun slots s => do
    let (a, rest) ← value s
    return (set slots a, rest)⟩

/-- The value of a slot; an empty slot is a missing field. -/
def require (name : String) : Option α → Except Fault α
  | some a => .ok a
  | none => .error (.missingField name)

/-- A record: what it is called in faults, its slots and fields, and the record of full slots. -/
structure Shape (σ α : Type) where
  title : String
  empty : σ
  fields : List (Field σ)
  result : σ → Except Fault α

/-- The fields of a record written as a list, from position `i` on. -/
def readInOrder (shape : Shape σ α) : Nat → List (Field σ) → σ → Reader σ
  | _, [], slots, s => .ok (slots, s)
  | i, f :: fs, slots, s => do
    let (more, s) ← nextElement (i == 0) s
    if more then
      let (slots, s) ← f.read slots s
      readInOrder shape (i + 1) fs slots s
    else throw (.wrongLength i shape.title shape.fields.length)

/-- One field of an object, behind the opening quote of its key. -/
def readField (shape : Shape σ α) (slots : σ) (s : Input) : Except Fault (σ × Input) := do
  let (key, s) ← readString s
  match shape.fields.find? (·.name == key) with
  | some f =>
    if f.filled slots then throw (.duplicateField key)
    f.read slots (← readColon s)
  | none => return (slots, ← skipValue (← readColon s))

/-- The fields of a record written as an object. -/
def readByName (shape : Shape σ α) : Nat → Bool → σ → Reader σ
  | 0, _, _, _ => .error .endInObject
  | fuel + 1, first, slots, s => do
    let (more, s) ← nextKey first s
    if more then
      let (slots, s) ← readField shape slots s
      readByName shape fuel false slots s
    else return (slots, s)

def readRecord (shape : Shape σ α) (s : Input) : Except Fault (α × Input) :=
  match skipBlanks s with
  | [] => .error .endInValue
  | b :: s =>
    if b = byte '[' then do
      let (slots, s) ← readInOrder shape 0 shape.fields shape.empty s
      let a ← shape.result slots
      return (a, ← closeList s)
    else if b = byte '\x7b' then do
      let (slots, s) ← readByName shape (s.length + 1) true shape.empty s
      let a ← shape.result slots
      return (a, ← closeObject s)
    else .error (reject shape.title b s)

def readAll (value : Reader α) (s : Input) : Except Fault α := do
  let (a, rest) ← value s
  if (skipBlanks rest).isEmpty then return a else throw .trailingCharacters

end CutAndChoose.Json
