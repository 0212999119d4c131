import CutAndChoose.Text.Alphanumeric
import CutAndChoose.Trace.Event
import CutAndChoose.Trace.FieldTest

/-!
# CutAndChoose.Trace.Directive

One rule of a filter: up to which level events of a target are written.

* `level`: events of every target;
* `target`: everything of a target, and `target=level` what is at most as detailed;
* `target[span]` and `target[span{field}]`, with a level or without: events inside a span. Such a
  rule never applies, because no span is ever open;
* `target[{field}]`: events that have a field. A field with a value again needs a span.

A rule applies to an event whose target starts with its own and that has its field.
-/

namespace CutAndChoose.Trace

/-- The most detailed level let through, as a number; zero lets nothing through. -/
abbrev Threshold := Nat

/-- A rule that can apply; the empty target stands for every target. -/
structure Directive where
  target : String
  field : Option String
  threshold : Threshold
  deriving DecidableEq

def asciiLower (s : String) : String := s.map Char.toLower

/-- A level by name, in any case, or by number. -/
def threshold? (s : String) : Option Threshold :=
  let digits := if s.startsWith "+" then (s.drop 1).toString else s
  if digits ≠ "" ∧ digits.all Char.isDigit then
    let n := Nat.ofDigitChars 10 digits.toList 0
    if n ≤ 5 then some n else none
  else
    match asciiLower s with
    | "off" => some 0
    | "error" => some 1
    | "warn" => some 2
    | "info" => some 3
    | "debug" => some 4
    | "trace" => some 5
    | _ => none

/-- What a missing or an empty level means. -/
def everything : Threshold := 5

def levelOf? (s : String) : Option Threshold :=
  if s = "" then some everything else threshold? s

/-- Where a part of a directive stands, in bytes. -/
structure Extent where
  start : Nat
  stop : Nat
  deriving DecidableEq

inductive Outline where
  /-- A name: a level or a target. -/
  | name
  /-- A target, brackets and a level, of which some may be missing. The level ends the directive,
  so it has a start only. -/
  | parts (target : Option Extent) (hasSpan : Bool) (field : Option Extent) (level : Option Nat)
  deriving DecidableEq

def byteCount (s : List Char) : Nat := (String.ofList s).utf8ByteSize

def startsName (c : Char) : Bool := c == '-' || c == ':' || c == '_' || isAlphanumeric c

/-- The end of a directive at byte `i`: nothing, or a level. -/
def endOutline (target : Option Extent) (hasSpan : Bool) (field : Option Extent) (i : Nat) :
    List Char → Option Outline
  | [] => some (.parts target hasSpan field none)
  | '=' :: _ => some (.parts target hasSpan field (some (i + 1)))
  | _ :: _ => none

/-- A directive from byte `i` on, behind its opening bracket. -/
def bracketOutline (target : Option Extent) (i : Nat) (s : List Char) : Option Outline :=
  let ends (c : Char) : Bool := c == ']' || c == '\x7b'
  let name := s.takeWhile (!ends ·)
  let i := i + byteCount name
  match s.dropWhile (!ends ·) with
  | ']' :: s => endOutline target true none (i + 1) s
  | _ :: s =>
    let field := s.takeWhile (· != '\x7d')
    let extent : Extent := ⟨i + 1, i + 1 + byteCount field⟩
    match s.dropWhile (· != '\x7d') with
    | _ :: ']' :: s =>
      if field = [] then none
      else endOutline target (!name.isEmpty) (some extent) (extent.stop + 2) s
    | _ => none
  | [] => none

/-- The parts of a directive without blanks around it. -/
def outline? : List Char → Option Outline
  | [] => none
  | '[' :: s => bracketOutline none 1 s
  | c :: s =>
    if startsName c then
      let ends (c : Char) : Bool := c == '=' || c == '['
      let extent : Extent := ⟨0, byteCount ((c :: s).takeWhile (!ends ·))⟩
      match (c :: s).dropWhile (!ends ·) with
      | [] => some .name
      | '[' :: s => bracketOutline (some extent) (extent.stop + 1) s
      | s => endOutline (some extent) false none extent.stop s
    else none

/-- The text between two bytes, if both stand between characters. -/
def Extent.cut (e : Extent) (s : String) : Option String :=
  String.fromUTF8? (s.toUTF8.extract e.start e.stop)

def namedDirective (s : String) : Directive :=
  match threshold? s with
  | some t => ⟨"", none, t⟩
  | none => ⟨s, none, everything⟩

/-- Reads a directive: `none` if it is malformed, and nothing in it if it never applies. The parts
are found without the blanks around the text but are counted from its start, blanks included. -/
def directive? (s : String) : Option (Option Directive) := do
  match ← outline? (trimBlanks s.toList) with
  | .name => return some (namedDirective s)
  | .parts target hasSpan field level =>
    let target ← target.mapM (·.cut s)
    let test ← field.mapM fun e => do FieldTest.read? (← e.cut s)
    let level ← level.mapM fun i => Extent.cut ⟨i, s.utf8ByteSize⟩ s
    let threshold ← levelOf? (level.getD "")
    if hasSpan || test.any (·.valued) then return none
    else return some ⟨target.getD "", test.map (·.name), threshold⟩

namespace Directive

def applies (d : Directive) (e : Event) : Bool :=
  e.target.startsWith d.target && d.field.all e.fieldNames.contains

/-- Whether one directive is more specific than another: by the length of the target, then by
having a field, then by the later name of the field. -/
def narrower (d d' : Directive) : Bool :=
  if d.target.utf8ByteSize = d'.target.utf8ByteSize then
    match d.field, d'.field with
    | some f, some f' => decide (f' < f)
    | some _, none => true
    | none, _ => false
  else d'.target.utf8ByteSize < d.target.utf8ByteSize

end Directive

end CutAndChoose.Trace
