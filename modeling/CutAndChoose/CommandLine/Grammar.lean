/-!
# CutAndChoose.CommandLine.Grammar

Options and operands of one command.

An option is written `--name` or `-n`. Its value follows as the next argument, or attached as
`--name=value`, `-n=value` or `-nvalue`; flags can share one dash. An argument that starts with a
dash is never the value of the option before it, except a lone dash. After `--` every argument is
an operand. No option may be given twice.

A value that stands as its own argument takes effect when the next option begins or when the
arguments end, so an unknown argument right behind a bad value is the fault that is reported.

* `Opt`: one option, and how it fills the slots `σ` of a command.
* `Grammar.read`: the slots after all arguments.
-/

namespace CutAndChoose.CommandLine

inductive Refusal where
  | helpAsked
  | versionAsked
  | noCommand
  | unknownCommand
  | unknownArgument
  | missingValue
  | badValue
  | repeatedOption
  | unneededValue
  | missingOperand
  deriving DecidableEq

structure Opt (σ : Type) where
  long : String
  short : Option Char
  takesValue : Bool
  given : σ → Bool
  set : σ → String → Except Refusal σ

namespace Opt

/-- Puts a value, or the absence of one, into the slots. -/
def apply (o : Opt σ) (slots : σ) (value : Option String) : Except Refusal σ :=
  if o.takesValue && value.isNone then .error .missingValue
  else if o.given slots then .error .repeatedOption
  else o.set slots (value.getD "")

def stop (long : String) (short : Char) (refusal : Refusal) : Opt σ :=
  ⟨long, some short, false, fun _ => false, fun _ _ => .error refusal⟩

/-- An option with a value that is kept in one slot. -/
def slot (long : String) (short : Option Char) (get : σ → Option α) (put : σ → α → σ)
    (value : String → Except Refusal α) : Opt σ :=
  ⟨long, short, true, fun slots => (get slots).isSome, fun slots text => do
    return put slots (← value text)⟩

end Opt

/-- The options of a command and the operand it takes, if any. -/
structure Grammar (σ : Type) where
  options : List (Opt σ)
  operand : Option (Opt σ)

structure State (σ : Type) where
  slots : σ
  /-- What was begun and has not taken effect, with its value so far. -/
  pending : Option (Opt σ × Option String)
  /-- Whether the next argument may be the value of what is pending. -/
  awaitsValue : Bool
  operandSeen : Bool

namespace State

/-- Lets what is pending take effect. -/
def settle (s : State σ) : Except Refusal (State σ) :=
  match s.pending with
  | none => .ok s
  | some (o, value) => do
    return { s with slots := ← o.apply s.slots value, pending := none }

/-- Begins something whose value stands as its own argument. -/
def begin (s : State σ) (o : Opt σ) (value : Option String) : Except Refusal (State σ) := do
  let s ← s.settle
  return { s with pending := some (o, value), awaitsValue := value.isNone }

def option (s : State σ) (o : Opt σ) (attached : Option String) : Except Refusal (State σ) :=
  if o.takesValue && attached.isNone then s.begin o none
  else do
    let s ← s.settle
    return { s with slots := ← o.apply s.slots attached, awaitsValue := false }

end State

/-- A word `--name` or `--name=value` in two parts. -/
def longForm? : List Char → Option (List Char × Option (List Char))
  | '-' :: '-' :: rest =>
    match rest.dropWhile (· != '=') with
    | [] => some (rest, none)
    | _ :: value => some (rest.takeWhile (· != '='), some value)
  | _ => none

/-- The letters behind a single dash. -/
def shortForm? : List Char → Option (List Char)
  | '-' :: c :: rest => if c = '-' then none else some (c :: rest)
  | _ => none

/-- What is attached to a short option. -/
def attachedValue : List Char → Option String
  | [] => none
  | c :: rest => some (String.ofList (if c = '=' then rest else c :: rest))

namespace Grammar

def longOption (g : Grammar σ) (s : State σ) (name : String) (value : Option String) :
    Except Refusal (State σ) :=
  match g.options.find? (·.long == name) with
  | none => .error .unknownArgument
  | some o => if !o.takesValue && value.isSome then .error .unneededValue else s.option o value

def shortOptions (g : Grammar σ) : State σ → List Char → Except Refusal (State σ)
  | s, [] => .ok s
  | s, c :: rest =>
    match g.options.find? (·.short == some c) with
    | none => .error .unknownArgument
    | some o =>
      if o.takesValue then s.option o (attachedValue rest)
      else do g.shortOptions (← s.option o none) rest

def readOperand (g : Grammar σ) (s : State σ) (arg : String) : Except Refusal (State σ) :=
  match g.operand with
  | none => .error .unknownArgument
  | some o =>
    if s.operandSeen then .error .unknownArgument
    else do return { (← s.begin o (some arg)) with operandSeen := true }

/-- One argument before any `--`. -/
def readArgument (g : Grammar σ) (s : State σ) (arg : String) : Except Refusal (State σ) :=
  match longForm? arg.toList with
  | some (name, value) => g.longOption s (String.ofList name) (value.map String.ofList)
  | none =>
    match shortForm? arg.toList with
    | some letters => g.shortOptions s letters
    | none =>
      match s.pending with
      | some (o, _) =>
        if s.awaitsValue then .ok { s with pending := some (o, some arg), awaitsValue := false }
        else g.readOperand s arg
      | none => g.readOperand s arg

def readArguments (g : Grammar σ) : State σ → List String → Except Refusal (State σ)
  | s, [] => s.settle
  | s, arg :: rest =>
    if arg = "--" then do (← rest.foldlM g.readOperand s).settle
    else do g.readArguments (← g.readArgument s arg) rest

def read (g : Grammar σ) (slots : σ) (args : List String) : Except Refusal σ :=
  (g.readArguments ⟨slots, none, false, false⟩ args).map (·.slots)

end Grammar

/-- An integer with an optional sign. -/
def integer? (s : List Char) : Option Int :=
  let (negative, digits) := match s with
    | '-' :: rest => (true, rest)
    | '+' :: rest => (false, rest)
    | _ => (false, s)
  if digits ≠ [] ∧ digits.all Char.isDigit then
    let n : Int := Nat.ofDigitChars 10 digits 0
    some (if negative then -n else n)
  else none

/-- A natural number below `2^32`. -/
def word32Value (s : String) : Except Refusal UInt32 :=
  match integer? s.toList with
  | some i => if 0 ≤ i ∧ i < UInt32.size then .ok (UInt32.ofNat i.toNat) else .error .badValue
  | none => .error .badValue

/-- An integer from `-2^31` to `2^31 - 1`. -/
def int32Value (s : String) : Except Refusal Int32 :=
  match integer? s.toList with
  | some i =>
    if Int32.minValue.toInt ≤ i ∧ i ≤ Int32.maxValue.toInt then .ok (Int32.ofInt i)
    else .error .badValue
  | none => .error .badValue

/-- A path; the empty text counts as no value. -/
def pathValue (s : String) : Except Refusal String :=
  if s = "" then .error .missingValue else .ok s

end CutAndChoose.CommandLine
