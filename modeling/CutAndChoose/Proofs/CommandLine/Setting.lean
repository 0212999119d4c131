import Mathlib
import CutAndChoose.Proofs.CommandLine.Command
import CutAndChoose.Proofs.Decimal.Positional
import CutAndChoose.Proofs.Text.Run

/-!
# CutAndChoose.Proofs.CommandLine.Setting

An option of a search that is written with its value as one argument, `--name=value`, or `--name`
for the flag.

* `Setting`: an option with its value, and its text.
* `longForm?_text`, `integer?_int`: name and value are taken back from the text.
* `held_put`: a setting fills the slot of its option and no other.
* `readArgument_setting`: reading the text enters the setting, which is refused if its slot is
  filled already.
-/

namespace CutAndChoose.CommandLine

/-! ## Settings and their texts -/

inductive SearchOption where
  | parties
  | securityBits
  | mStart
  | mEnd
  | mStep
  | tauStart
  | tauEnd
  | tauStep
  | verbose
  | exportJson
  deriving DecidableEq

def SearchOption.name : SearchOption → String
  | parties => "parties"
  | securityBits => "security-bits"
  | mStart => "m-start"
  | mEnd => "m-end"
  | mStep => "m-step"
  | tauStart => "tau-start"
  | tauEnd => "tau-end"
  | tauStep => "tau-step"
  | verbose => "verbose"
  | exportJson => "export-json"

/-- An option of a search with its value. -/
inductive Setting where
  | parties (n : UInt32)
  | securityBits (bits : Int32)
  | mStart (n : UInt32)
  | mEnd (n : UInt32)
  | mStep (n : UInt32)
  | tauStart (n : UInt32)
  | tauEnd (n : UInt32)
  | tauStep (n : UInt32)
  | verbose
  | exportJson (path : String)
  deriving DecidableEq

namespace Setting

def option : Setting → SearchOption
  | parties _ => .parties
  | securityBits _ => .securityBits
  | mStart _ => .mStart
  | mEnd _ => .mEnd
  | mStep _ => .mStep
  | tauStart _ => .tauStart
  | tauEnd _ => .tauEnd
  | tauStep _ => .tauStep
  | verbose => .verbose
  | exportJson _ => .exportJson

/-- The value in decimal digits, or the path; the flag has none. -/
def value : Setting → Option String
  | parties n | mStart n | mEnd n | mStep n | tauStart n | tauEnd n | tauStep n =>
    some (toString n.toNat)
  | securityBits bits => some (toString bits.toInt)
  | verbose => none
  | exportJson path => some path

def text (x : Setting) : String :=
  "--" ++ match x.value with
    | none => x.option.name
    | some value => x.option.name ++ "=" ++ value

end Setting

/-! ## Numbers in digits -/

section Numbers

variable {s : List Char}

theorem integer?_digits (hne : s ≠ []) (hdigits : ∀ c ∈ s, c.isDigit = true) :
    integer? s = some (Nat.ofDigitChars 10 s 0 : ℤ) := by
  have hall : s.all Char.isDigit = true := List.all_eq_true.2 hdigits
  unfold integer?
  split
  rename_i negative digits hsplit
  split at hsplit
  · exact absurd (hdigits '-' List.mem_cons_self) (by decide)
  · exact absurd (hdigits '+' List.mem_cons_self) (by decide)
  · cases hsplit
    simp [hne, hall]

theorem integer?_minus_digits (hne : s ≠ []) (hdigits : ∀ c ∈ s, c.isDigit = true) :
    integer? ('-' :: s) = some (-(Nat.ofDigitChars 10 s 0 : ℤ)) := by
  have hall : s.all Char.isDigit = true := List.all_eq_true.2 hdigits
  simp [integer?, hne, hall]

theorem toList_toString_nat (n : ℕ) : (toString n).toList = decimalDigits n := by
  simp [decimalDigits]

theorem integer?_nat (n : ℕ) : integer? (toString n).toList = some (n : ℤ) := by
  rw [toList_toString_nat, integer?_digits (decimalDigits_ne_nil n)
    (fun _ => isDigit_of_mem_decimalDigits), ofDigitChars_decimalDigits]

theorem integer?_int (i : ℤ) : integer? (toString i).toList = some i := by
  cases i with
  | ofNat n => exact integer?_nat n
  | negSucc n =>
    have htext : (toString (Int.negSucc n)).toList = '-' :: decimalDigits (n + 1) := by
      rw [← toList_toString_nat]
      exact String.toList_append
    rw [htext, integer?_minus_digits (decimalDigits_ne_nil _)
      (fun _ => isDigit_of_mem_decimalDigits), ofDigitChars_decimalDigits]
    rfl

theorem word32Value_toString (n : UInt32) : word32Value (toString n.toNat) = .ok n := by
  have hlt : (n.toNat : ℤ) < UInt32.size := Int.ofNat_lt.2 n.toNat_lt_size
  unfold word32Value
  rw [integer?_nat]
  dsimp only
  rw [if_pos ⟨Int.natCast_nonneg _, hlt⟩, Int.toNat_natCast, UInt32.ofNat_toNat]

theorem int32Value_toString (bits : Int32) : int32Value (toString bits.toInt) = .ok bits := by
  unfold int32Value
  rw [integer?_int]
  dsimp only
  rw [if_pos ⟨bits.minValue_le_toInt, bits.toInt_le⟩, Int32.ofInt_toInt]

end Numbers

/-! ## Long options -/

section Text

variable {name value : String}

theorem longForm?_name (hname : '=' ∉ name.toList) :
    longForm? ("--" ++ name).toList = some (name.toList, none) := by
  have htext : ("--" ++ name).toList = '-' :: '-' :: name.toList := String.toList_append
  have hdrop : name.toList.dropWhile (· != '=') = [] := by
    rw [List.dropWhile_eq_nil_iff]
    intro c hc
    exact bne_iff_ne.2 (ne_of_mem_of_not_mem hc hname)
  rw [htext, longForm?, hdrop]

theorem longForm?_name_value (hname : '=' ∉ name.toList) :
    longForm? ("--" ++ (name ++ "=" ++ value)).toList = some (name.toList, some value.toList) := by
  have htext : ("--" ++ (name ++ "=" ++ value)).toList =
      '-' :: '-' :: (name.toList ++ '=' :: value.toList) := by
    simp
  have hrun : ∀ c ∈ name.toList, (c != '=') = true := by
    intro c hc
    exact bne_iff_ne.2 (ne_of_mem_of_not_mem hc hname)
  have hend : ∀ c ∈ ('=' :: value.toList).head?, (c != '=') = false := by simp
  rw [htext, longForm?, dropWhile_run hrun hend, takeWhile_run hrun hend]

theorem SearchOption.not_mem_name (k : SearchOption) : '=' ∉ k.name.toList := by
  cases k <;> decide

theorem longForm?_text (x : Setting) :
    longForm? x.text.toList = some (x.option.name.toList, x.value.map String.toList) := by
  unfold Setting.text
  cases x.value with
  | none => exact longForm?_name x.option.not_mem_name
  | some value => exact longForm?_name_value x.option.not_mem_name

theorem startsWith_text (x : Setting) : x.text.startsWith "-" = true := by
  rw [String.startsWith_string_iff, Setting.text, String.toList_append]
  exact ⟨'-' :: _, rfl⟩

/-- No setting ends the options or asks for help or version. -/
theorem text_ne (x : Setting) {arg : String} (harg : arg ∈ "--" :: Command.topLevel) :
    x.text ≠ arg := by
  intro h
  have hform := longForm?_text x
  rw [h] at hform
  simp only [Command.topLevel, List.mem_cons, List.not_mem_nil, or_false] at harg
  rcases harg with rfl | rfl | rfl | rfl | rfl | rfl <;>
    cases hoption : x.option <;> simp [longForm?, hoption, SearchOption.name] at hform

end Text

/-! ## Slots -/

/-- The setting of an option that the slots hold. -/
def SearchSlots.held (slots : SearchSlots) : SearchOption → Option Setting
  | .parties => slots.parties.map .parties
  | .securityBits => slots.securityBits.map .securityBits
  | .mStart => slots.mStart.map .mStart
  | .mEnd => slots.mEnd.map .mEnd
  | .mStep => slots.mStep.map .mStep
  | .tauStart => slots.tauStart.map .tauStart
  | .tauEnd => slots.tauEnd.map .tauEnd
  | .tauStep => slots.tauStep.map .tauStep
  | .verbose => if slots.verbose then some .verbose else .none
  | .exportJson => slots.exportJson.map .exportJson

namespace Setting

def put (slots : SearchSlots) : Setting → SearchSlots
  | parties n => { slots with parties := some n }
  | securityBits bits => { slots with securityBits := some bits }
  | mStart n => { slots with mStart := some n }
  | mEnd n => { slots with mEnd := some n }
  | mStep n => { slots with mStep := some n }
  | tauStart n => { slots with tauStart := some n }
  | tauEnd n => { slots with tauEnd := some n }
  | tauStep n => { slots with tauStep := some n }
  | verbose => { slots with verbose := true }
  | exportJson path => { slots with exportJson := some path }

/-- Puts a setting into the slot of its option, unless that is filled. -/
def enter (slots : SearchSlots) (x : Setting) : Except Refusal SearchSlots :=
  if (slots.held x.option).isSome then .error .repeatedOption else .ok (x.put slots)

end Setting

/-- The slot of the option changes, and no other. -/
theorem held_put (slots : SearchSlots) (x : Setting) :
    (x.put slots).held = Function.update slots.held x.option (some x) := by
  funext k
  cases x <;> cases k <;> rfl

/-! ## One argument -/

section Argument

variable {σ : Type} {g : Grammar σ} {s : State σ} {o : Opt σ} {arg name : String}
  {value : Option String}

theorem readArgument_long
    (hform : longForm? arg.toList = some (name.toList, value.map String.toList))
    (hfind : g.options.find? (·.long == name) = some o) (htakes : o.takesValue = value.isSome) :
    g.readArgument s arg = s.option o value := by
  unfold Grammar.readArgument Grammar.longOption
  rw [hform]
  cases value with
  | none => simp [hfind]
  | some value =>
    have htakes : o.takesValue = true := htakes
    simp [hfind, htakes]

/-- An option that needs no further argument takes effect at once, right after what is pending. -/
theorem option_whole (htakes : o.takesValue = value.isSome) :
    s.option o value = s.settle >>= fun t =>
      (o.apply t.slots value).map fun slots => { t with slots := slots, awaitsValue := false } := by
  have hwhole : ¬(o.takesValue && value.isNone) = true := by
    rw [htakes]
    cases value <;> simp
  rw [State.option, if_neg hwhole]
  cases s.settle with
  | error r => rfl
  | ok t =>
    rw [ok_bind, ok_bind]
    cases o.apply t.slots value <;> rfl

/-- The option of a setting takes its value, and puts it into its slot unless that is filled. -/
structure Opt.Takes (o : Opt SearchSlots) (x : Setting) : Prop where
  takesValue : o.takesValue = x.value.isSome
  apply : ∀ slots, o.apply slots x.value = x.enter slots

theorem slot_takes {α : Type} {long text : String} {short : Option Char}
    {get : SearchSlots → Option α} {put : SearchSlots → α → SearchSlots}
    {read : String → Except Refusal α} {setting : α → Setting} {x : Setting} {a : α}
    (hvalue : x.value = some text) (hread : read text = .ok a)
    (hheld : ∀ slots, slots.held x.option = (get slots).map setting)
    (hput : ∀ slots, x.put slots = put slots a) :
    (Opt.slot long short get put read).Takes x where
  takesValue := by rw [hvalue]; rfl
  apply slots := by
    rw [Setting.enter, hheld, hput, hvalue, Option.isSome_map, Opt.apply, if_neg (by simp)]
    change (if (get slots).isSome then _ else read text >>= _) = _
    rw [hread]
    rfl

theorem verbose_takes : verboseOption.Takes .verbose where
  takesValue := rfl
  apply slots := by
    cases h : slots.verbose <;>
      simp [h, Opt.apply, verboseOption, Setting.enter, Setting.put, Setting.option,
        SearchSlots.held]

theorem pathValue_of_ne {path : String} (h : path ≠ "") : pathValue path = .ok path := by
  rw [pathValue, if_neg h]

theorem exists_option {x : Setting} (hx : x ≠ .exportJson "") :
    ∃ o, searchGrammar.options.find? (·.long == x.option.name) = some o ∧ o.Takes x := by
  cases x
  case securityBits bits =>
    exact ⟨_, rfl, slot_takes rfl (int32Value_toString bits) (fun _ => rfl) (fun _ => rfl)⟩
  case verbose => exact ⟨verboseOption, rfl, verbose_takes⟩
  case exportJson path =>
    have hpath : path ≠ "" := by
      rintro rfl
      exact hx rfl
    exact ⟨_, rfl, slot_takes rfl (pathValue_of_ne hpath) (fun _ => rfl) (fun _ => rfl)⟩
  all_goals
    exact ⟨_, rfl, slot_takes rfl (word32Value_toString _) (fun _ => rfl) (fun _ => rfl)⟩

theorem readArgument_setting {x : Setting} (hx : x ≠ .exportJson "") (s : State SearchSlots) :
    searchGrammar.readArgument s x.text = s.settle >>= fun t =>
      (x.enter t.slots).map fun slots => { t with slots := slots, awaitsValue := false } := by
  obtain ⟨o, hfind, ho⟩ := exists_option hx
  rw [readArgument_long (longForm?_text x) hfind ho.takesValue, option_whole ho.takesValue]
  simp only [ho.apply]

end Argument

end CutAndChoose.CommandLine
