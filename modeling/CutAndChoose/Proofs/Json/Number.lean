import Mathlib
import CutAndChoose.Proofs.Decimal.Positional
import CutAndChoose.Proofs.Decimal.Shortest
import CutAndChoose.Proofs.Json.Input

/-!
# CutAndChoose.Proofs.Json.Number

Written numbers are read back.

* `NumberText.layout`: how a number is spelled; `readNumberText_layout`: the reader finds the parts
  again.
* `exists_numberText`: the JSON text of a magnitude is the spelling of a number that is nearest to
  that magnitude and short enough to be kept whole.
* `gives_word32`, `gives_float`: 32-bit naturals and finite floats come back, the sign of a zero
  included; every other float is refused.
-/

namespace CutAndChoose

namespace Json

theorem toNat_lt_of_isDigit {c : Char} (h : c.isDigit = true) : c.toNat < 128 := by
  have hbound : c.toNat ≤ 57 := (Char.isDigit_iff_toNat.1 h).2
  omega

theorem isDigitByte_byte {c : Char} (h : c.isDigit = true) : isDigitByte (byte c) = true := by
  have hbyte := toNat_byte (toNat_lt_of_isDigit h)
  obtain ⟨hlow, hup⟩ := Char.isDigit_iff_toNat.1 h
  rw [isDigitByte, Bool.and_eq_true, decide_eq_true_iff, decide_eq_true_iff, UInt8.le_iff_toNat_le,
    UInt8.le_iff_toNat_le, hbyte]
  exact ⟨hlow, hup⟩

theorem not_blank_of_digit {b : UInt8} (h : isDigitByte b = true) : isBlankByte b = false := by
  cases hb : isBlankByte b with
  | false => rfl
  | true =>
    simp only [isBlankByte, Bool.or_eq_true, beq_iff_eq] at hb
    rcases hb with ((rfl | rfl) | rfl) | rfl <;> cases h

/-- What follows a run of digits. -/
def NoDigit (s : Input) : Prop := ∀ b ∈ s.head?, isDigitByte b = false

theorem Ends.noDigit {rest : Input} (h : Ends rest) : NoDigit rest := by
  intro b hb
  rcases h b hb with rfl | rfl <;> rfl

theorem takeDigits_bytes {digits : List Char} {rest : Input}
    (hdigits : ∀ c ∈ digits, c.isDigit = true) (hrest : NoDigit rest) :
    takeDigits (bytes digits ++ rest) = (digits, rest) := by
  have hascii : ∀ c ∈ digits, c.toNat < 128 := fun c hc => toNat_lt_of_isDigit (hdigits c hc)
  have hrun : ∀ b ∈ digits.map byte, isDigitByte b = true := by
    intro b hb
    obtain ⟨c, hc, rfl⟩ := List.mem_map.1 hb
    exact isDigitByte_byte (hdigits c hc)
  have hback : (digits.map byte).map charOf = digits := by
    rw [List.map_map, List.map_congr_left (g := id), List.map_id]
    intro c hc
    exact charOf_byte (hascii c hc)
  rw [takeDigits, bytes_eq_map hascii, takeWhile_run hrun hrest, dropWhile_run hrun hrest, hback]

theorem readDigits_bytes {digits : List Char} {rest : Input} (hne : digits ≠ [])
    (hdigits : ∀ c ∈ digits, c.isDigit = true) (hrest : NoDigit rest) :
    readDigits (bytes digits ++ rest) = .ok (digits, rest) := by
  rw [readDigits, takeDigits_bytes hdigits hrest]
  cases digits with
  | nil => exact absurd rfl hne
  | cons c digits => rfl

/-! ## The spelling of a number -/

def fractionLayout : Option (List Char) → List Char
  | none => []
  | some digits => '.' :: digits

def exponentLayout : Option ℤ → List Char
  | none => []
  | some e => 'e' :: (if e < 0 then '-' else '+') :: decimalDigits e.natAbs

def NumberText.layout (t : NumberText) : List Char :=
  t.whole ++ (fractionLayout t.fraction ++ exponentLayout t.exponent)

/-- What JSON takes for the digits of a number. -/
structure NumberText.WellFormed (t : NumberText) : Prop where
  whole_ne : t.whole ≠ []
  whole_digits : ∀ c ∈ t.whole, c.isDigit = true
  whole_head : t.whole.head? = some '0' → t.whole = ['0']
  fraction_ne : ∀ digits ∈ t.fraction, digits ≠ []
  fraction_digits : ∀ digits ∈ t.fraction, ∀ c ∈ digits, c.isDigit = true

theorem head_exponentLayout {e : Option ℤ} {rest : Input} (hrest : Ends rest) :
    ∀ b ∈ (bytes (exponentLayout e) ++ rest).head?,
      b = byte 'e' ∨ b = byte ',' ∨ b = byte '\n' := by
  intro b hb
  cases e with
  | none => exact .inr (hrest b hb)
  | some e =>
    rw [exponentLayout, bytes_cons (by decide)] at hb
    cases hb
    exact .inl rfl

theorem noDigit_exponentLayout {e : Option ℤ} {rest : Input} (hrest : Ends rest) :
    NoDigit (bytes (exponentLayout e) ++ rest) := by
  intro b hb
  rcases head_exponentLayout hrest b hb with rfl | rfl | rfl <;> rfl

theorem noDigit_fractionLayout {f : Option (List Char)} {s : Input} (hs : NoDigit s) :
    NoDigit (bytes (fractionLayout f) ++ s) := by
  cases f with
  | none => exact hs
  | some digits =>
    intro b hb
    rw [fractionLayout, bytes_cons (by decide)] at hb
    cases hb
    rfl

theorem readWhole_bytes {whole : List Char} {s : Input} (hne : whole ≠ [])
    (hdigits : ∀ c ∈ whole, c.isDigit = true) (hhead : whole.head? = some '0' → whole = ['0'])
    (hs : NoDigit s) : readWhole (bytes whole ++ s) = .ok (whole, s) := by
  cases whole with
  | nil => exact absurd rfl hne
  | cons c digits =>
    have hc := hdigits c List.mem_cons_self
    have hascii := toNat_lt_of_isDigit hc
    by_cases hzero : c = '0'
    · subst hzero
      cases hhead rfl
      cases s with
      | nil => rfl
      | cons d s =>
        have hd : isDigitByte d = false := hs d rfl
        rw [bytes_cons hascii, bytes_nil]
        unfold readWhole
        dsimp only [List.cons_append, List.nil_append]
        rw [if_pos rfl, hd]
        rfl
    · have hbyte := byte_ne hascii (by decide) hzero
      have htake := takeDigits_bytes hdigits hs
      rw [bytes_cons hascii, List.cons_append] at htake ⊢
      unfold readWhole
      dsimp only
      rw [if_neg hbyte, if_pos (isDigitByte_byte hc), htake]

theorem readFraction_layout {f : Option (List Char)} {s : Input} (hne : ∀ digits ∈ f, digits ≠ [])
    (hdigits : ∀ digits ∈ f, ∀ c ∈ digits, c.isDigit = true) (hs : NoDigit s)
    (hpoint : ∀ b ∈ s.head?, b ≠ byte '.') :
    readFraction (bytes (fractionLayout f) ++ s) = .ok (f, s) := by
  cases f with
  | none =>
    cases s with
    | nil => rfl
    | cons b s =>
      rw [fractionLayout, bytes_nil, List.nil_append, readFraction, if_neg (hpoint b rfl)]
  | some digits =>
    have hread := readDigits_bytes (hne digits rfl) (hdigits digits rfl) hs
    rw [fractionLayout, bytes_cons (by decide), List.cons_append, readFraction, if_pos rfl, hread]
    rfl

theorem readSign_layout (e : ℤ) (s : Input) :
    readSign (byte (if e < 0 then '-' else '+') :: s) = (decide (e < 0), s) := by
  by_cases he : e < 0
  · rw [if_pos he, decide_eq_true he]
    rfl
  · rw [if_neg he, decide_eq_false he]
    rfl

theorem readExponent_layout {e : Option ℤ} {rest : Input} (hrest : Ends rest) :
    readExponent (bytes (exponentLayout e) ++ rest) = .ok (e, rest) := by
  cases e with
  | none =>
    cases rest with
    | nil => rfl
    | cons b rest =>
      have hb : ¬(b = byte 'e' ∨ b = byte 'E') := by
        rcases hrest b rfl with rfl | rfl <;> decide
      rw [exponentLayout, bytes_nil, List.nil_append, readExponent, if_neg hb]
  | some e =>
    have hsign : (if e < 0 then '-' else '+').toNat < 128 := by
      split <;> decide
    have hread := readDigits_bytes (decimalDigits_ne_nil e.natAbs)
      (fun c hc => isDigit_of_mem_decimalDigits hc) hrest.noDigit
    have hvalue : (if decide (e < 0) then -(e.natAbs : ℤ) else e.natAbs) = e := by
      simp only [decide_eq_true_eq]
      split <;> omega
    rw [exponentLayout, bytes_cons (by decide), bytes_cons hsign, List.cons_append,
      List.cons_append, readExponent, if_pos (.inl rfl), readSign_layout]
    dsimp only
    rw [hread]
    show Except.ok (some (if decide (e < 0) then
      -(Nat.ofDigitChars 10 (decimalDigits e.natAbs) 0 : ℤ) else _), rest) = _
    rw [ofDigitChars_decimalDigits, hvalue]

/-- The reader finds the parts of a number again. -/
theorem readNumberText_layout {t : NumberText} (ht : t.WellFormed) {rest : Input}
    (hrest : Ends rest) : readNumberText (bytes t.layout ++ rest) = .ok (t, rest) := by
  have hexponent := noDigit_exponentLayout (e := t.exponent) hrest
  have hpoint : ∀ b ∈ (bytes (exponentLayout t.exponent) ++ rest).head?, b ≠ byte '.' := by
    intro b hb
    rcases head_exponentLayout hrest b hb with rfl | rfl | rfl <;> decide
  rw [NumberText.layout, bytes_append, bytes_append, List.append_assoc, List.append_assoc,
    readNumberText, readWhole_bytes ht.whole_ne ht.whole_digits ht.whole_head
      (noDigit_fractionLayout hexponent)]
  show (readFraction _ >>= _) = _
  rw [readFraction_layout ht.fraction_ne ht.fraction_digits hexponent hpoint]
  show (readExponent _ >>= _) = _
  rw [readExponent_layout hrest]
  rfl

/-! ## The number that is spelled -/

theorem significant_length_le (t : NumberText) :
    t.significant.length ≤ t.whole.length + (t.fraction.getD []).length := by
  have hplaces : t.places.length ≤ (t.fraction.getD []).length := by
    rw [NumberText.places, List.length_reverse]
    exact (List.length_dropWhile_le _ _).trans_eq List.length_reverse
  unfold NumberText.significant
  split
  · exact ((List.length_dropWhile_le _ _).trans hplaces).trans (Nat.le_add_left _ _)
  · rw [List.length_append]
    exact Nat.add_le_add_left hplaces _

/-- A short number is kept whole. -/
theorem decimal_of_short {t : NumberText}
    (h : t.whole.length + (t.fraction.getD []).length ≤ keptDigits) :
    t.decimal = ⟨Nat.ofDigitChars 10 (t.whole ++ t.fraction.getD []) 0,
      -(t.fraction.getD []).length + t.exponent.getD 0⟩ := by
  unfold NumberText.decimal
  rw [if_pos ((significant_length_le t).trans h)]
  rfl

/-- The digits in the order of the text, zeros in front of them aside, and the place of the last. -/
theorem decimal_eq {t : NumberText} {d : Decimal} {j : ℕ}
    (hdigits : t.whole ++ t.fraction.getD [] = zeros j ++ decimalDigits d.digits)
    (hshort : t.whole.length + (t.fraction.getD []).length ≤ keptDigits)
    (hplace : -(t.fraction.getD []).length + t.exponent.getD 0 = d.exponent) : t.decimal = d := by
  rw [decimal_of_short hshort, hdigits, ofDigitChars_zeros_append, hplace]

theorem NumberText.WellFormed.pointed {whole fraction : List Char} {e : Option ℤ}
    (hne : whole ≠ []) (hwhole : ∀ c ∈ whole, c.isDigit = true)
    (hhead : whole.head? = some '0' → whole = ['0']) (hfne : fraction ≠ [])
    (hfraction : ∀ c ∈ fraction, c.isDigit = true) :
    NumberText.WellFormed ⟨whole, some fraction, e⟩ := by
  refine ⟨hne, hwhole, hhead, ?_, ?_⟩
  · rintro digits ⟨⟩
    exact hfne
  · rintro digits ⟨⟩
    exact hfraction

/-- The text is a float that reads as `a`. -/
structure NumberText.Spells (t : NumberText) (text : List Char) (a : Magnitude) : Prop where
  layout_eq : t.layout = text
  wellFormed : t.WellFormed
  float : t.integer? = none
  reads : t.decimal.magnitude? = some a

section Spells

variable {d : Decimal} {a : Magnitude}

/-- A whole number of few digits, written out. -/
theorem spells_whole (hread : d.magnitude? = some a) (hzero : d.digits = 0 → d.exponent = 0)
    (hexp : 0 ≤ d.exponent) (hsize : Notation.leading d < 16) :
    ∃ t : NumberText, t.Spells (Notation.json.positionalText d) a := by
  obtain ⟨k, hk⟩ := Int.eq_ofNat_of_zero_le hexp
  have hshort : (decimalDigits d.digits).length + k < 17 := by
    rw [Notation.leading, hk] at hsize
    omega
  have htext := Notation.json.positionalText_whole hexp
  rw [hk, Int.toNat_natCast] at htext
  refine ⟨⟨decimalDigits d.digits ++ zeros k, some ['0'], none⟩, htext.symm,
    .pointed ?_ ?_ ?_ (by decide) (by simp), rfl, ?_⟩
  · exact List.append_ne_nil_of_left_ne_nil (decimalDigits_ne_nil _) _
  · intro c hc
    rcases List.mem_append.1 hc with hc | hc
    · exact isDigit_of_mem_decimalDigits hc
    · exact isDigit_of_mem_zeros hc
  · intro hhead
    rw [List.head?_append_of_ne_nil _ (decimalDigits_ne_nil _)] at hhead
    have hdigits : d.digits = 0 := by
      by_contra h
      exact head_decimalDigits h hhead
    have hk0 : k = 0 := by
      have := hzero hdigits
      omega
    rw [hdigits, hk0]
    rfl
  · -- The zero behind the point makes one digit more than the decimal has.
    rw [← hread]
    refine Decimal.magnitude?_congr ?_
    have hdigits : Nat.ofDigitChars 10 (decimalDigits d.digits ++ zeros k ++ ['0']) 0 =
        10 ^ (k + 1) * d.digits := by
      rw [List.append_assoc, zeros, ← List.replicate_succ', ← zeros, ofDigitChars_append_zeros]
    rw [decimal_of_short]
    · dsimp only [Option.getD_some, Option.getD_none]
      rw [hdigits, Decimal.value, Decimal.value, hk, zpow_natCast]
      simp
      ring
    · simp [zeros, keptDigits]
      omega

/-- A number whose point stands between its digits. -/
theorem spells_between (hread : d.magnitude? = some a) (hdigits : d.digits ≠ 0)
    (hshort : (decimalDigits d.digits).length ≤ 700) (hexp : d.exponent < 0)
    (hplaces : (-d.exponent).toNat < (decimalDigits d.digits).length) :
    ∃ t : NumberText, t.Spells (Notation.json.positionalText d) a := by
  have hhead := head_decimalDigits hdigits
  have hall : ∀ c ∈ decimalDigits d.digits, c.isDigit = true :=
    fun c hc => isDigit_of_mem_decimalDigits hc
  have htext := Notation.json.positionalText_between hexp hplaces
  have hlength : ((decimalDigits d.digits).drop
      ((decimalDigits d.digits).length - (-d.exponent).toNat)).length = (-d.exponent).toNat := by
    rw [List.length_drop]
    omega
  have hfront : (decimalDigits d.digits).length - (-d.exponent).toNat ≠ 0 := by omega
  generalize (decimalDigits d.digits).length - (-d.exponent).toNat = n at *
  refine ⟨⟨(decimalDigits d.digits).take n, some ((decimalDigits d.digits).drop n), none⟩, ?_,
    .pointed ?_ ?_ ?_ ?_ ?_, rfl, ?_⟩
  · rw [htext, NumberText.layout]
    simp [fractionLayout, exponentLayout]
  · intro h
    rcases List.take_eq_nil_iff.1 h with h | h
    · exact hfront h
    · exact decimalDigits_ne_nil _ h
  · intro c hc
    exact hall c (List.mem_of_mem_take hc)
  · intro h
    rw [List.head?_take, if_neg hfront] at h
    exact absurd h hhead
  · intro h
    rw [h] at hlength
    simp at hlength
    omega
  · intro c hc
    exact hall c (List.mem_of_mem_drop hc)
  · rw [← hread]
    refine congrArg Decimal.magnitude? (decimal_eq (j := 0) ?_ ?_ ?_)
    · exact List.take_append_drop n _
    · rw [Option.getD_some, ← List.length_append, List.take_append_drop]
      exact hshort.trans (by decide)
    · rw [Option.getD_some, hlength, Option.getD_none]
      omega

/-- A number below one, written out. -/
theorem spells_below_one (hread : d.magnitude? = some a)
    (hshort : (decimalDigits d.digits).length ≤ 700) (hexp : d.exponent < 0)
    (hplaces : ¬(-d.exponent).toNat < (decimalDigits d.digits).length)
    (hsize : -5 ≤ Notation.leading d) :
    ∃ t : NumberText, t.Spells (Notation.json.positionalText d) a := by
  have htext := Notation.json.positionalText_below_one hexp hplaces
  refine ⟨⟨['0'], some (zeros ((-d.exponent).toNat - (decimalDigits d.digits).length) ++
    decimalDigits d.digits), none⟩, ?_, .pointed (by decide) (by simp) (fun _ => rfl) ?_ ?_, rfl,
    ?_⟩
  · rw [htext, NumberText.layout]
    simp [fractionLayout, exponentLayout]
  · exact List.append_ne_nil_of_right_ne_nil _ (decimalDigits_ne_nil _)
  · intro c hc
    rcases List.mem_append.1 hc with hc | hc
    · exact isDigit_of_mem_zeros hc
    · exact isDigit_of_mem_decimalDigits hc
  · unfold Notation.leading at hsize
    have hlength : (zeros ((-d.exponent).toNat - (decimalDigits d.digits).length) ++
        decimalDigits d.digits).length = (-d.exponent).toNat := by
      rw [List.length_append, zeros, List.length_replicate]
      omega
    rw [← hread]
    refine congrArg Decimal.magnitude? (decimal_eq
      (j := (-d.exponent).toNat - (decimalDigits d.digits).length + 1) ?_ ?_ ?_)
    · rfl
    · rw [Option.getD_some, hlength, List.length_singleton, keptDigits]
      omega
    · rw [Option.getD_some, hlength, Option.getD_none]
      omega

theorem exponentText_eq {c : Char} {digits : List Char}
    (hdigits : decimalDigits d.digits = c :: digits) :
    Notation.json.exponentText d = NumberText.layout
      ⟨[c], if digits = [] then none else some digits, some (Notation.leading d)⟩ := by
  have hsign : ∀ text : List Char, (if Notation.leading d < 0 then ['-'] else ['+']) ++ text =
      (if Notation.leading d < 0 then '-' else '+') :: text := by
    intro text
    split <;> rfl
  unfold Notation.exponentText NumberText.layout
  dsimp only [Notation.json]
  rw [hdigits, hsign]
  cases digits with
  | nil => rfl
  | cons c' digits =>
    rw [if_neg (List.cons_ne_nil _ _)]
    rfl

/-- One digit before the point, then the exponent. -/
theorem spells_exponent (hread : d.magnitude? = some a)
    (hshort : (decimalDigits d.digits).length ≤ 700) :
    ∃ t : NumberText, t.Spells (Notation.json.exponentText d) a := by
  have hplace := Notation.leading.eq_1 d
  cases hdigits : decimalDigits d.digits with
  | nil => exact absurd hdigits (decimalDigits_ne_nil _)
  | cons c digits =>
    have hall : ∀ x ∈ c :: digits, x.isDigit = true := by
      rw [← hdigits]
      exact fun x hx => isDigit_of_mem_decimalDigits hx
    obtain ⟨hc, hall⟩ := List.forall_mem_cons.1 hall
    have hwhole : ∀ x ∈ [c], x.isDigit = true := by
      intro x hx
      rwa [List.mem_singleton.1 hx]
    have hhead : [c].head? = some '0' → [c] = ['0'] := by
      rintro ⟨⟩
      rfl
    rw [hdigits, List.length_cons] at hplace hshort
    refine ⟨_, (exponentText_eq hdigits).symm, ?_, ?_, ?_⟩
    · cases digits with
      | nil => exact ⟨by simp, hwhole, hhead, by rintro _ ⟨⟩, by rintro _ ⟨⟩⟩
      | cons c' digits => exact .pointed (by simp) hwhole hhead (by simp) hall
    · simp [NumberText.integer?]
    · have hfraction : (if digits = [] then none else some digits).getD [] = digits := by
        split
        · rename_i h
          exact h.symm
        · rfl
      rw [← hread]
      refine congrArg Decimal.magnitude? (decimal_eq (j := 0) ?_ ?_ ?_)
      · rw [hfraction, hdigits]
        rfl
      · rw [hfraction, List.length_singleton, keptDigits]
        omega
      · rw [hfraction, Option.getD_some]
        omega

end Spells

/-- The text of a magnitude reads back as it. -/
theorem exists_numberText (a : Magnitude) :
    ∃ t : NumberText, t.Spells (Notation.json.magnitudeText a) a := by
  have hread := a.magnitude?_shortest .even
  have hshort := a.shortest_length_le .even
  have hzero := @Magnitude.shortest_exponent_of_digits .even a
  unfold Notation.magnitudeText
  dsimp only
  split
  · rename_i hpositional
    obtain ⟨hlow, hhigh⟩ : -5 ≤ Notation.leading (a.shortest .even) ∧
        Notation.leading (a.shortest .even) < 16 := of_decide_eq_true hpositional
    by_cases hexp : 0 ≤ (a.shortest .even).exponent
    · exact spells_whole hread hzero hexp hhigh
    · by_cases hplaces : (-(a.shortest .even).exponent).toNat <
          (decimalDigits (a.shortest .even).digits).length
      · exact spells_between hread (fun h => hexp (hzero h).ge) hshort (not_le.1 hexp) hplaces
      · exact spells_below_one hread hshort (not_le.1 hexp) hplaces hlow
  · exact spells_exponent hread hshort

/-! ## The readers of numbers -/

theorem readNumeric_skipBlanks {α : Type} {expected : String} {convert : Number → Except Fault α}
    (s : Input) :
    readNumeric expected convert s = readNumeric expected convert (skipBlanks s) := by
  rw [readNumeric, readNumeric, skipBlanks_skipBlanks]

section Numeric

variable {α : Type} {expected : String} {convert : Number → Except Fault α} {negative : Bool}
  {t : NumberText} {n : Number} {x : α}

theorem NumberText.WellFormed.layout_cons (ht : t.WellFormed) :
    ∃ c text, c.isDigit = true ∧ t.layout = c :: text := by
  cases hwhole : t.whole with
  | nil => exact absurd hwhole ht.whole_ne
  | cons c digits =>
    refine ⟨c, digits ++ (fractionLayout t.fraction ++ exponentLayout t.exponent),
      ht.whole_digits c (by simp [hwhole]), ?_⟩
    rw [NumberText.layout, hwhole, List.cons_append]

/-- No digit is a sign. -/
theorem byte_ne_minus {c : Char} (hc : c.isDigit = true) : byte c ≠ byte '-' := by
  intro h
  have hdigit := isDigitByte_byte hc
  rw [h] at hdigit
  cases hdigit

/-- Behind its sign a number is a spelling without one. -/
theorem readNumber_signed {s : Input} (hs : ∀ b ∈ s.head?, b ≠ byte '-') :
    readNumber (bytes (Notation.signText negative) ++ s) =
      readNumberText s >>= fun p => p.1.number negative >>= fun n => pure (n, p.2) := by
  unfold readNumber
  cases negative with
  | true => rfl
  | false =>
    cases s with
    | nil => rfl
    | cons b s =>
      rw [Notation.signText, if_neg (by decide), bytes_nil, List.nil_append]
      dsimp only
      rw [if_neg (hs b rfl)]

theorem readNumber_layout (ht : t.WellFormed) (hn : t.number negative = .ok n) {rest : Input}
    (hrest : Ends rest) :
    readNumber (bytes (Notation.signText negative ++ t.layout) ++ rest) = .ok (n, rest) := by
  have hhead : ∀ b ∈ (bytes t.layout ++ rest).head?, b ≠ byte '-' := by
    obtain ⟨c, text, hc, hlayout⟩ := ht.layout_cons
    intro b hb
    rw [hlayout, bytes_cons (toNat_lt_of_isDigit hc)] at hb
    cases hb
    exact byte_ne_minus hc
  rw [bytes_append, List.append_assoc, readNumber_signed hhead, readNumberText_layout ht hrest]
  show (t.number negative >>= _) = _
  rw [hn]
  rfl

/-- The first byte of a number. -/
theorem head_signed_layout (ht : t.WellFormed) :
    ∃ c text, Notation.signText negative ++ t.layout = c :: text ∧ c.toNat < 128 ∧
      isBlankByte (byte c) = false ∧ (byte c = byte '-' ∨ isDigitByte (byte c) = true) := by
  cases negative with
  | false =>
    obtain ⟨c, text, hc, hlayout⟩ := ht.layout_cons
    have hdigit := isDigitByte_byte hc
    exact ⟨c, text, hlayout, toNat_lt_of_isDigit hc, not_blank_of_digit hdigit, .inr hdigit⟩
  | true => exact ⟨'-', t.layout, rfl, by decide, rfl, .inl rfl⟩

theorem gives_number (ht : t.WellFormed) (hn : t.number negative = .ok n)
    (hx : convert n = .ok x) :
    Gives (readNumeric expected convert) (Notation.signText negative ++ t.layout) (some x) := by
  obtain ⟨c, text, htext, hascii, hblank, hstart⟩ := @head_signed_layout negative t ht
  have hread := @readNumber_layout negative t n ht hn
  rw [htext] at hread ⊢
  refine Gives.intro_ok readNumeric_skipBlanks hascii hblank ?_
  intro rest hrest
  have hnumber := hread hrest
  rw [bytes_cons hascii, List.cons_append] at hnumber
  rw [readNumeric, skipBlanks_cons hblank]
  dsimp only
  rw [if_pos hstart, hnumber]
  show (convert n >>= _) = _
  rw [hx]
  rfl

end Numeric

theorem gives_word32 (n : UInt32) : Gives readWord32 (word32Layout n) (some n) := by
  have hdigits := ofDigitChars_decimalDigits n.toNat
  have hword : n.toNat < UInt32.size := n.toNat_lt
  have hwell : NumberText.WellFormed ⟨decimalDigits n.toNat, none, none⟩ := by
    refine ⟨decimalDigits_ne_nil _, fun c hc => isDigit_of_mem_decimalDigits hc, ?_,
      by rintro _ ⟨⟩, by rintro _ ⟨⟩⟩
    intro hhead
    have hzero : n.toNat = 0 := by
      by_contra h
      exact head_decimalDigits h hhead
    dsimp only
    rw [hzero]
    rfl
  have hnumber : NumberText.number false ⟨decimalDigits n.toNat, none, none⟩ =
      .ok (.natural n.toNat) := by
    have hinteger : NumberText.integer? ⟨decimalDigits n.toNat, none, none⟩ = some n.toNat :=
      congrArg some hdigits
    rw [NumberText.number, hinteger]
    dsimp only
    rw [if_neg (by decide), if_pos (hword.trans (by decide))]
  have hlayout : word32Layout n =
      Notation.signText false ++ NumberText.layout ⟨decimalDigits n.toNat, none, none⟩ := by
    simp [word32Layout, Notation.signText, NumberText.layout, fractionLayout, exponentLayout]
  rw [hlayout]
  refine gives_number hwell hnumber ?_
  dsimp only
  rw [if_pos hword, UInt32.ofNat_toNat]

theorem gives_finite (negative : Bool) (a : Magnitude) :
    Gives readFloat (Notation.json.text (.finite negative a)) (some (.finite negative a)) := by
  obtain ⟨t, ht⟩ := exists_numberText a
  have hnumber : t.number negative = .ok (.float (.finite negative a)) := by
    rw [NumberText.number, ht.float]
    dsimp only
    rw [NumberText.float, ht.reads]
  rw [Notation.text, ← ht.layout_eq]
  exact gives_number ht.wellFormed hnumber rfl

theorem gives_null {expected : String} {convert : Number → Except Fault Binary64} :
    Gives (readNumeric expected convert) ['n', 'u', 'l', 'l'] none := by
  refine Gives.intro_refused readNumeric_skipBlanks (by decide) rfl ?_
  intro rest p hp
  rw [readNumeric, skipBlanks_cons rfl] at hp
  cases hp

/-- A float comes back if JSON can write it. -/
theorem gives_float (x : Binary64) :
    Gives readFloat (floatLayout x) (if x.isFinite then some x else none) := by
  unfold floatLayout
  cases x with
  | finite negative a => exact gives_finite negative a
  | infinite negative => exact gives_null
  | nan => exact gives_null

end Json

end CutAndChoose
