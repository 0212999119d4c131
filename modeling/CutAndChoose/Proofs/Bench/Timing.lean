import Mathlib
import CutAndChoose.Proofs.Bench.DurationText

/-!
# CutAndChoose.Proofs.Bench.Timing

The time on an arbitrary line of a log, said of the characters of the line.

* `pointedValue`: the number that digits with a point among them stand for.
* `ScaledBy`: the power of ten that makes milliseconds of a value, from what follows the value.
* `exists_numeral_iff`: a run of digits and points is a numeral if it has a digit and at most one
  point.
* `timing_of_line`: which time or which fault the reader gives for a line, by its first run of
  digits and points and the unit behind it, and that no time is negative.
-/

namespace CutAndChoose

/-! ## Values -/

/-- The number that digits with a point among them stand for. -/
def pointedValue (s : List Char) : ℚ :=
  Nat.ofDigitChars 10 (s.filter Char.isDigit) 0 / 10 ^ (s.dropWhile (· ≠ '.')).tail.length

section Values

variable {s : List Char} {d : Decimal}

theorem ne_point_of_isDigit {c : Char} (h : c.isDigit = true) : c ≠ '.' := by
  rintro rfl
  cases h

theorem isDigit_of_ne_point {c : Char} (h : isNumeralChar c = true) (hc : c ≠ '.') :
    c.isDigit = true := by
  simpa [isNumeralChar, hc] using h

theorem count_point_eq_zero (h : ∀ c ∈ s, c.isDigit = true) : s.count '.' = 0 :=
  List.count_eq_zero.2 fun hpoint => ne_point_of_isDigit (h '.' hpoint) rfl

/-- A run of digits and points without points is one of digits. -/
theorem isDigit_of_count_point (h : ∀ c ∈ s, isNumeralChar c = true) (hcount : s.count '.' = 0) :
    ∀ c ∈ s, c.isDigit = true := by
  intro c hc
  exact isDigit_of_ne_point (h c hc) fun heq => List.count_eq_zero.1 hcount (heq ▸ hc)

theorem Numeral.value_eq (h : Numeral s d) : d.value = pointedValue s := by
  cases h with
  | whole hne hdigits =>
    have hpoint : s.dropWhile (· ≠ '.') = [] := by
      rw [List.dropWhile_eq_nil_iff]
      intro c hc
      simpa using ne_point_of_isDigit (hdigits c hc)
    rw [pointedValue, hpoint, List.filter_eq_self.2 hdigits]
    exact ofNumeral_value (Nat.add_zero _) (by rw [List.append_nil, pow_zero, Nat.mul_one])
  | @pointed whole fraction hwhole hfraction hne =>
    have hpoint : (whole ++ '.' :: fraction).dropWhile (· ≠ '.') = '.' :: fraction := by
      refine dropWhile_run ?_ (by simp)
      intro c hc
      simpa using ne_point_of_isDigit (hwhole c hc)
    have hdigits : (whole ++ '.' :: fraction).filter Char.isDigit = whole ++ fraction := by
      rw [List.filter_append, List.filter_cons_of_neg (by decide), List.filter_eq_self.2 hwhole,
        List.filter_eq_self.2 hfraction]
    rw [pointedValue, hpoint, hdigits]
    exact ofNumeral_value (Nat.add_zero _) (by rw [pow_zero, Nat.mul_one])

theorem Numeral.digit_and_points (h : Numeral s d) :
    (∃ c ∈ s, c.isDigit = true) ∧ s.count '.' ≤ 1 := by
  cases h with
  | whole hne hdigits =>
    obtain ⟨c, hc⟩ := List.exists_mem_of_ne_nil s hne
    refine ⟨⟨c, hc, hdigits c hc⟩, ?_⟩
    rw [count_point_eq_zero hdigits]
    exact Nat.zero_le 1
  | @pointed whole fraction hwhole hfraction hne =>
    obtain ⟨c, hc⟩ := List.exists_mem_of_ne_nil _ hne
    have hsub : whole ++ fraction ⊆ whole ++ '.' :: fraction := by simp
    refine ⟨⟨c, hsub hc, List.forall_mem_append.2 ⟨hwhole, hfraction⟩ c hc⟩, ?_⟩
    rw [List.count_append, List.count_cons_self, count_point_eq_zero hwhole,
      count_point_eq_zero hfraction]

/-- Points alone are no number, and neither are digits with two points among them. -/
theorem exists_numeral_iff (h : ∀ c ∈ s, isNumeralChar c = true) :
    (∃ d, Numeral s d) ↔ (∃ c ∈ s, c.isDigit = true) ∧ s.count '.' ≤ 1 := by
  constructor
  · rintro ⟨d, hnumeral⟩
    exact hnumeral.digit_and_points
  · rintro ⟨⟨c, hc, hdigit⟩, hcount⟩
    by_cases hpoint : '.' ∈ s
    · obtain ⟨whole, fraction, rfl⟩ := List.append_of_mem hpoint
      rw [List.count_append, List.count_cons_self] at hcount
      have hwhole : ∀ c ∈ whole, isNumeralChar c = true := fun c hc =>
        h c (List.mem_append_left _ hc)
      have hfraction : ∀ c ∈ fraction, isNumeralChar c = true := fun c hc =>
        h c (List.mem_append_right _ (List.mem_cons_of_mem _ hc))
      refine ⟨_, .pointed (isDigit_of_count_point hwhole (by omega))
        (isDigit_of_count_point hfraction (by omega)) ?_⟩
      intro hnil
      rw [List.append_eq_nil_iff] at hnil
      rw [hnil.1, hnil.2] at hc
      exact ne_point_of_isDigit hdigit (List.mem_singleton.1 hc)
    · exact ⟨_, .whole (List.ne_nil_of_mem hc)
        (isDigit_of_count_point h (List.count_eq_zero.2 hpoint))⟩

end Values

/-! ## Units -/

/-- The signs of the units, each with the power of ten that makes milliseconds of a value in it. -/
def unitSigns : List (List Char × ℤ) :=
  [("ns".toList, -6), ("µs".toList, -3), ("us".toList, -3), ("ms".toList, 0), ("s".toList, 3)]

/-- A value in front of `rest` makes milliseconds when it is scaled by `10 ^ e`: behind blanks there
is the sign of a unit with this power, whatever follows it, or there is no sign. -/
inductive ScaledBy (rest : List Char) : ℤ → Prop where
  | unit {sign : List Char} {e : ℤ} : (sign, e) ∈ unitSigns → sign <+: rest.dropWhile isBlank →
      ScaledBy rest e
  | noUnit : (∀ u ∈ unitSigns, ¬u.1 <+: rest.dropWhile isBlank) → ScaledBy rest 0

theorem exists_scaledBy (rest : List Char) : ∃ e, ScaledBy rest e := by
  by_cases h : ∃ u ∈ unitSigns, u.1 <+: rest.dropWhile isBlank
  · obtain ⟨⟨sign, e⟩, hmem, hsign⟩ := h
    exact ⟨e, .unit hmem hsign⟩
  · exact ⟨0, .noUnit fun u hu hsign => h ⟨u, hu, hsign⟩⟩

namespace TimeUnit

theorem ofText?_of_sign {tail sign : List Char} {e : ℤ} (hmem : (sign, e) ∈ unitSigns)
    (h : sign <+: tail) : ∃ u, ofText? tail = some u ∧ e = (u.places : ℤ) - 6 := by
  obtain ⟨behind, rfl⟩ := h
  simp only [unitSigns, List.mem_cons, Prod.mk.injEq, List.not_mem_nil, or_false] at hmem
  rcases hmem with ⟨rfl, rfl⟩ | ⟨rfl, rfl⟩ | ⟨rfl, rfl⟩ | ⟨rfl, rfl⟩ | ⟨rfl, rfl⟩
  · exact ⟨nanosecond, rfl, rfl⟩
  · exact ⟨microsecond, rfl, rfl⟩
  · exact ⟨microsecond, rfl, rfl⟩
  · exact ⟨millisecond, rfl, rfl⟩
  · exact ⟨second, rfl, rfl⟩

theorem exists_sign_of_ofText? {tail : List Char} {u : TimeUnit} (h : ofText? tail = some u) :
    ∃ s ∈ unitSigns, s.1 <+: tail := by
  unfold ofText? at h
  split at h
  · exact ⟨("ns".toList, -6), by simp [unitSigns], ⟨_, rfl⟩⟩
  · exact ⟨("µs".toList, -3), by simp [unitSigns], ⟨_, rfl⟩⟩
  · exact ⟨("us".toList, -3), by simp [unitSigns], ⟨_, rfl⟩⟩
  · exact ⟨("ms".toList, 0), by simp [unitSigns], ⟨_, rfl⟩⟩
  · exact ⟨("s".toList, 3), by simp [unitSigns], ⟨_, rfl⟩⟩
  · cases h

end TimeUnit

/-- The reader scales by the unit behind the value. -/
theorem ScaledBy.milliseconds_eq {rest : List Char} {e : ℤ} (h : ScaledBy rest e) :
    (unitBehind rest).milliseconds = Binary64.nearest (10 ^ e) := by
  rw [TimeUnit.milliseconds_eq]
  cases h with
  | unit hmem hsign =>
    obtain ⟨u, hu, rfl⟩ := TimeUnit.ofText?_of_sign hmem hsign
    rw [unitBehind, hu, Option.getD_some]
  | noUnit hnone =>
    have hunit : TimeUnit.ofText? (rest.dropWhile isBlank) = none := by
      rw [Option.eq_none_iff_forall_ne_some]
      intro u hu
      obtain ⟨s, hs, hsign⟩ := TimeUnit.exists_sign_of_ofText? hu
      exact hnone s hs hsign
    rw [unitBehind, hunit, Option.getD_none]
    rfl

/-! ## Lines -/

section Lines

variable {line value rest : List Char} {time : Binary64}

theorem timeOnLine_of_numeral {d : Decimal} {e : ℤ}
    (hrun : IsFirstRun isNumeralChar line value rest) (hvalue : Numeral value d)
    (hscale : ScaledBy rest e) :
    timeOnLine line =
      .ok (Binary64.nearest (pointedValue value) * Binary64.nearest (10 ^ e)) := by
  rw [timeOnLine_eq_ok_iff]
  refine ⟨value, rest, d, hrun, hvalue, ?_⟩
  rw [hscale.milliseconds_eq, d.toBinary64_eq_nearest, hvalue.value_eq]

theorem timeOnLine_of_malformed (hrun : IsFirstRun isNumeralChar line value rest)
    (hvalue : ¬∃ d, Numeral value d) :
    timeOnLine line = .error (.badTiming (String.ofList value)) := by
  obtain ⟨hfirst, hne⟩ := isFirstRun_iff.1 hrun
  have hnone : numeral? value = none := by
    rw [Option.eq_none_iff_forall_ne_some]
    exact fun d hd => hvalue ⟨d, numeral?_eq_some_iff.1 hd⟩
  simp [timeOnLine, durationOf, hfirst, hne, hnone]

theorem timeOnLine_of_absent (h : ∀ c ∈ line, isNumeralChar c = false) :
    timeOnLine line = .error (.noTiming (String.ofList line)) := by
  have hskip : line.dropWhile (!isNumeralChar ·) = [] := by
    rw [List.dropWhile_eq_nil_iff]
    intro c hc
    simp [h c hc]
  simp [timeOnLine, durationOf, firstRun, hskip]

/-- The value of a numeral has no sign, and a unit is not zero. -/
theorem timeOnLine_nonneg (h : timeOnLine line = .ok time) :
    (∃ a, time = .finite false a) ∨ time = .infinite false := by
  obtain ⟨value, rest, d, -, -, rfl⟩ := timeOnLine_eq_ok_iff.1 h
  obtain ⟨b, hb, hlow, -, -⟩ := (unitBehind rest).milliseconds_near
  rw [hb, d.toBinary64_eq_nearest]
  rcases Binary64.nearest_cases d.value with ⟨a, ha⟩ | ⟨hinf, -⟩
  · rw [ha, Binary64.finite_mul]
    rcases Binary64.nearest_cases (a.value * b.value) with ⟨p, hp⟩ | ⟨hlarge, -⟩
    · exact .inl ⟨p, hp⟩
    · exact .inr hlarge
  · have hpos : 0 < b.value := lt_of_lt_of_le (zpow_pos two_pos _) hlow
    have hunits : b.units ≠ 0 := (Magnitude.value_pos_iff.1 hpos).ne'
    right
    rw [hinf]
    show Binary64.mul _ _ = _
    simp [Binary64.mul, hunits]

end Lines

/-- The first run of digits and points on a line is its timing value. The reader scales it by the
unit behind it, or refuses the line if the run is no number or if there is none. -/
theorem timing_of_line :
    (∀ line value rest, IsFirstRun isNumeralChar line value rest →
      ((∃ c ∈ value, c.isDigit = true) ∧ value.count '.' ≤ 1 →
        (∃ e, ScaledBy rest e) ∧ ∀ e, ScaledBy rest e →
          timeOnLine line =
            .ok (Binary64.nearest (pointedValue value) * Binary64.nearest (10 ^ e))) ∧
      ((∀ c ∈ value, c.isDigit = false) ∨ 1 < value.count '.' →
        timeOnLine line = .error (.badTiming (String.ofList value)))) ∧
    (∀ line, (∀ c ∈ line, isNumeralChar c = false) →
      timeOnLine line = .error (.noTiming (String.ofList line))) ∧
    ∀ line time, timeOnLine line = .ok time →
      (∃ a, time = .finite false a) ∨ time = .infinite false := by
  refine ⟨?_, fun line => timeOnLine_of_absent, fun line time => timeOnLine_nonneg⟩
  intro line value rest hrun
  have hnumeral := exists_numeral_iff hrun.of_mem_run
  constructor
  · intro hproper
    obtain ⟨d, hd⟩ := hnumeral.2 hproper
    exact ⟨exists_scaledBy rest, fun e => timeOnLine_of_numeral hrun hd⟩
  · intro himproper
    refine timeOnLine_of_malformed hrun fun hd => ?_
    obtain ⟨⟨c, hc, hdigit⟩, hcount⟩ := hnumeral.1 hd
    rcases himproper with hnone | hmany
    · rw [hnone c hc] at hdigit
      cases hdigit
    · exact absurd hcount (not_le.2 hmany)

/-- A unit between a wide blank and more text, and a value with two points. -/
theorem timing_of_line_microseconds :
    timeOnLine "Elapsed: 1.5\u3000µs/run".toList =
        .ok (Binary64.nearest (3 / 2) * Binary64.nearest (10 ^ (-3 : ℤ))) ∧
      timeOnLine "Elapsed: 1.2.3ms".toList = .error (.badTiming "1.2.3") := by
  have hrun : IsFirstRun isNumeralChar "Elapsed: 1.5\u3000µs/run".toList "1.5".toList
      "\u3000µs/run".toList := isFirstRun_iff.2 (by decide +kernel)
  have hmany : IsFirstRun isNumeralChar "Elapsed: 1.2.3ms".toList "1.2.3".toList "ms".toList :=
    isFirstRun_iff.2 (by decide +kernel)
  have hsign : ("µs".toList, -3) ∈ unitSigns := by simp [unitSigns]
  have hscale : ScaledBy "\u3000µs/run".toList (-3) := .unit hsign (by decide)
  have hvalue : pointedValue "1.5".toList = 3 / 2 := by
    have hdigits : Nat.ofDigitChars 10 ("1.5".toList.filter Char.isDigit) 0 = 15 := by decide
    have hplaces : ("1.5".toList.dropWhile (· ≠ '.')).tail.length = 1 := by decide
    rw [pointedValue, hdigits, hplaces]
    norm_num
  obtain ⟨hproper, -⟩ := timing_of_line.1 _ _ _ hrun
  obtain ⟨-, himproper⟩ := timing_of_line.1 _ _ _ hmany
  have htime := (hproper ⟨⟨'1', by decide, rfl⟩, by decide⟩).2 _ hscale
  have hfault := himproper (.inr (by decide))
  rw [hvalue] at htime
  rw [String.ofList_toList] at hfault
  exact ⟨htime, hfault⟩

end CutAndChoose
