import Mathlib
import CutAndChoose.Proofs.CommandLine.Repeated

/-!
# CutAndChoose.Proofs.CommandLine.SearchOptions

A search whose options are all written `--name=value`, and that it is read back.

* `SearchOptions.IsOf`: the options of a search have the values that some settings give them, and
  their defaults where there is no setting.
* `read_settings`: reading the texts is one fold over the settings.
* `Holds`: after some settings each slot holds the setting of its option, if there was one.
* `search_of_settings`: settings of different options, in any order, with or without the name of the
  command in front, make the search with these values; two settings of one option are refused, also
  among other arguments.
-/

namespace CutAndChoose.CommandLine

/-! ## The options that settings make -/

/-- The value `a` is the one that the settings give to an option, or else its default. -/
def Chosen {α : Type} (settings : List Setting) (setting : α → Setting) (default a : α) : Prop :=
  setting a ∈ settings ∨ (∀ b, setting b ∉ settings) ∧ a = default

/-- The options of a search are what the settings say, and the defaults where they say nothing. -/
structure SearchOptions.IsOf (o : SearchOptions) (settings : List Setting) : Prop where
  parties : Chosen settings .parties 16 o.parties
  securityBits : Chosen settings .securityBits 60 o.securityBits
  mStart : Chosen settings .mStart 64 o.mStart
  mEnd : Chosen settings .mEnd 512 o.mEnd
  mStep : Chosen settings .mStep 8 o.mStep
  tauStart : Chosen settings .tauStart 8 o.tauStart
  tauEnd : Chosen settings .tauEnd 50 o.tauEnd
  tauStep : Chosen settings .tauStep 8 o.tauStep
  verbose : o.verbose = true ↔ .verbose ∈ settings
  exportJson : ∀ path, o.exportJson = some path ↔ .exportJson path ∈ settings

/-! ## All arguments -/

section Arguments

variable {slots : SearchSlots} {settings : List Setting}

/-- By induction on the settings: they are entered one after the other. -/
theorem readArguments_settings (hpath : Setting.exportJson "" ∉ settings) :
    searchGrammar.readArguments ⟨slots, none, false, false⟩ (settings.map Setting.text) =
      (settings.foldlM Setting.enter slots).map fun slots => ⟨slots, none, false, false⟩ := by
  induction settings generalizing slots with
  | nil => rfl
  | cons x settings ih =>
    rw [List.mem_cons, not_or] at hpath
    rw [List.map_cons, Grammar.readArguments, if_neg (text_ne x List.mem_cons_self),
      readArgument_setting (Ne.symm hpath.1), settle_of_pending rfl, ok_bind, List.foldlM_cons]
    cases x.enter slots with
    | error r => rfl
    | ok slots => exact ih hpath.2

theorem read_settings (hpath : Setting.exportJson "" ∉ settings) :
    searchGrammar.read slots (settings.map Setting.text) = settings.foldlM Setting.enter slots := by
  rw [Grammar.read, readArguments_settings hpath]
  cases settings.foldlM Setting.enter slots <;> rfl

end Arguments

/-! ## What the slots hold -/

/-- Each slot holds the setting of its option, if there is one. -/
def SearchSlots.Holds (slots : SearchSlots) (settings : List Setting) : Prop :=
  ∀ k x, slots.held k = some x ↔ x ∈ settings ∧ x.option = k

section Holds

variable {slots : SearchSlots} {settings seen : List Setting} {x : Setting} {k : SearchOption}

theorem holds_none : SearchSlots.none.Holds [] := by
  intro k x
  cases k <;> simp [SearchSlots.held, SearchSlots.none]

theorem SearchSlots.Holds.isSome_iff (h : slots.Holds seen) :
    (slots.held k).isSome = true ↔ k ∈ seen.map Setting.option := by
  rw [Option.isSome_iff_exists, List.mem_map]
  exact exists_congr (h k)

/-- A setting of another option than those before it. -/
theorem SearchSlots.Holds.put (h : slots.Holds seen) (hx : x.option ∉ seen.map Setting.option) :
    (x.put slots).Holds (seen ++ [x]) := by
  intro k y
  rw [held_put, List.mem_append, List.mem_singleton]
  by_cases hk : k = x.option
  · subst hk
    rw [Function.update_self, Option.some.injEq]
    constructor
    · rintro rfl
      exact ⟨.inr rfl, rfl⟩
    · rintro ⟨hy | rfl, hoption⟩
      · exact absurd (List.mem_map.2 ⟨y, hy, hoption⟩) hx
      · rfl
  · rw [Function.update_of_ne hk, h]
    constructor
    · rintro ⟨hy, hoption⟩
      exact ⟨.inl hy, hoption⟩
    · rintro ⟨hy | rfl, hoption⟩
      · exact ⟨hy, hoption⟩
      · exact absurd hoption.symm hk

theorem SearchSlots.Holds.enter (h : slots.Holds seen) :
    x.enter slots = if x.option ∈ seen.map Setting.option then .error .repeatedOption
      else .ok (x.put slots) := by
  rw [Setting.enter, if_congr h.isSome_iff rfl rfl]

/-- By induction on the settings that are left behind `seen`. -/
theorem SearchSlots.Holds.foldlM_of_nodup (h : slots.Holds seen)
    (hnodup : ((seen ++ settings).map Setting.option).Nodup) :
    ∃ slots', settings.foldlM Setting.enter slots = .ok slots' ∧
      slots'.Holds (seen ++ settings) := by
  induction settings generalizing slots seen with
  | nil =>
    rw [List.append_nil]
    exact ⟨slots, rfl, h⟩
  | cons x settings ih =>
    have hx : x.option ∉ seen.map Setting.option := by
      rw [List.map_append, List.map_cons, List.nodup_middle, List.nodup_cons] at hnodup
      exact fun hmem => hnodup.1 (List.mem_append_left _ hmem)
    rw [List.append_cons] at hnodup ⊢
    rw [List.foldlM_cons, h.enter, if_neg hx]
    exact ih (h.put hx) hnodup

theorem SearchSlots.Holds.foldlM_of_repeated (h : slots.Holds seen)
    (hseen : (seen.map Setting.option).Nodup)
    (hnodup : ¬((seen ++ settings).map Setting.option).Nodup) :
    settings.foldlM Setting.enter slots = .error .repeatedOption := by
  induction settings generalizing slots seen with
  | nil =>
    rw [List.append_nil] at hnodup
    exact absurd hseen hnodup
  | cons x settings ih =>
    rw [List.foldlM_cons, h.enter]
    by_cases hx : x.option ∈ seen.map Setting.option
    · rw [if_pos hx]
      rfl
    · have hnext : ((seen ++ [x]).map Setting.option).Nodup := by
        rw [List.map_append, List.map_singleton, List.nodup_append_comm]
        exact List.nodup_cons.2 ⟨hx, hseen⟩
      rw [List.append_cons] at hnodup
      rw [if_neg hx]
      exact ih (h.put hx) hnext hnodup

end Holds

/-! ## The search -/

section Search

variable {slots : SearchSlots} {settings : List Setting} {front : List String}

theorem SearchSlots.Holds.mem_iff (h : slots.Holds settings) (x : Setting) :
    x ∈ settings ↔ slots.held x.option = some x := by
  rw [h, and_iff_left rfl]

theorem SearchSlots.Holds.chosen {α : Type} {slot : Option α} {setting : α → Setting}
    (h : slots.Holds settings) (default : α)
    (hslot : ∀ a, slots.held (setting a).option = slot.map setting)
    (hinj : Function.Injective setting) :
    Chosen settings setting default (slot.getD default) := by
  have hmem : ∀ a, setting a ∈ settings ↔ slot = some a := by
    intro a
    rw [h.mem_iff, hslot, Option.map_eq_some_iff]
    constructor
    · rintro ⟨b, hb, hab⟩
      rw [hb, hinj hab]
    · intro ha
      exact ⟨a, ha, rfl⟩
  cases slot with
  | none => exact .inr ⟨fun b => by simp [hmem], rfl⟩
  | some a => exact .inl ((hmem a).2 rfl)

theorem SearchSlots.Holds.isOf (h : slots.Holds settings) : slots.options.IsOf settings where
  parties := h.chosen 16 (fun _ => rfl) fun _ _ hab => Setting.parties.inj hab
  securityBits := h.chosen 60 (fun _ => rfl) fun _ _ hab => Setting.securityBits.inj hab
  mStart := h.chosen 64 (fun _ => rfl) fun _ _ hab => Setting.mStart.inj hab
  mEnd := h.chosen 512 (fun _ => rfl) fun _ _ hab => Setting.mEnd.inj hab
  mStep := h.chosen 8 (fun _ => rfl) fun _ _ hab => Setting.mStep.inj hab
  tauStart := h.chosen 8 (fun _ => rfl) fun _ _ hab => Setting.tauStart.inj hab
  tauEnd := h.chosen 50 (fun _ => rfl) fun _ _ hab => Setting.tauEnd.inj hab
  tauStep := h.chosen 8 (fun _ => rfl) fun _ _ hab => Setting.tauStep.inj hab
  verbose := by
    rw [h.mem_iff]
    change slots.verbose = true ↔ (if slots.verbose then some Setting.verbose else .none) = _
    simp
  exportJson path := by
    rw [h.mem_iff]
    change slots.exportJson = _ ↔ slots.exportJson.map Setting.exportJson = _
    simp

/-- Without the name of the command the settings are options of a search, too. -/
theorem withDefaultCommand_settings (settings : List Setting) :
    withDefaultCommand (settings.map Setting.text) = "search" :: settings.map Setting.text := by
  cases settings with
  | nil => rfl
  | cons x settings =>
    have htop : x.text ∉ Command.topLevel := by
      intro hmem
      exact text_ne x (List.mem_cons_of_mem _ hmem) rfl
    rw [List.map_cons, withDefaultCommand, if_pos ⟨htop, startsWith_text x⟩]

theorem read_search_settings (hpath : Setting.exportJson "" ∉ settings) :
    Command.read ("search" :: settings.map Setting.text) =
      settings.foldlM Setting.enter .none >>= fun slots => .ok (.search slots.options) := by
  change (searchGrammar.read .none (settings.map Setting.text) >>= _) = _
  rw [read_settings hpath]
  rfl

/-- Settings of different options, in any order, make the search with these values and the defaults
for all other options, whether or not the command is named. Two settings of one option are refused,
and no other arguments around them make a search of them. -/
theorem search_of_settings (hpath : Setting.exportJson "" ∉ settings)
    (hfront : front = [] ∨ front = ["search"]) :
    ((settings.map Setting.option).Nodup → ∃ o,
      Command.read (withDefaultCommand (front ++ settings.map Setting.text)) = .ok (.search o) ∧
      o.IsOf settings ∧
      o.config = {
        parties := o.parties
        target := targetError o.securityBits.toInt
        mSweep := { start := o.mStart, stop := o.mEnd, step := o.mStep }
        tauSweep := { start := o.tauStart, stop := o.tauEnd, step := o.tauStep } }) ∧
    (¬(settings.map Setting.option).Nodup →
      Command.read (withDefaultCommand (front ++ settings.map Setting.text)) =
        .error .repeatedOption) ∧
    ∀ x ∈ settings, ∀ y ∈ settings, x.option = y.option →
      ∀ args, [x.text, y.text].Sublist args →
        ∀ o, Command.read (withDefaultCommand args) ≠ .ok (.search o) := by
  have hcommand : withDefaultCommand (front ++ settings.map Setting.text) =
      "search" :: settings.map Setting.text := by
    rcases hfront with rfl | rfl
    · exact withDefaultCommand_settings settings
    · exact withDefaultCommand_named (by simp) _
  rw [hcommand, read_search_settings hpath]
  refine ⟨?_, ?_, ?_⟩
  · intro hnodup
    obtain ⟨slots, hfold, hholds⟩ := holds_none.foldlM_of_nodup hnodup
    rw [List.nil_append] at hholds
    refine ⟨slots.options, ?_, hholds.isOf, rfl⟩
    rw [hfold, ok_bind]
  · intro hrepeated
    rw [holds_none.foldlM_of_repeated List.nodup_nil hrepeated]
    rfl
  · intro x hx y hy hoption args hsub o
    exact not_search_of_repeated (ne_of_mem_of_not_mem hx hpath) (ne_of_mem_of_not_mem hy hpath)
      hoption hsub o

/-- Without any settings it is the default search. -/
example : SearchSlots.none.options.config = Config.default := rfl

/-- Numbers at both ends of their words, and a path that looks like an option. -/
def oddSettings : List Setting :=
  [.exportJson "--verbose=", .tauEnd 4294967295, .verbose, .securityBits (-2147483648), .mStart 0]

theorem search_of_settings_odd :
    oddSettings.map Setting.text = ["--export-json=--verbose=", "--tau-end=4294967295",
      "--verbose", "--security-bits=-2147483648", "--m-start=0"] ∧
    Setting.exportJson "" ∉ oddSettings ∧ (oddSettings.map Setting.option).Nodup ∧
    (∃ o, Command.read (withDefaultCommand (oddSettings.map Setting.text)) = .ok (.search o) ∧
      o.IsOf oddSettings) ∧
    Command.read (withDefaultCommand
      (["search"] ++ (oddSettings ++ [Setting.tauEnd 50]).map Setting.text)) =
        .error .repeatedOption ∧
    ∀ o, Command.read (withDefaultCommand
      ["-n", "8", "--m-start=0", "--m-end", "9", "--m-start=0"]) ≠ .ok (.search o) := by
  have hnodup : (oddSettings.map Setting.option).Nodup := by decide
  refine ⟨by decide +kernel, by decide, hnodup, ?_, ?_, ?_⟩
  · obtain ⟨o, hread, ho, -⟩ := (search_of_settings (by decide) (.inl rfl)).1 hnodup
    exact ⟨o, hread, ho⟩
  · exact (search_of_settings (by decide) (.inr rfl)).2.1 (by decide)
  · have hmem : Setting.mStart 0 ∈ oddSettings := by decide
    exact (search_of_settings (by decide) (.inl rfl)).2.2 _ hmem _ hmem rfl _ (by decide +kernel)

end Search

end CutAndChoose.CommandLine
