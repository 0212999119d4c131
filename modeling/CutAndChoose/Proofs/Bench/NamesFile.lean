import Mathlib
import CutAndChoose.Proofs.Bench.TableFile
import CutAndChoose.Proofs.Command.Documents
import CutAndChoose.Proofs.Files.Directory
import CutAndChoose.Proofs.Text.Lines
import CutAndChoose.Proofs.Text.Trim

/-!
# CutAndChoose.Proofs.Bench.NamesFile

Files of circuit names, whatever their layout.

* `IsName`: a text on one line with no blank at its ends.
* `LaidOut names text`: the text has one of the names on each line, with any blanks around it, and
  any number of blank lines anywhere.
* `namesOf_eq_iff`: each text is laid out for one list of names, and these are the names read.
* `names_of_file`: a file of names is read as these names, and only a blank file is refused.
-/

namespace CutAndChoose

/-! ## Layouts -/

structure IsName (n : String) : Prop where
  ne_empty : n ≠ ""
  oneLine : '\n' ∉ n.toList
  trimmed : IsTrimmed n.toList

/-- Blanks of one line. -/
def LineBlanks (s : List Char) : Prop := AllBlank s ∧ '\n' ∉ s

/-- What a line without its ending holds: nothing, or one name. -/
inductive OnLine : List String → List Char → Prop where
  | blank {line : List Char} : LineBlanks line → OnLine [] line
  | name {n : String} {before after : List Char} : LineBlanks before → LineBlanks after →
      OnLine [n] (before ++ (n.toList ++ after))

/-- The last line may have no ending. It may also be empty, so that the text ends with an ending. -/
inductive LaidOut : List String → List Char → Prop where
  | last {names : List String} {line : List Char} : OnLine names line → LaidOut names line
  | line {here names : List String} {line ending rest : List Char} : OnLine here line →
      ending ∈ lineEndings → LaidOut names rest →
      LaidOut (here ++ names) (line ++ (ending ++ rest))

/-! ## Single lines -/

/-- The names that the reader finds on a line. -/
def namesOnLine (line : List Char) : List String :=
  if trimBlanks line = [] then [] else [String.ofList (trimBlanks line)]

theorem namesOf_eq_flatMap (text : String) :
    namesOf text = (textLines text.toList).flatMap namesOnLine := by
  unfold namesOf
  induction textLines text.toList with
  | nil => rfl
  | cons line lines ih =>
    rw [List.map_cons, List.flatMap_cons, ← ih, namesOnLine]
    by_cases hnil : trimBlanks line = []
    · simp [hnil]
    · simp [hnil]

section Line

variable {here : List String} {line rest ending : List Char} {n : String}

theorem namesOnLine_eq_nil_iff : namesOnLine line = [] ↔ AllBlank line := by
  rw [← trimBlanks_eq_nil_iff, namesOnLine]
  split
  · simp [*]
  · simp [*]

/-- A carriage return in front of a line feed is blank anyway. -/
theorem namesOnLine_withoutReturn (line : List Char) :
    namesOnLine (withoutReturn line) = namesOnLine line := by
  rcases withoutReturn_cases line with heq | heq
  · rw [← heq]
  · have hreturn : AllBlank ['\r'] := by simp [AllBlank, isBlank]
    rw [heq, namesOnLine, namesOnLine, withoutReturn_append_return, trimBlanks_append hreturn]

theorem flatMap_textLines_line (hending : ending ∈ lineEndings) (hline : '\n' ∉ line) :
    (textLines (line ++ (ending ++ rest))).flatMap namesOnLine =
      namesOnLine line ++ (textLines rest).flatMap namesOnLine := by
  rcases textLines_ending hending hline with hlines | hlines
  · rw [hlines, List.flatMap_cons, namesOnLine_withoutReturn]
  · rw [hlines, List.flatMap_cons]

theorem flatMap_textLines_last (hline : '\n' ∉ line) :
    (textLines line).flatMap namesOnLine = namesOnLine line := by
  rw [textLines_last hline]
  split
  · rename_i hnil
    rw [hnil]
    rfl
  · exact List.flatMap_singleton _ _

theorem OnLine.not_mem (h : OnLine here line) (hnames : ∀ n ∈ here, IsName n) : '\n' ∉ line := by
  cases h with
  | blank hblank => exact hblank.2
  | name hbefore hafter =>
    have hname := (hnames _ List.mem_cons_self).oneLine
    simp [hbefore.2, hafter.2, hname]

theorem OnLine.namesOnLine_eq (h : OnLine here line) (hnames : ∀ n ∈ here, IsName n) :
    namesOnLine line = here := by
  cases h with
  | blank hblank => exact namesOnLine_eq_nil_iff.2 hblank.1
  | @name n before after hbefore hafter =>
    have hname := hnames n List.mem_cons_self
    have hne : n.toList ≠ [] := by simpa using hname.ne_empty
    rw [namesOnLine, trimBlanks_of_around hname.trimmed hbefore.1 hafter.1, if_neg hne,
      String.ofList_toList]

theorem onLine_namesOnLine (hline : '\n' ∉ line) :
    OnLine (namesOnLine line) line ∧ ∀ n ∈ namesOnLine line, IsName n := by
  by_cases hblank : AllBlank line
  · rw [namesOnLine_eq_nil_iff.2 hblank]
    exact ⟨.blank ⟨hblank, hline⟩, by simp⟩
  · have hne : trimBlanks line ≠ [] := mt trimBlanks_eq_nil_iff.1 hblank
    obtain ⟨htrimmed, before, after, heq, hbefore, hafter⟩ := exists_blanks_around line
    have hfeed : '\n' ∉ before ∧ '\n' ∉ trimBlanks line ∧ '\n' ∉ after := by
      rw [heq] at hline
      simpa using hline
    have hname : IsName (String.ofList (trimBlanks line)) :=
      ⟨by simpa using hne, by simpa using hfeed.2.1, by simpa using htrimmed⟩
    rw [namesOnLine, if_neg hne]
    constructor
    · have honLine := OnLine.name (n := String.ofList (trimBlanks line)) ⟨hbefore, hfeed.1⟩
        ⟨hafter, hfeed.2.2⟩
      rwa [String.toList_ofList, ← heq] at honLine
    · simpa using hname

end Line

/-! ## Whole texts -/

section Text

variable {names : List String} {text : List Char}

/-- By induction on the layout: what the reader finds on a line is what was laid out there. -/
theorem LaidOut.flatMap_namesOnLine (h : LaidOut names text) (hnames : ∀ n ∈ names, IsName n) :
    (textLines text).flatMap namesOnLine = names := by
  induction h with
  | last honLine =>
    rw [flatMap_textLines_last (honLine.not_mem hnames), honLine.namesOnLine_eq hnames]
  | line honLine hending _ ih =>
    obtain ⟨hhere, hrest⟩ := List.forall_mem_append.1 hnames
    rw [flatMap_textLines_line hending (honLine.not_mem hhere), honLine.namesOnLine_eq hhere,
      ih hrest]

/-- By induction on the lines. Every line holds one name or is blank, so every text is a layout. -/
theorem laidOut_flatMap (text : List Char) :
    LaidOut ((textLines text).flatMap namesOnLine) text ∧
      ∀ n ∈ (textLines text).flatMap namesOnLine, IsName n := by
  induction text using text_induction with
  | last line hline =>
    rw [flatMap_textLines_last hline]
    exact (onLine_namesOnLine hline).imp_left .last
  | line line rest hline ih =>
    have hfeed : ['\n'] ∈ lineEndings := List.mem_cons_self
    have hhere := onLine_namesOnLine hline
    rw [← List.singleton_append, flatMap_textLines_line hfeed hline]
    exact ⟨.line hhere.1 hfeed ih.1, List.forall_mem_append.2 ⟨hhere.2, ih.2⟩⟩

theorem namesOf_eq_iff {text : String} :
    namesOf text = names ↔ (∀ n ∈ names, IsName n) ∧ LaidOut names text.toList := by
  rw [namesOf_eq_flatMap]
  constructor
  · rintro rfl
    exact (laidOut_flatMap text.toList).symm
  · rintro ⟨hnames, hlaid⟩
    exact hlaid.flatMap_namesOnLine hnames

theorem flatMap_namesOnLine_eq_nil_iff :
    (textLines text).flatMap namesOnLine = [] ↔ AllBlank text := by
  induction text using text_induction with
  | last line hline => rw [flatMap_textLines_last hline, namesOnLine_eq_nil_iff]
  | line line rest hline ih =>
    have hfeed : ['\n'] ∈ lineEndings := List.mem_cons_self
    have hblank : AllBlank ['\n'] := by simp [AllBlank, isBlank]
    rw [← List.singleton_append, flatMap_textLines_line hfeed hline, List.append_eq_nil_iff, ih,
      namesOnLine_eq_nil_iff, allBlank_append, allBlank_append, and_iff_right hblank]

theorem namesOf_eq_nil_iff {text : String} : namesOf text = [] ↔ AllBlank text.toList := by
  rw [namesOf_eq_flatMap, flatMap_namesOnLine_eq_nil_iff]

end Text

/-! ## Files -/

theorem run_readNames {d : Directory} {path text : String} (h : d.Holds path text) :
    (readNames path).run d =
      (if namesOf text = [] then .error (.namesEmpty path) else .ok (namesOf text), d) := by
  show ((readText path).bind _).run d = _
  rw [Script.run_bind, run_readText h]
  simp only [← List.isEmpty_iff]
  rfl

/-- From a file with a text come names that the text is a layout of, and no others. There is no
result only where the file is blank, and then that is what the fault says. -/
theorem names_of_file {d : Directory} {path text : String} (h : d.Holds path text) :
    ∃ result, (readNames path).run d = (result, d) ∧
      (∀ names, result = .ok names ↔
        names ≠ [] ∧ (∀ n ∈ names, IsName n) ∧ LaidOut names text.toList) ∧
      ((∃ f, result = .error f) ↔ ∀ c ∈ text.toList, isBlank c = true) ∧
      ∀ f, result = .error f → f = .namesEmpty path ∧ f.failure.exitCode = 2 := by
  refine ⟨_, run_readNames h, ?_, ?_, ?_⟩
  · intro names
    rw [← namesOf_eq_iff]
    split
    · rename_i hnil
      rw [hnil]
      simp
    · rename_i hne
      rw [Except.ok.injEq]
      constructor
      · rintro rfl
        exact ⟨hne, rfl⟩
      · exact And.right
  · have hblank : (∀ c ∈ text.toList, isBlank c = true) ↔ namesOf text = [] :=
      namesOf_eq_nil_iff.symm
    rw [hblank]
    split
    · simpa
    · simpa
  · intro f hf
    split at hf
    · cases hf
      exact ⟨rfl, rfl⟩
    · cases hf

/-- Two names with blanks of several kinds around them, a blank line of one kind of blanks, lines
with either ending and a last one with none. -/
def oddNames : String := "\u3000aes 128\t\r\n \u2028\n\r\r\n\x0bsha256\u0085"

theorem names_of_file_oddNames :
    ∃ d : Directory, d.Holds "in" oddNames ∧
      (readNames "in").run d = (.ok ["aes 128", "sha256"], d) := by
  have htarget : Directory.empty.target "in" = .ok ["in"] := by cbv
  have hwrite : Directory.empty.write "in" oddNames.toUTF8 =
      .ok (Directory.empty.put ["in"] (.file oddNames.toUTF8)) := by
    rw [Directory.write, htarget]
  have hholds := Directory.read_write hwrite
  have hlaid := namesOf_eq_iff.1 (show namesOf oddNames = ["aes 128", "sha256"] by decide +kernel)
  obtain ⟨result, hrun, hok, -⟩ := names_of_file hholds
  rw [(hok ["aes 128", "sha256"]).2 ⟨by decide, hlaid⟩] at hrun
  exact ⟨_, hholds, hrun⟩

end CutAndChoose
