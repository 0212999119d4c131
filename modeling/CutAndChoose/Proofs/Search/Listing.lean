import Mathlib
import CutAndChoose.Proofs.Decimal.Positional
import CutAndChoose.Proofs.Search.Result
import CutAndChoose.Proofs.Text.Columns
import CutAndChoose.Search.Listing

/-!
# CutAndChoose.Proofs.Search.Listing

The listing of a search, line by line.

* `Outcome.IsRowOf`: the row of an accepted pair, with its columns and, if it is the best pair, a
  star.
* `Outcome.IsOf.text_eq`: a listing is the lines of settings and counts and the lines of its body.
* `listing_of_search`: what the lines are, and that at most one of them is starred.

The rows are printed of the evaluations and the counts of the accepted pairs. They agree because a
search fills both lists in step, and there is at most one star because no pair is accepted twice.
-/

namespace CutAndChoose

/-! ## Numbers in columns -/

theorem isColumn_decimalDigits (n : ℕ) : IsColumn (decimalDigits n) :=
  ⟨decimalDigits_ne_nil n, fun _ hc => not_isBlank_of_isDigit (isDigit_of_mem_decimalDigits hc)⟩

theorem isColumn_pointBefore (places n : ℕ) : IsColumn (pointBefore places n) := by
  refine ⟨by simp [pointBefore], fun c hc => ?_⟩
  have hdigit : ∀ c ∈ zeros (places + 1 - (decimalDigits n).length) ++ decimalDigits n,
      isBlank c = false := by
    intro c hc
    rcases List.mem_append.1 hc with hc | hc
    · exact not_isBlank_of_isDigit (isDigit_of_mem_zeros hc)
    · exact not_isBlank_of_isDigit (isDigit_of_mem_decimalDigits hc)
  rcases List.mem_append.1 hc with hc | hc
  · exact hdigit c (List.mem_of_mem_take hc)
  · rcases List.mem_cons.1 hc with rfl | hc
    · rfl
    · exact hdigit c (List.mem_of_mem_drop hc)

theorem isColumn_fixedText (places : ℕ) (x : Binary64) : IsColumn (x.fixedText places) := by
  cases x with
  | finite negative a =>
    obtain ⟨hne, hblank⟩ := isColumn_pointBefore places
      (divNearest (a.units * 10 ^ places) Magnitude.one)
    refine ⟨List.append_ne_nil_of_right_ne_nil _ hne, fun c hc => ?_⟩
    rcases List.mem_append.1 hc with hc | hc
    · cases negative with
      | false => cases hc
      | true =>
        rw [List.mem_singleton.1 hc]
        rfl
    · exact hblank c hc
  | infinite negative =>
    show IsColumn (Notation.signText negative ++ ['i', 'n', 'f'])
    cases negative with
    | false => exact ⟨by simp, by simp [isBlank, Notation.signText]⟩
    | true => exact ⟨by simp, by simp [isBlank, Notation.signText]⟩
  | nan =>
    show IsColumn ['N', 'a', 'N']
    exact ⟨by simp, by simp [isBlank]⟩

theorem isColumn_logText (p : Binary64) : IsColumn (logText p) := by
  unfold logText
  split
  · exact isColumn_fixedText 2 _
  · exact ⟨by simp, by simp [isBlank]⟩

/-! ## Rows -/

/-- A line of the listing without its ending. -/
def listingRow (mark m tau log : List Char) : List Char :=
  alignLeft 2 mark ++ alignRight 6 m ++ ' ' :: alignRight 6 tau ++ ' ' :: alignRight 14 log

namespace Outcome

/-- The row of an accepted pair in the listing of an outcome. -/
structure IsRowOf (o : Outcome) (p : Params) (row : List Char) : Prop where
  columns : columns row = (if p = o.best then [['*']] else []) ++
    [decimalDigits p.m.toNat, decimalDigits p.tau.toNat, logText (o.config.evaluate p).worstError]
  starred : row.head? = some '*' ↔ p = o.best

def row (o : Outcome) (p : Params) : List Char :=
  listingRow (if p = o.best then ['*'] else []) (decimalDigits p.m.toNat)
    (decimalDigits p.tau.toNat) (logText (o.config.evaluate p).worstError)

end Outcome

section Row

variable {mark m tau log : List Char}

theorem columns_listingRow (hm : IsColumn m) (htau : IsColumn tau) (hlog : IsColumn log) :
    columns (listingRow [] m tau log) = [m, tau, log] ∧
      columns (listingRow ['*'] m tau log) = [['*'], m, tau, log] := by
  have hnumbers : columns (alignRight 6 m ++ ' ' :: (alignRight 6 tau ++ ' ' ::
      alignRight 14 log)) = [m, tau, log] := by
    rw [hm.columns_alignRight_blank, htau.columns_alignRight_blank, hlog.columns_alignRight]
  have hstar : IsColumn ['*'] := ⟨by simp, by simp [isBlank]⟩
  simp only [listingRow, List.append_assoc, List.cons_append]
  constructor
  · show columns (List.replicate 2 ' ' ++ _) = _
    rw [columns_replicate, hnumbers]
  · show columns (['*'] ++ ' ' :: (alignRight 6 m ++ _)) = _
    rw [hstar.columns_append rfl, hnumbers]

theorem isInner_listingRow (hmark : ∀ c ∈ mark, IsInner c) (hm : IsColumn m)
    (htau : IsColumn tau) (hlog : IsColumn log) :
    ∀ c ∈ listingRow mark m tau log, IsInner c := by
  have hblank : IsInner ' ' := by simp [IsInner]
  simp only [listingRow, alignLeft, List.forall_mem_append, List.forall_mem_cons]
  refine ⟨⟨⟨⟨hmark, ?_⟩, isInner_alignRight hm.isInner 6⟩, hblank,
    isInner_alignRight htau.isInner 6⟩, hblank, isInner_alignRight hlog.isInner 14⟩
  intro c hc
  rwa [List.eq_of_mem_replicate hc]

end Row

namespace Outcome

theorem isRowOf_row (o : Outcome) (p : Params) : o.IsRowOf p (o.row p) := by
  obtain ⟨hplain, hstarred⟩ := columns_listingRow (isColumn_decimalDigits p.m.toNat)
    (isColumn_decimalDigits p.tau.toNat) (isColumn_logText (o.config.evaluate p).worstError)
  unfold row
  by_cases hbest : p = o.best
  · rw [if_pos hbest]
    exact ⟨by rw [hstarred, if_pos hbest]; rfl, by simp [listingRow, alignLeft, hbest]⟩
  · rw [if_neg hbest]
    exact ⟨by rw [hplain, if_neg hbest]; rfl, by simp [listingRow, alignLeft, hbest]⟩

theorem forall₂_isRowOf (o : Outcome) (pairs : List Params) :
    List.Forall₂ o.IsRowOf pairs (pairs.map o.row) := by
  rw [List.forall₂_map_right_iff, List.forall₂_same]
  exact fun p _ => o.isRowOf_row p

theorem isInner_row (o : Outcome) (p : Params) : ∀ c ∈ o.row p, IsInner c := by
  refine isInner_listingRow ?_ (isColumn_decimalDigits _) (isColumn_decimalDigits _)
    (isColumn_logText _)
  split
  · simp [IsInner]
  · simp

end Outcome

/-! ## The other lines -/

theorem isInner_toString (n : ℕ) : ∀ c ∈ (toString n).toList, IsInner c := by
  have htext : (toString n).toList = decimalDigits n := by simp [decimalDigits]
  rw [htext]
  exact (isColumn_decimalDigits n).isInner

theorem isInner_sweepText (s : Sweep) : ∀ c ∈ s.text.toList, IsInner c := by
  rw [Sweep.text]
  simp only [String.toList_append, List.forall_mem_append]
  have hopen : ∀ c ∈ "[".toList, IsInner c := by simp [IsInner]
  have hcomma : ∀ c ∈ ", ".toList, IsInner c := by simp [IsInner]
  have hstep : ∀ c ∈ ") step ".toList, IsInner c := by simp [IsInner]
  exact ⟨⟨⟨⟨⟨hopen, isInner_toString _⟩, hcomma⟩, isInner_toString _⟩, hstep⟩, isInner_toString _⟩

/-- The settings are one line, without a star in front. -/
theorem exists_settings (c : Config) : ∃ settings, settings ++ ['\n'] = (settingsLine c).toList ∧
    settings.head? ≠ some '*' ∧ ∀ ch ∈ settings, IsInner ch := by
  have hparties : ∀ ch ∈ "n=".toList, IsInner ch := by simp [IsInner]
  have htarget : ∀ ch ∈ " | target=2^".toList, IsInner ch := by simp [IsInner]
  have hm : ∀ ch ∈ " | M=".toList, IsInner ch := by simp [IsInner]
  have htau : ∀ ch ∈ " | tau=".toList, IsInner ch := by simp [IsInner]
  have hlog : ∀ ch ∈ (String.ofList (c.target.log2.fixedText 1)).toList, IsInner ch := by
    rw [String.toList_ofList]
    exact (isColumn_fixedText 1 _).isInner
  rw [settingsLine]
  simp only [String.toList_append]
  have hhead : (toString "n=").toList = ['n', '='] := rfl
  refine ⟨_, rfl, by simp [hhead], ?_⟩
  simp only [List.forall_mem_append]
  exact ⟨⟨⟨⟨⟨⟨⟨hparties, isInner_toString _⟩, htarget⟩, hlog⟩, hm⟩, isInner_sweepText _⟩, htau⟩,
    isInner_sweepText _⟩

namespace Outcome

variable {c : Config} {o : Outcome}

def counts (o : Outcome) : List Char :=
  s!"Evaluated {o.evaluations.length} pairs, accepted {o.accepted.length}".toList

theorem counts_eq (o : Outcome) : (countsLine o).toList = o.counts ++ ['\n'] := by
  rw [countsLine, counts]
  simp only [String.toList_append, List.append_assoc]
  rfl

theorem isInner_counts (o : Outcome) : ∀ c ∈ o.counts, IsInner c := by
  have hevaluated : ∀ c ∈ "Evaluated ".toList, IsInner c := by simp [IsInner]
  have haccepted : ∀ c ∈ " pairs, accepted ".toList, IsInner c := by simp [IsInner]
  rw [counts]
  simp only [String.toList_append, List.forall_mem_append]
  exact ⟨⟨⟨hevaluated, isInner_toString _⟩, haccepted⟩, isInner_toString _⟩

theorem head?_counts_ne (o : Outcome) : o.counts.head? ≠ some '*' := by
  have hhead : (toString "Evaluated ").toList = 'E' :: "valuated ".toList := rfl
  rw [counts]
  simp only [String.toList_append, hhead]
  simp

/-- The lines behind settings and counts. -/
def body (o : Outcome) : List (List Char) :=
  if o.accepted = [] then ["No pair reaches the target.".toList]
  else
    "       M    tau      log2(err)".toList :: "  ------ ------ --------------".toList ::
      o.accepted.map o.row

theorem listingHead_eq : listingHead = endedLines
    ["       M    tau      log2(err)".toList, "  ------ ------ --------------".toList] := by
  decide

theorem isInner_body {line : List Char} (hline : line ∈ o.body) : ∀ c ∈ line, IsInner c := by
  unfold body at hline
  split at hline
  · rw [List.mem_singleton.1 hline]
    simp [IsInner]
  · simp only [List.mem_cons, List.mem_map] at hline
    rcases hline with rfl | rfl | ⟨p, -, rfl⟩
    · simp [IsInner]
    · simp [IsInner]
    · exact o.isInner_row p

/-- The rows are made of the evaluations that are marked as accepted. These are the evaluations of
the accepted pairs. -/
theorem IsOf.rows_eq (h : o.IsOf c) :
    (o.evaluations.filter (·.accepted)).flatMap (acceptedLine o.best) =
      endedLines (o.accepted.map o.row) := by
  have hrow : ∀ e ∈ o.evaluations, acceptedLine o.best e = o.row e.params ++ ['\n'] := by
    intro e he
    have heval := (h.evaluations e he).eq
    rw [← h.config] at heval
    rw [row, heval]
    rfl
  rw [h.accepted, endedLines, List.map_map, List.flatMap_map]
  exact List.flatMap_congr fun e he => hrow e (List.mem_of_mem_filter he)

theorem IsOf.body_eq (h : o.IsOf c) :
    (if o.accepted.isEmpty then "No pair reaches the target.\n"
      else String.ofList (listingHead ++
        (o.evaluations.filter (·.accepted)).flatMap (acceptedLine o.best))).toList =
      endedLines o.body := by
  rw [h.rows_eq, listingHead_eq, body]
  cases o.accepted with
  | nil =>
    rw [List.isEmpty_nil, if_pos rfl, if_pos rfl]
    decide
  | cons p rest =>
    rw [if_neg (by simp), if_neg (by simp), String.toList_ofList]
    rfl

theorem IsOf.text_eq (h : o.IsOf c) {settings : List Char}
    (hsettings : settings ++ ['\n'] = (settingsLine o.config).toList) :
    o.text.toList = endedLines (settings :: o.counts :: o.body) := by
  rw [text, String.toList_append, String.toList_append, ← hsettings, counts_eq, h.body_eq,
    endedLines_cons, endedLines_cons]
  simp only [List.append_assoc, List.cons_append, List.nil_append]

/-! ## Stars -/

theorem countP_starred {rows : List (List Char)} {pairs : List Params}
    (h : List.Forall₂ o.IsRowOf pairs rows) :
    rows.countP (·.head? = some '*') = pairs.count o.best := by
  induction h with
  | nil => rfl
  | cons hrow _ ih =>
    rw [List.countP_cons, ih, List.count_cons]
    simp only [hrow.starred, decide_eq_true_eq, beq_iff_eq]

theorem countP_body (hnodup : o.accepted.Nodup) :
    o.body.countP (·.head? = some '*') = if o.best ∈ o.accepted then 1 else 0 := by
  have hrows : (o.accepted.map o.row).countP (·.head? = some '*') =
      if o.best ∈ o.accepted then 1 else 0 := by
    rw [countP_starred (o.forall₂_isRowOf o.accepted), hnodup.count]
  unfold body
  split
  · rename_i hnil
    rw [hnil]
    rfl
  · rw [List.countP_cons_of_neg (by decide), List.countP_cons_of_neg (by decide), hrows]

end Outcome

/-- The listing of what a search returns: the settings, the counts, and then either a message or a
table with one row for each accepted pair, in order. The row of the best pair is starred, and no
other line. -/
theorem listing_of_search {c : Config} {o : Outcome} (h : search c = .ok o) :
    ∃ settings body, settings ++ ['\n'] = (settingsLine o.config).toList ∧
      textLines o.text.toList = settings ::
        s!"Evaluated {o.evaluations.length} pairs, accepted {o.accepted.length}".toList :: body ∧
      (o.accepted = [] → body = ["No pair reaches the target.".toList]) ∧
      (o.accepted ≠ [] → ∃ rows,
        body = "       M    tau      log2(err)".toList ::
          "  ------ ------ --------------".toList :: rows ∧
        List.Forall₂ o.IsRowOf o.accepted rows) ∧
      (textLines o.text.toList).countP (·.head? = some '*') =
        if o.best ∈ o.accepted then 1 else 0 := by
  have ho := Outcome.IsOf.of_search h
  obtain ⟨settings, hsettings, hstar, hinner⟩ := exists_settings o.config
  have hlines : textLines o.text.toList = settings :: o.counts :: o.body := by
    rw [ho.text_eq hsettings, textLines_endedLines]
    simp only [List.forall_mem_cons]
    exact ⟨isWhole_of_isInner hinner, isWhole_of_isInner o.isInner_counts,
      fun line hline => isWhole_of_isInner (Outcome.isInner_body hline)⟩
  refine ⟨settings, o.body, hsettings, hlines, ?_, ?_, ?_⟩
  · intro hnil
    rw [Outcome.body, if_pos hnil]
  · intro hne
    exact ⟨o.accepted.map o.row, by rw [Outcome.body, if_neg hne], o.forall₂_isRowOf o.accepted⟩
  · rw [hlines, List.countP_cons_of_neg (by simpa using hstar),
      List.countP_cons_of_neg (by simpa using o.head?_counts_ne), Outcome.countP_body ho.nodup]

/-- A grid around a million executions, where the numbers of executions differ in length. -/
def millionGrid : Config := ⟨2, targetError 2, ⟨999999, 1000002, 1⟩, ⟨2, 4, 1⟩⟩

theorem listing_of_search_millionGrid :
    ∃ o settings rows, search millionGrid = .ok o ∧
      o.accepted = [⟨999999, 3⟩, ⟨1000000, 3⟩, ⟨1000001, 3⟩] ∧
      textLines o.text.toList = settings :: "Evaluated 6 pairs, accepted 3".toList ::
        "       M    tau      log2(err)".toList :: "  ------ ------ --------------".toList :: rows ∧
      List.Forall₂ o.IsRowOf o.accepted rows ∧
      (textLines o.text.toList).countP (·.head? = some '*') = 1 := by
  have hsearch : search millionGrid = .ok millionGrid.outcome :=
    search_eq_ok_iff.2 ⟨Config.check_eq_ok_iff.1 (by decide +kernel), by decide +kernel, rfl⟩
  have haccepted : millionGrid.outcome.accepted =
      [⟨999999, 3⟩, ⟨1000000, 3⟩, ⟨1000001, 3⟩] := by decide +kernel
  have hbest : millionGrid.outcome.best ∈ millionGrid.outcome.accepted := by
    rw [(Outcome.IsOf.of_search hsearch).best, haccepted]
    decide
  have hcounts : millionGrid.outcome.counts = "Evaluated 6 pairs, accepted 3".toList := by
    rw [Outcome.counts, haccepted]
    decide +kernel
  obtain ⟨settings, body, -, hlines, -, htable, hstars⟩ := listing_of_search hsearch
  obtain ⟨rows, rfl, hrows⟩ := htable (by simp [haccepted])
  rw [← Outcome.counts, hcounts] at hlines
  rw [if_pos hbest] at hstars
  exact ⟨_, settings, rows, hsearch, haccepted, hlines, hrows, hstars⟩

end CutAndChoose
