import Mathlib
import CutAndChoose.Bench.Table

/-!
# CutAndChoose.Proofs.Bench.TableReader

A reader of comma-separated values after RFC 4180, and that it undoes the quoting of a table.

* `TableReader`: the reader as a machine that takes one character at a time. A field in quotes may
  hold anything, with its quotes doubled; a field without quotes holds no quote. Records end with a
  line feed or with a carriage return and a line feed, which may be missing behind the last record.
* `readRecords`: the records of a text, or `none` if it has not this form.
* `readRecords_recordText`: the text of some records reads as these records, whatever their fields
  hold.
-/

namespace CutAndChoose

/-- Where in a field a reader stands. -/
inductive FieldPlace where
  | start
  | plain
  | quoted
  /-- Behind a quote in a quoted field: it ends the field or is the first of two. -/
  | quote
  /-- Behind a carriage return, which only a line feed may follow. -/
  | lineBreak
  deriving DecidableEq

/-- The field that is being read, the fields before it and the records before them. -/
structure TableReader where
  place : FieldPlace
  field : List Char
  record : List (List Char)
  records : List (List (List Char))
  deriving DecidableEq

namespace TableReader

def atField (record : List (List Char)) (records : List (List (List Char))) : TableReader :=
  ⟨.start, [], record, records⟩

def push (s : TableReader) (place : FieldPlace) (c : Char) : TableReader :=
  { s with place, field := s.field ++ [c] }

def endField (s : TableReader) : TableReader := atField (s.record ++ [s.field]) s.records

def endRecord (s : TableReader) : TableReader :=
  atField [] (s.records ++ [s.record ++ [s.field]])

/-- What a character outside quotes does if it is not part of a field. -/
def separator? (s : TableReader) (c : Char) : Option TableReader :=
  if c = ',' then some s.endField
  else if c = '\n' then some s.endRecord
  else if c = '\r' then some { s with place := .lineBreak }
  else none

def step (s : TableReader) (c : Char) : Option TableReader :=
  match s.place with
  | .start =>
    if c = '"' then some { s with place := .quoted }
    else (s.separator? c).or (some (s.push .plain c))
  | .plain => if c = '"' then none else (s.separator? c).or (some (s.push .plain c))
  | .quoted => some (if c = '"' then { s with place := .quote } else s.push .quoted c)
  | .quote => if c = '"' then some (s.push .quoted c) else s.separator? c
  | .lineBreak => if c = '\n' then some s.endRecord else none

/-- The records at the end of a text; a record that has begun ends there. -/
def finish? (s : TableReader) : Option (List (List (List Char))) :=
  match s.place with
  | .start => some (if s.record = [] then s.records else s.endRecord.records)
  | .plain | .quote => some s.endRecord.records
  | .quoted | .lineBreak => none

end TableReader

open TableReader

def readRecords (text : List Char) : Option (List (List (List Char))) :=
  text.foldlM step (atField [] []) >>= finish?

section Fields

variable {field : List Char} {record fields : List (List Char)} {records : List (List (List Char))}

/-- A character that stands for itself outside quotes. -/
def TextData (c : Char) : Prop := c ≠ ',' ∧ c ≠ '"' ∧ c ≠ '\n' ∧ c ≠ '\r'

theorem needsQuotes_eq_false_iff : needsQuotes field = false ↔ ∀ c ∈ field, TextData c := by
  simp [needsQuotes, TextData, and_assoc]

theorem step_of_plain {s : TableReader} {c : Char} (hplace : s.place = .start ∨ s.place = .plain)
    (hc : TextData c) : s.step c = some (s.push .plain c) := by
  obtain ⟨hcomma, hquote, hfeed, hreturn⟩ := hc
  have hnone : s.separator? c = none := by
    rw [separator?, if_neg hcomma, if_neg hfeed, if_neg hreturn]
  unfold step
  rcases hplace with hplace | hplace
  · simp only [hplace, if_neg hquote, hnone, Option.none_or]
  · simp only [hplace, if_neg hquote, hnone, Option.none_or]

/-- Characters that need no quotes are taken as they are. -/
theorem read_plain (hfield : ∀ c ∈ field, TextData c) (read : List Char) :
    field.foldlM step ⟨.plain, read, record, records⟩ =
      some ⟨.plain, read ++ field, record, records⟩ := by
  induction field generalizing read with
  | nil => simp
  | cons c field ih =>
    obtain ⟨hc, hrest⟩ := List.forall_mem_cons.1 hfield
    rw [List.foldlM_cons, step_of_plain (.inr rfl) hc]
    simpa [push] using ih hrest (read ++ [c])

/-- Inside quotes every character is taken, and of two quotes one. -/
theorem read_doubleQuotes (field read : List Char) :
    (doubleQuotes field).foldlM step ⟨.quoted, read, record, records⟩ =
      some ⟨.quoted, read ++ field, record, records⟩ := by
  induction field generalizing read with
  | nil => simp [doubleQuotes]
  | cons c field ih =>
    by_cases hc : c = '"'
    · simpa [doubleQuotes, hc, step, push] using ih (read ++ ['"'])
    · simpa [doubleQuotes, hc, step, push] using ih (read ++ [c])

/-- At these places a comma or a line feed ends the field. -/
def FieldPlace.closes : FieldPlace → Bool
  | .start | .plain | .quote => true
  | .quoted | .lineBreak => false

theorem step_comma {s : TableReader} (h : s.place.closes = true) :
    s.step ',' = some s.endField := by
  unfold step
  cases hplace : s.place with
  | start | plain | quote => simp [separator?]
  | quoted | lineBreak => simp [hplace, FieldPlace.closes] at h

theorem step_lineFeed {s : TableReader} (h : s.place.closes = true) :
    s.step '\n' = some s.endRecord := by
  unfold step
  cases hplace : s.place with
  | start | plain | quote => simp [separator?]
  | quoted | lineBreak => simp [hplace, FieldPlace.closes] at h

/-- The text of a field is read as the field. -/
theorem read_fieldText (field : List Char) (record : List (List Char))
    (records : List (List (List Char))) :
    ∃ place : FieldPlace, place.closes = true ∧
      (fieldText field).foldlM step (atField record records) =
        some ⟨place, field, record, records⟩ := by
  unfold fieldText
  cases hquotes : needsQuotes field with
  | true =>
    refine ⟨.quote, rfl, ?_⟩
    have hinside := @read_doubleQuotes record records field []
    simp [atField, step, hinside]
  | false =>
    have hplain := needsQuotes_eq_false_iff.1 hquotes
    cases field with
    | nil => exact ⟨.start, rfl, rfl⟩
    | cons c field =>
      obtain ⟨hc, hrest⟩ := List.forall_mem_cons.1 hplain
      refine ⟨.plain, rfl, ?_⟩
      rw [if_neg Bool.false_ne_true, List.foldlM_cons, step_of_plain (.inl rfl) hc]
      exact read_plain hrest [c]

/-- By induction on the fields that are left. -/
theorem read_recordText (hne : fields ≠ []) (record : List (List Char))
    (records : List (List (List Char))) :
    (recordText fields).foldlM step (atField record records) =
      some (atField [] (records ++ [record ++ fields])) := by
  induction fields generalizing record with
  | nil => exact absurd rfl hne
  | cons field rest ih =>
    obtain ⟨place, hplace, hfield⟩ := read_fieldText field record records
    cases rest with
    | nil =>
      have hend := @step_lineFeed ⟨place, field, record, records⟩ hplace
      simp [recordText, hfield, hend, endRecord]
    | cons next rest =>
      have hend := @step_comma ⟨place, field, record, records⟩ hplace
      have htext : recordText (field :: next :: rest) =
          fieldText field ++ ',' :: recordText (next :: rest) := by
        simp [recordText]
      rw [htext, List.foldlM_append, hfield]
      simp [hend, endField, ih]

end Fields

/-- By induction on the records that are left. -/
theorem read_recordTexts {table : List (List (List Char))} (hne : ∀ fields ∈ table, fields ≠ [])
    (records : List (List (List Char))) :
    (table.flatMap recordText).foldlM step (atField [] records) =
      some (atField [] (records ++ table)) := by
  induction table generalizing records with
  | nil => simp
  | cons fields table ih =>
    obtain ⟨hfields, hrest⟩ := List.forall_mem_cons.1 hne
    rw [List.flatMap_cons, List.foldlM_append, read_recordText hfields]
    simpa using ih hrest (records ++ [fields])

/-- The text of some records is read as these records. -/
theorem readRecords_recordText {table : List (List (List Char))}
    (hne : ∀ fields ∈ table, fields ≠ []) :
    readRecords (table.flatMap recordText) = some table := by
  rw [readRecords, read_recordTexts hne]
  rfl

example : readRecords "a,\"b\"\"\r\n\"\r\n,c".toList =
    some [["a".toList, "b\"\r\n".toList], [[], "c".toList]] := by decide

end CutAndChoose
