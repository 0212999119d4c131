import Mathlib
import CutAndChoose.Command.Documents
import CutAndChoose.Proofs.Bench.TableNumber
import CutAndChoose.Proofs.Bench.TableReader
import CutAndChoose.Proofs.Files.Script

/-!
# CutAndChoose.Proofs.Bench.TableFile

Benchmark tables in files: a written table is read as its header and its rows, so no two tables
have the same file.
-/

namespace CutAndChoose

namespace Measurement

/-- Three fields: the circuit unchanged, a text that is read as the size and one that is read as
the time, the sign of a zero included. -/
def RecordOf (row : Measurement) (record : List (List Char)) : Prop :=
  ∃ size time, record = [row.circuit.toList, size, time] ∧
    word64? size = some row.sizeBytes ∧ float? time = some row.timeMs

variable {row row' : Measurement} {record : List (List Char)}

theorem recordOf_fields (row : Measurement) : row.RecordOf row.fields :=
  ⟨_, _, rfl, word64?_decimalDigits row.sizeBytes, float?_text row.timeMs⟩

/-- A record stands for one row only. -/
theorem RecordOf.unique (h : row.RecordOf record) (h' : row'.RecordOf record) : row = row' := by
  obtain ⟨size, time, rfl, hsize, htime⟩ := h
  obtain ⟨size', time', heq, hsize', htime'⟩ := h'
  simp only [List.cons.injEq, and_true] at heq
  obtain ⟨hcircuit, rfl, rfl⟩ := heq
  rw [hsize, Option.some.injEq] at hsize'
  rw [htime, Option.some.injEq] at htime'
  cases row
  cases row'
  simp only [mk.injEq]
  exact ⟨String.toList_inj.1 hcircuit, hsize', htime'⟩

theorem fields_injective : Function.Injective fields := by
  intro row row' h
  exact (recordOf_fields row).unique (h ▸ recordOf_fields row')

end Measurement

/-- Header and rows are records with fields, so the reader gives them back. -/
theorem readRecords_tableText (rows : List Measurement) :
    readRecords (tableText rows).toList = some (tableHeader :: rows.map Measurement.fields) := by
  rw [tableText, String.toList_ofList]
  refine readRecords_recordText fun record hrecord => ?_
  cases hrecord with
  | head => exact List.cons_ne_nil _ _
  | tail _ hrow =>
    obtain ⟨row, -, rfl⟩ := List.mem_map.1 hrow
    exact List.cons_ne_nil _ _

theorem tableText_injective : Function.Injective tableText := by
  intro rows rows' h
  have hread := readRecords_tableText rows
  rw [h, readRecords_tableText, Option.some.injEq, List.cons.injEq] at hread
  exact (Measurement.fields_injective.list_map hread.2).symm

theorem run_writeTable (path : String) (rows : List Measurement) (d : Directory) :
    (writeTable path rows).run d =
      match d.write path (tableText rows).toUTF8 with
      | .ok d' => (.ok (), d')
      | .error f => (.error (.tableNotCreated path f), d) :=
  Script.run_writeOr path (tableText rows).toUTF8 (CommandFault.tableNotCreated path) d

theorem read_of_writeTable {path : String} {rows : List Measurement} {d d' : Directory}
    (h : (writeTable path rows).run d = (.ok (), d')) :
    d'.read path = .ok (tableText rows).toUTF8 :=
  Script.read_of_writeOr h

theorem run_readText {path text : String} {d : Directory} (h : d.read path = .ok text.toUTF8) :
    (readText path).run d = (.ok text, d) := by
  show (Script.read path _).run d = _
  rw [Script.run, h]
  show (decodeText text.toUTF8, d) = _
  rw [decodeText, fromUTF8?_toUTF8]

/-- A written table is a text that reads as the header and one record for each row, in the order of
the rows, and no table of other rows has the same file. -/
theorem table_reread {path : String} {rows : List Measurement} {d d' : Directory}
    (h : (writeTable path rows).run d = (.ok (), d')) :
    (∃ text records, (readText path).run d' = (.ok text, d') ∧
      readRecords text.toList =
        some (["Circuit Name".toList, "Size (bytes)".toList, "Time (ms)".toList] :: records) ∧
      List.Forall₂ Measurement.RecordOf rows records) ∧
    ∀ path' rows' e e', (writeTable path' rows').run e = (.ok (), e') →
      e'.read path' = d'.read path → rows' = rows := by
  have hfile := read_of_writeTable h
  constructor
  · refine ⟨tableText rows, rows.map Measurement.fields, run_readText hfile,
      readRecords_tableText rows, ?_⟩
    rw [List.forall₂_map_right_iff, List.forall₂_same]
    exact fun row _ => row.recordOf_fields
  · intro path' rows' e e' h' hsame
    rw [read_of_writeTable h', hfile, Except.ok.injEq] at hsame
    have htext := congrArg String.fromUTF8? hsame
    rw [fromUTF8?_toUTF8, fromUTF8?_toUTF8, Option.some.injEq] at htext
    exact tableText_injective htext

/-- Circuits with every character that is special in a table, and times at the ends of the
floats. -/
def oddRows : List Measurement :=
  [⟨"", 0, .finite true .zero⟩,
    ⟨"\"a\",\r\nb", 18446744073709551615, .infinite false⟩,
    ⟨"\r", 7, .ofBits 1⟩]

theorem table_reread_oddRows :
    ∃ d', (writeTable "csv" oddRows).run .empty = (.ok (), d') ∧
      ∃ text records, (readText "csv").run d' = (.ok text, d') ∧
        readRecords text.toList =
          some (["Circuit Name".toList, "Size (bytes)".toList, "Time (ms)".toList] :: records) ∧
        List.Forall₂ Measurement.RecordOf oddRows records := by
  have htarget : Directory.empty.target "csv" = .ok ["csv"] := by cbv
  have hwrite : (writeTable "csv" oddRows).run .empty =
      (.ok (), Directory.empty.put ["csv"] (.file (tableText oddRows).toUTF8)) := by
    rw [run_writeTable, Directory.write, htarget]
  exact ⟨_, hwrite, (table_reread hwrite).1⟩

end CutAndChoose
