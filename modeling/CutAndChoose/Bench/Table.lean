import CutAndChoose.Bench.Measurement
import CutAndChoose.Decimal.Notation

/-!
# CutAndChoose.Bench.Table

The benchmark table as comma-separated values: a header record, then one record per row. A field
with a comma, a quote or a line break is quoted and its quotes are doubled; records end with a line
feed.
-/

namespace CutAndChoose

def needsQuotes (field : List Char) : Bool :=
  field.any fun c => c == ',' || c == '"' || c == '\n' || c == '\r'

/-- Every quote is written twice. -/
def doubleQuotes : List Char → List Char
  | [] => []
  | c :: rest => if c = '"' then '"' :: '"' :: doubleQuotes rest else c :: doubleQuotes rest

def fieldText (field : List Char) : List Char :=
  if needsQuotes field then '"' :: (doubleQuotes field ++ ['"']) else field

def recordText (fields : List (List Char)) : List Char :=
  [','].intercalate (fields.map fieldText) ++ ['\n']

def tableHeader : List (List Char) :=
  ["Circuit Name".toList, "Size (bytes)".toList, "Time (ms)".toList]

def Measurement.fields (row : Measurement) : List (List Char) :=
  [row.circuit.toList, decimalDigits row.sizeBytes.toNat, Notation.plain.text row.timeMs]

def tableText (rows : List Measurement) : String :=
  String.ofList ((tableHeader :: rows.map Measurement.fields).flatMap recordText)

end CutAndChoose
