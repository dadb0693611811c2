import Markbook.Decimal.Layout
import Markbook.Report.Basic

/-!
# Reports as a table

A table has one record for its header and one for each student: id, name, a column for every item
and every category, and the overall grade.  Absent values are empty fields.

Fields are separated by a delimiter.  A field that holds the delimiter, a quote or a line break is
put in quotes, with the quotes inside it doubled; every other field is written as it is.

* `TableFormat` — the choices of a table.
* `writeTable` — the text of records.
* `Book.table` — the records of a report, and `Book.writeReport` their text.
-/

namespace Markbook

/-- How a table is written. -/
structure TableFormat where
  delimiter : Char
  /-- Digits behind the point of a score. -/
  places : Nat
  /-- Do lines end in a carriage return and a line feed, or in a line feed alone? -/
  carriageReturn : Bool

/-- Commas, two places and plain line feeds. -/
def TableFormat.default : TableFormat :=
  { delimiter := ',', places := 2, carriageReturn := false }

/-! ## Fields and records -/

/-- Must a field with this character be quoted? -/
def needsQuotes (delimiter c : Char) : Bool :=
  c == delimiter || c == '"' || c == '\r' || c == '\n'

/-- The text of a field between quotes. -/
def doubleQuotes : List Char → List Char
  | [] => []
  | c :: cs => if c = '"' then '"' :: '"' :: doubleQuotes cs else c :: doubleQuotes cs

/-- The text of a field. -/
def writeField (delimiter : Char) (field : List Char) : List Char :=
  if field.any (needsQuotes delimiter) then '"' :: doubleQuotes field ++ ['"'] else field

/-- The end of a line. -/
def lineEnd (carriageReturn : Bool) : List Char :=
  if carriageReturn then ['\r', '\n'] else ['\n']

/-- The text of a record, whose fields are separated by delimiters. -/
def writeRecord (f : TableFormat) (fields : List String) : List Char :=
  let texts := fields.map fun field => writeField f.delimiter field.toList
  List.intercalate [f.delimiter] texts ++ lineEnd f.carriageReturn

/-- The text of a table.  There is none if a record has another number of fields than the first. -/
def writeTable (f : TableFormat) (records : List (List String)) : Option String :=
  let width := records.head?.map (·.length)
  if records.all fun fields => some fields.length == width then
    some (String.ofList (records.flatMap (writeRecord f)))
  else none

/-! ## The records of a report -/

/-- The text of a value; an absent one has none. -/
def writeValue (places : Nat) : Option Float → String
  | some x => printFixed places x
  | none => ""

/-- The record of a student. -/
def StudentReport.record (places : Nat) (r : StudentReport) : List String :=
  [r.id, r.name] ++ r.items.map (writeValue places ·.score)
    ++ r.categories.map (writeValue places ·.average) ++ [writeValue places r.overall]

namespace Book

/-- The names of the columns. -/
def header (b : Book) : List String :=
  ["student_id", "student_name"] ++ b.items.map (·.name) ++ b.categories.map (·.name)
    ++ ["overall"]

/-- The records of a report under the header of the book. -/
def table (b : Book) (places : Nat) (reports : List StudentReport) : List (List String) :=
  b.header :: reports.map (·.record places)

/-- The text of a report.  There is none if the book has other columns than the report. -/
def writeReport (b : Book) (f : TableFormat) (reports : List StudentReport) : Option String :=
  writeTable f (b.table f.places reports)

end Book

end Markbook
