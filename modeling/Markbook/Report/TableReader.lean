import Markbook.Report.Table

/-!
# Reading a table

How the text of a table is to be understood.  Fields are separated by the delimiter and records by
the end of a line, which may be left out behind the last record.  A field stands there as it is, or
between quotes.  Between quotes everything belongs to the field, and two quotes stand for one;
without them a field holds no delimiter, no quote and no part of a line end.

The reader goes over the text once and is strict: what these rules do not cover is not read.

* `TableReader` — what has been read so far, and `TableReader.step`, one more character.
* `readTable` — the records of a text.
-/

namespace Markbook

/-- A delimiter that can be told from quotes and line ends. -/
structure TableFormat.IsReadable (f : TableFormat) : Prop where
  quote : f.delimiter ≠ '"'
  carriageReturn : f.delimiter ≠ '\r'
  lineFeed : f.delimiter ≠ '\n'

/-- Where in the text of a table a reader stands. -/
inductive TableReader.Place where
  /-- Before a field. -/
  | fresh
  /-- In a field without quotes. -/
  | bare
  /-- Between the quotes of a field. -/
  | quoted
  /-- Behind a quote that ends a field, unless another one follows. -/
  | closing
  /-- Behind the carriage return that ends a record together with a line feed. -/
  | returning
  deriving DecidableEq, Repr

/-- What has been read of a table. -/
structure TableReader where
  place : TableReader.Place
  field : List Char
  fields : List String
  records : List (List String)

namespace TableReader

/-- Nothing has been read. -/
def start : TableReader :=
  ⟨.fresh, [], [], []⟩

/-- One more character belongs to the field. -/
def push (r : TableReader) (place : Place) (c : Char) : TableReader :=
  { r with place, field := r.field ++ [c] }

/-- The field is complete. -/
def endField (r : TableReader) : TableReader :=
  { r with place := .fresh, field := [], fields := r.fields ++ [String.ofList r.field] }

/-- The field is complete, and so is the record. -/
def endRecord (r : TableReader) : TableReader :=
  ⟨.fresh, [], [], r.records ++ [r.endField.fields]⟩

/-- A character behind a field: a delimiter, or the beginning of a line end. -/
def separate (f : TableFormat) (r : TableReader) (c : Char) : Option TableReader :=
  if c = f.delimiter then some r.endField
  else if c = '\n' ∧ f.carriageReturn = false then some r.endRecord
  else if c = '\r' ∧ f.carriageReturn = true then some { r with place := .returning }
  else none

/-- A character in a field without quotes, or behind it. -/
def outside (f : TableFormat) (r : TableReader) (c : Char) : Option TableReader :=
  if c = f.delimiter ∨ c = '"' ∨ c = '\r' ∨ c = '\n' then r.separate f c
  else some (r.push .bare c)

/-- Reads one more character. -/
def step (f : TableFormat) (r : TableReader) (c : Char) : Option TableReader :=
  match r.place with
  | .fresh => if c = '"' then some { r with place := .quoted } else r.outside f c
  | .bare => r.outside f c
  | .quoted => if c = '"' then some { r with place := .closing } else some (r.push .quoted c)
  | .closing => if c = '"' then some (r.push .quoted c) else r.separate f c
  | .returning => if c = '\n' then some r.endRecord else none

/-- The records, once the text is at its end. -/
def finish (r : TableReader) : Option (List (List String)) :=
  match r.place with
  | .fresh => if r.fields = [] then some r.records else some r.endRecord.records
  | .bare | .closing => some r.endRecord.records
  | .quoted | .returning => none

end TableReader

/-- The records of a text, if it is that of a table. -/
def readTable (f : TableFormat) (text : String) : Option (List (List String)) :=
  (text.toList.foldlM (TableReader.step f) .start).bind TableReader.finish

end Markbook
