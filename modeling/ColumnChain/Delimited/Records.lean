import ColumnChain.Text.Encoding

/-!
# Records of delimited text

Cutting bytes into records and records into fields. A record ends at a line feed, at a
carriage return, or at both together; lines without a byte are no records. A field that
starts with a quote goes on to the next quote that is not doubled, whatever is in
between; what follows that quote up to the end of the field is taken as it stands.
Records may have any number of fields.
-/

namespace ColumnChain.Delimited

/-- The byte of a double quote. -/
def quote : UInt8 := Text.byte '"'

/-- Whether a byte ends a line. -/
def endsLine (b : UInt8) : Bool :=
  b == Text.byte '\n' || b == Text.byte '\r'

/-- Where in a record the scan stands. -/
inductive Place where
  /-- Before a record. -/
  | outside
  /-- Before a field. -/
  | fieldStart
  /-- In a field, outside quotes. -/
  | plain
  /-- Between quotes. -/
  | quoted
  /-- After a quote that may end the quoted part or be the first half of a doubled one. -/
  | afterQuote
  deriving DecidableEq

/-- What has been read of a record: its fields and the bytes of the field in which the
scan stands, both in reverse. -/
structure Scan where
  place : Place
  fields : List Bytes
  field : Bytes

namespace Scan

/-- Nothing has been read of the record. -/
def fresh : Scan :=
  ⟨.outside, [], []⟩

/-- The record that ends here. -/
def record (scan : Scan) : List Bytes :=
  (scan.field.reverse :: scan.fields).reverse

/-- Take a byte as part of the field. -/
def add (scan : Scan) (place : Place) (b : UInt8) : Scan :=
  ⟨place, scan.fields, b :: scan.field⟩

/-- Outside quotes a delimiter ends the field and the end of a line the record. -/
def stepPlain (delimiter : UInt8) (scan : Scan) (b : UInt8) : Option (List Bytes) × Scan :=
  if b = delimiter then (none, ⟨.fieldStart, scan.field.reverse :: scan.fields, []⟩)
  else if endsLine b then (some scan.record, fresh)
  else (none, scan.add .plain b)

/-- Read one more byte; a record that it completes is handed out. -/
def step (delimiter : UInt8) (scan : Scan) (b : UInt8) : Option (List Bytes) × Scan :=
  match scan.place with
  | .outside =>
      if endsLine b then (none, scan)
      else if b = quote then (none, { scan with place := .quoted })
      else stepPlain delimiter scan b
  | .fieldStart =>
      if b = quote then (none, { scan with place := .quoted })
      else stepPlain delimiter scan b
  | .plain => stepPlain delimiter scan b
  | .quoted =>
      if b = quote then (none, { scan with place := .afterQuote })
      else (none, scan.add .quoted b)
  | .afterQuote =>
      if b = quote then (none, scan.add .quoted b) else stepPlain delimiter scan b

end Scan

/-- The records from a point of the scan on. The end of the bytes ends a record that has
been begun. -/
def recordsFrom (delimiter : UInt8) (scan : Scan) : Bytes → List (List Bytes)
  | [] => if scan.place = .outside then [] else [scan.record]
  | b :: rest =>
      match scan.step delimiter b with
      | (none, scan) => recordsFrom delimiter scan rest
      | (some record, scan) => record :: recordsFrom delimiter scan rest

/-- The bytes without the mark of UTF-8 that may precede them. -/
def withoutMark : Bytes → Bytes
  | 0xEF :: 0xBB :: 0xBF :: rest => rest
  | bytes => bytes

/-- The records of delimited text. -/
def records (delimiter : UInt8) (bytes : Bytes) : List (List Bytes) :=
  recordsFrom delimiter Scan.fresh (withoutMark bytes)

end ColumnChain.Delimited
