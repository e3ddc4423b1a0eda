/-!
# Records of comma-separated bytes

A record ends at a carriage return or a line feed, a field at a comma.  A field
that starts with a quote goes on to the next quote that is not doubled, and the
commas, line ends and doubled quotes on the way are its own; what stands between
the closing quote and the next comma belongs to the field too.  A quote that is
not first in its field is an ordinary byte.  Lines without any byte are skipped,
and so is a byte order mark in front.  The end of the bytes ends the record, also
inside quotes.
-/

namespace EstateFiling.Csv

/-- The bytes of a field, without the quotes around them. -/
abbrev Field := List UInt8

/-- A comma. -/
def comma : UInt8 := 44

/-- A quote. -/
def quote : UInt8 := 34

/-- Whether a byte ends a record. -/
def isLineEnd (b : UInt8) : Bool := b == 10 || b == 13

/-- Where the next byte stands. -/
inductive Place where
  /-- At the start of a record. -/
  | recordStart
  /-- At the start of a field. -/
  | fieldStart
  /-- In a field, outside quotes. -/
  | plain
  /-- Inside quotes. -/
  | quoted
  /-- After a quote inside quotes. -/
  | afterQuote
deriving DecidableEq, Repr

/-- What was read so far, latest first. -/
structure Progress where
  /-- Where the next byte stands. -/
  place : Place := .recordStart
  /-- The bytes of the field being read. -/
  field : Field := []
  /-- The fields of the record being read. -/
  fields : List Field := []
  /-- The complete records. -/
  records : List (List Field) := []
deriving DecidableEq, Repr

namespace Progress

/-- Takes a byte into the field. -/
def push (p : Progress) (place : Place) (b : UInt8) : Progress :=
  { p with place := place, field := b :: p.field }

/-- Ends the field. -/
def endField (p : Progress) : Progress :=
  { p with place := .fieldStart, field := [], fields := p.field.reverse :: p.fields }

/-- Ends the field and the record. -/
def endRecord (p : Progress) : Progress :=
  { place := .recordStart
    records := (p.field.reverse :: p.fields).reverse :: p.records }

/-- Reads a byte outside quotes. -/
def readPlain (p : Progress) (b : UInt8) : Progress :=
  if b == comma then p.endField
  else if isLineEnd b then p.endRecord
  else p.push .plain b

/-- Reads the first byte of a field. -/
def readFirst (p : Progress) (b : UInt8) : Progress :=
  if b == quote then { p with place := .quoted } else p.readPlain b

/-- Reads a byte. -/
def read (p : Progress) (b : UInt8) : Progress :=
  match p.place with
  | .recordStart => if isLineEnd b then p else p.readFirst b
  | .fieldStart => p.readFirst b
  | .plain => p.readPlain b
  | .quoted => if b == quote then { p with place := .afterQuote } else p.push .quoted b
  | .afterQuote => if b == quote then p.push .quoted b else p.readPlain b

/-- The records when there are no more bytes. -/
def finish (p : Progress) : List (List Field) :=
  match p.place with
  | .recordStart => p.records.reverse
  | _ => p.endRecord.records.reverse

end Progress

/-- The bytes without a byte order mark in front. -/
def withoutMark : List UInt8 → List UInt8
  | 0xEF :: 0xBB :: 0xBF :: rest => rest
  | bytes => bytes

/-- The records of a file. -/
def records (bytes : List UInt8) : List (List Field) :=
  ((withoutMark bytes).foldl Progress.read {}).finish

end EstateFiling.Csv
