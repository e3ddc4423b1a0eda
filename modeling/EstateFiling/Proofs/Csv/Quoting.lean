import EstateFiling.Csv.Record
import EstateFiling.Proofs.Text.Utf8

/-!
# Quoted fields come back

A file may be written with every field in quotes and every quote in a field doubled, and
with any line end after each record (`Csv.write`).  Its records come back as they were
(`Csv.records_write`), whatever the fields hold.

A quote is one byte, which is part of no other character, so doubling the quotes of a text
doubles those of its bytes (`Csv.flatMap_quotedField`).  Inside quotes the reader takes one
byte of the field at a time (`Csv.Progress.foldl_doubled`), and what ends the field or the
record is read after the closing quote.
-/

namespace EstateFiling.Csv

/-! ## Writing -/

/-- What may stand after a record. -/
inductive LineEnd where
  /-- A line feed. -/
  | lineFeed
  /-- A carriage return. -/
  | carriageReturn
  /-- Both. -/
  | both
deriving DecidableEq, Repr

/-- The characters of a line end. -/
def LineEnd.chars : LineEnd → List Char
  | .lineFeed => ['\n']
  | .carriageReturn => ['\r']
  | .both => ['\r', '\n']

/-- A field in quotes, its own quotes doubled. -/
def quotedField (s : String) : List Char :=
  '"' :: s.toList.flatMap (fun c => if c = '"' then ['"', '"'] else [c]) ++ ['"']

/-- Fields in quotes with commas between them. -/
def quotedFields : List String → List Char
  | [] => []
  | [s] => quotedField s
  | s :: next :: rest => quotedField s ++ ',' :: quotedFields (next :: rest)

/-- A file of records, each with the line end after it. -/
def write (records : List (List String × LineEnd)) : String :=
  String.ofList (records.flatMap fun r => quotedFields r.1 ++ r.2.chars)

/-! ## Quotes in bytes -/

/-- Bytes with every quote doubled. -/
def doubled (bs : List UInt8) : List UInt8 :=
  bs.flatMap fun b => if b = quote then [quote, quote] else [b]

theorem doubled_cons (b : UInt8) (bs : List UInt8) :
    doubled (b :: bs) = (if b = quote then [quote, quote] else [b]) ++ doubled bs :=
  List.flatMap_cons

theorem doubled_append (bs bs' : List UInt8) :
    doubled (bs ++ bs') = doubled bs ++ doubled bs' :=
  List.flatMap_append

theorem doubled_eq_self {bs : List UInt8} (h : quote ∉ bs) : doubled bs = bs := by
  induction bs with
  | nil => rfl
  | cons b bs ih =>
    rw [List.mem_cons, not_or] at h
    rw [doubled_cons, if_neg (Ne.symm h.1), ih h.2]
    rfl

theorem flatMap_doubled_chars (cs : List Char) :
    (cs.flatMap fun c => if c = '"' then ['"', '"'] else [c]).flatMap String.utf8EncodeChar
      = doubled (cs.flatMap String.utf8EncodeChar) := by
  induction cs with
  | nil => rfl
  | cons c cs ih =>
    rw [List.flatMap_cons, List.flatMap_append, ih, List.flatMap_cons, doubled_append]
    refine congrArg (· ++ _) ?_
    by_cases isQuote : c = '"'
    · subst isQuote
      rfl
    · have unquoted : quote ∉ String.utf8EncodeChar c := fun h =>
        isQuote (Char.toNat_inj.mp (Text.eq_of_mem_utf8EncodeChar (by decide) h))
      rw [if_neg isQuote, List.flatMap_singleton]
      exact (doubled_eq_self unquoted).symm

/-- The bytes of a field in quotes. -/
theorem flatMap_quotedField (s : String) :
    (quotedField s).flatMap String.utf8EncodeChar
      = quote :: doubled (Text.toUtf8 s) ++ [quote] := by
  rw [quotedField, List.flatMap_append, List.flatMap_cons, flatMap_doubled_chars,
    ← Text.toUtf8_eq_flatMap]
  rfl

/-! ## Reading -/

namespace Progress

/-- Inside quotes, a doubled quote is one byte of the field like any other. -/
theorem foldl_doubled {p : Progress} (h : p.place = .quoted) (bs : List UInt8) :
    (doubled bs).foldl read p = { p with field := bs.reverse ++ p.field } := by
  induction bs generalizing p with
  | nil => rfl
  | cons b bs ih =>
    have step : (if b = quote then [quote, quote] else [b]).foldl read p
        = { p with field := b :: p.field } := by
      obtain ⟨place, field, fields, records⟩ := p
      obtain rfl : place = .quoted := h
      by_cases isQuote : b = quote
      · subst isQuote
        rfl
      · rw [if_neg isQuote, List.foldl_cons, read]
        exact if_neg (by simpa using isQuote)
    rw [doubled_cons, List.foldl_append, step]
    refine (ih (p := { p with field := b :: p.field }) h).trans ?_
    rw [List.reverse_cons, List.append_assoc]
    rfl

/-- A field in quotes is read up to its closing quote. -/
theorem foldl_quotedField {p : Progress} (h : p.place = .recordStart ∨ p.place = .fieldStart)
    (s : String) :
    ((quotedField s).flatMap String.utf8EncodeChar).foldl read p
      = { p with place := .afterQuote, field := (Text.toUtf8 s).reverse ++ p.field } := by
  have opened : p.read quote = { p with place := .quoted } := by
    rcases h with h | h <;> (rw [read, h]; rfl)
  rw [flatMap_quotedField, List.cons_append, List.foldl_cons, opened, List.foldl_append,
    foldl_doubled (p := { p with place := .quoted }) rfl]
  rfl

theorem read_comma {p : Progress} (h : p.place = .afterQuote) : p.read comma = p.endField := by
  rw [read, h]
  rfl

theorem foldl_lineEnd {p : Progress} (h : p.place = .afterQuote) (e : LineEnd) :
    (e.chars.flatMap String.utf8EncodeChar).foldl read p = p.endRecord := by
  obtain ⟨place, field, fields, records⟩ := p
  obtain rfl : place = .afterQuote := h
  cases e <;> rfl

/-- A record of fields in quotes is read up to its line end. -/
theorem foldl_record {fields : List String} (nonempty : fields ≠ []) (e : LineEnd) {p : Progress}
    (h : p.place = .recordStart ∨ p.place = .fieldStart) (empty : p.field = []) :
    ((quotedFields fields ++ e.chars).flatMap String.utf8EncodeChar).foldl read p
      = { records := (p.fields.reverse ++ fields.map Text.toUtf8) :: p.records } := by
  induction fields generalizing p with
  | nil => exact absurd rfl nonempty
  | cons s fields ih =>
    have first := foldl_quotedField h s
    rw [empty, List.append_nil] at first
    cases fields with
    | nil =>
      rw [quotedFields, List.flatMap_append, List.foldl_append, first, foldl_lineEnd rfl, endRecord,
        List.reverse_reverse, List.reverse_cons]
      rfl
    | cons next rest =>
      rw [quotedFields, List.append_assoc, List.flatMap_append, List.foldl_append, first,
        List.cons_append, List.flatMap_cons, List.foldl_append]
      have comma := read_comma
        (p := { p with place := .afterQuote, field := (Text.toUtf8 s).reverse }) rfl
      refine (congrArg (List.foldl read · _) comma).trans ?_
      rw [ih (List.cons_ne_nil next rest) (Or.inr rfl) rfl]
      simp [endField]

theorem foldl_records {rs : List (List String × LineEnd)} (nonempty : ∀ r ∈ rs, r.1 ≠ [])
    (before : List (List Field)) :
    ((rs.flatMap fun r => quotedFields r.1 ++ r.2.chars).flatMap String.utf8EncodeChar).foldl read
        { records := before }
      = { records := (rs.map fun r => r.1.map Text.toUtf8).reverse ++ before } := by
  induction rs generalizing before with
  | nil => rfl
  | cons r rs ih =>
    obtain ⟨first, others⟩ := List.forall_mem_cons.mp nonempty
    rw [List.flatMap_cons, List.flatMap_append, List.foldl_append,
      foldl_record first _ (Or.inl rfl) rfl, ih others, List.map_cons, List.reverse_cons,
      List.append_assoc]
    rfl

end Progress

theorem exists_cons_quotedFields {fields : List String} (nonempty : fields ≠ []) :
    ∃ cs, quotedFields fields = '"' :: cs := by
  cases fields with
  | nil => exact absurd rfl nonempty
  | cons s fields => cases fields <;> exact ⟨_, rfl⟩

/-- Records of fields in quotes come back. -/
theorem records_write {rs : List (List String × LineEnd)} (nonempty : ∀ r ∈ rs, r.1 ≠ []) :
    records (Text.toUtf8 (write rs)) = rs.map fun r => r.1.map Text.toUtf8 := by
  have noMark : withoutMark (Text.toUtf8 (write rs)) = Text.toUtf8 (write rs) := by
    rw [write, Text.toUtf8_ofList]
    cases rs with
    | nil => rfl
    | cons r rs =>
      obtain ⟨cs, first⟩ := exists_cons_quotedFields (nonempty r List.mem_cons_self)
      rw [List.flatMap_cons, first]
      rfl
  rw [records, noMark, write, Text.toUtf8_ofList]
  refine (congrArg Progress.finish (Progress.foldl_records nonempty [])).trans ?_
  rw [List.append_nil, Progress.finish, List.reverse_reverse]

end EstateFiling.Csv
