import DefectGraph.Csv.Reader
import DefectGraph.Csv.Table
import DefectGraph.Proofs.Utf8

/-!
# Reading a table that was written

The fields of a table are read back from its text, whatever characters they hold.

## Main Definitions

* `Reads` - bytes that take the reader from one state and record under way to another.
* `Plain` - a byte without a meaning of its own outside quotes.

## Main Statements

* `Reads.writeField` - a field that was written is read as its bytes.
* `recordsFrom_writeRow` - a row that was written is read as the bytes of its fields.
* `fields_records_text` - the records of a table's text are its header and its rows.

## Design Notes

A row of no fields and a row of one empty field are written as an empty line, which is passed over, so
neither can be read back. A text that starts with a byte order mark loses it.
-/

namespace DefectGraph.Csv

open DefectGraph.Text (Utf8.encode)

/-- The bytes of characters. -/
def bytesOf (cs : List Char) : List UInt8 := cs.flatMap String.utf8EncodeChar

/-- Texts are encoded one after the other. -/
@[simp]
theorem bytesOf_append (a b : List Char) : bytesOf (a ++ b) = bytesOf a ++ bytesOf b :=
  List.flatMap_append

@[simp]
theorem bytesOf_cons (c : Char) (cs : List Char) :
    bytesOf (c :: cs) = String.utf8EncodeChar c ++ bytesOf cs := List.flatMap_cons

/-- The bytes of a text are its encoding. -/
@[simp]
theorem bytesOf_toList (s : String) : bytesOf s.toList = Utf8.encode s :=
  (Text.Utf8.encode_eq_flatMap s).symm

/-! ### Bytes with a meaning of their own -/

/-- The byte is a part of a field wherever it stands outside quotes. -/
def Plain (b : UInt8) : Prop :=
  b ≠ comma ∧ b ≠ quoteMark ∧ b ≠ lineFeed ∧ b ≠ carriageReturn

/-- A byte of a character above ASCII is no byte of ASCII. -/
theorem ne_of_mem_encodeChar {c : Char} {b special : UInt8} (ascii : special.toNat < 0x80)
    (other : c.toNat ≠ special.toNat) (present : b ∈ String.utf8EncodeChar c) : b ≠ special := by
  rintro rfl
  by_cases above : 0x80 ≤ c.toNat
  · exact absurd (Text.Utf8.le_of_mem_encodeChar above present) (Nat.not_le_of_lt ascii)
  · rw [Text.Utf8.encodeChar_of_ascii (Nat.lt_of_not_le above), List.mem_singleton] at present
    apply other
    rw [present, Text.Utf8.toNat_byte (by omega)]

/-- The bytes of a character that needs no quotes are plain. -/
theorem plain_of_mem_encodeChar {c : Char} {b : UInt8}
    (free : (c == ',' || c == '"' || c == '\n' || c == '\r') = false)
    (present : b ∈ String.utf8EncodeChar c) : Plain b := by
  simp only [Bool.or_eq_false_iff, beq_eq_false_iff_ne, ne_eq] at free
  obtain ⟨⟨⟨notComma, notQuote⟩, notFeed⟩, notReturn⟩ := free
  have differs : ∀ special : Char, c ≠ special → c.toNat ≠ special.toNat := by
    intro special different same
    exact different (Char.toNat_inj.mp same)
  refine ⟨?_, ?_, ?_, ?_⟩
  · exact ne_of_mem_encodeChar (by decide) (differs ',' notComma) present
  · exact ne_of_mem_encodeChar (by decide) (differs '"' notQuote) present
  · exact ne_of_mem_encodeChar (by decide) (differs '\n' notFeed) present
  · exact ne_of_mem_encodeChar (by decide) (differs '\r' notReturn) present

/-! ### Runs of the reader inside a record -/

/-- The record under way with more bytes in its current field. -/
def Draft.pushAll (d : Draft) (bytes : List UInt8) : Draft :=
  { d with field := bytes.reverse ++ d.field }

@[simp]
theorem Draft.pushAll_cons (d : Draft) (b : UInt8) (bytes : List UInt8) :
    d.pushAll (b :: bytes) = (d.push b).pushAll bytes := by
  simp [pushAll, push]

/-- Bytes are added one after the other. -/
@[simp]
theorem Draft.pushAll_append (d : Draft) (a b : List UInt8) :
    d.pushAll (a ++ b) = (d.pushAll a).pushAll b := by
  simp [pushAll]

/-- The bytes take the reader from one state and record under way to another, whatever follows. -/
def Reads (bytes : List UInt8) (state : State) (d : Draft) (state' : State) (d' : Draft) : Prop :=
  ∀ p, ∃ p', ∀ rest, recordsFrom state p d (bytes ++ rest) = recordsFrom state' p' d' rest

namespace Reads

variable {state state' state'' : State} {d d' d'' : Draft} {bytes more : List UInt8}

theorem nil (state : State) (d : Draft) : Reads [] state d state d := fun p => ⟨p, fun _ => rfl⟩

/-- What is read in two parts is read in turn, with the second part from where the first one ends. -/
theorem append (first : Reads bytes state d state' d') (second : Reads more state' d' state'' d'') :
    Reads (bytes ++ more) state d state'' d'' := by
  intro p
  obtain ⟨between, readFirst⟩ := first p
  obtain ⟨after, readSecond⟩ := second between
  exact ⟨after, fun rest => by rw [List.append_assoc, readFirst, readSecond]⟩

/-- One byte that the record goes on after. -/
theorem step {b : UInt8} (goesOn : effect state d b = .goOn state' d') :
    Reads [b] state d state' d' := by
  intro p
  refine ⟨p.advance b, fun rest => ?_⟩
  rw [List.singleton_append, recordsFrom, goesOn]

/-- Plain bytes are a part of the field that they stand in. -/
theorem plain (allPlain : ∀ b ∈ bytes, Plain b) (d : Draft) :
    Reads bytes .inField d .inField (d.pushAll bytes) := by
  induction bytes generalizing d with
  | nil => exact nil _ _
  | cons b rest ih =>
    obtain ⟨notComma, notQuote, notFeed, notReturn⟩ := allPlain b List.mem_cons_self
    have first : effect .inField d b = .goOn .inField (d.push b) := by
      simp [effect, notComma, notFeed, notReturn]
    rw [Draft.pushAll_cons]
    exact (step first).append (ih (fun other later => allPlain other (List.mem_cons_of_mem _ later)) _)

/-- Bytes between quotes are a part of the field as long as none of them is a quote. -/
theorem quoted (noQuote : ∀ b ∈ bytes, b ≠ quoteMark) (d : Draft) :
    Reads bytes .inQuotes d .inQuotes (d.pushAll bytes) := by
  induction bytes generalizing d with
  | nil => exact nil _ _
  | cons b rest ih =>
    have first : effect .inQuotes d b = .goOn .inQuotes (d.push b) := by
      simp [effect, noQuote b List.mem_cons_self]
    rw [Draft.pushAll_cons]
    exact (step first).append (ih (fun other later => noQuote other (List.mem_cons_of_mem _ later)) _)

end Reads

/-! ### Fields -/

/-- A character as it is written between quotes. -/
def escape (c : Char) : List Char := if c == '"' then ['"', '"'] else [c]

/-- A doubled quote between quotes is one quote. -/
theorem Reads.doubled (d : Draft) : Reads [quoteMark, quoteMark] .inQuotes d .inQuotes (d.push quoteMark) :=
  (Reads.step (b := quoteMark) rfl).append (Reads.step (b := quoteMark) rfl)

/-- What stands between quotes is read as the characters that it was written for. -/
theorem Reads.escaped (cs : List Char) (d : Draft) :
    Reads (bytesOf (cs.flatMap escape)) .inQuotes d .inQuotes (d.pushAll (bytesOf cs)) := by
  induction cs generalizing d with
  | nil => exact .nil _ _
  | cons c rest ih =>
    rw [List.flatMap_cons, bytesOf_append, bytesOf_cons, Draft.pushAll_append]
    refine Reads.append ?_ (ih _)
    by_cases quote : c = '"'
    · subst quote
      exact Reads.doubled d
    · have single : bytesOf (escape c) = String.utf8EncodeChar c := by
        simp [escape, quote, bytesOf]
      rw [single]
      refine Reads.quoted (fun b present => ?_) d
      exact ne_of_mem_encodeChar (by decide) (fun same => quote (Char.toNat_inj.mp same)) present

/-- The reader can stand in these states when a field has been read. -/
def FieldRead (state : State) : Prop :=
  state = .startField ∨ state = .inField ∨ state = .afterQuote

/-- A field that was written is read as its bytes. -/
theorem Reads.writeField (field : List Char) (d : Draft) :
    ∃ state, FieldRead state ∧
      Reads (bytesOf (Csv.writeField field)) .startField d state (d.pushAll (bytesOf field)) := by
  unfold Csv.writeField
  by_cases quotes : needsQuotes field = true
  · refine ⟨.afterQuote, Or.inr (Or.inr rfl), ?_⟩
    have opening : Reads [quoteMark] .startField d .inQuotes d := .step rfl
    have closing : Reads [quoteMark] .inQuotes (d.pushAll (bytesOf field)) .afterQuote
        (d.pushAll (bytesOf field)) := .step rfl
    have whole := (opening.append (.escaped field d)).append closing
    have mark : bytesOf ['"'] = [quoteMark] := by decide
    rw [if_pos quotes, ← List.singleton_append, bytesOf_append, bytesOf_append, mark]
    exact whole
  · rw [if_neg quotes]
    have free : ∀ b ∈ bytesOf field, Plain b := by
      intro b present
      obtain ⟨c, among, here⟩ := List.mem_flatMap.mp present
      refine plain_of_mem_encodeChar (Bool.eq_false_iff.mpr fun special => quotes ?_) here
      exact List.any_eq_true.mpr ⟨c, among, special⟩
    -- The first byte of a field decides that it is no quoted one.
    cases bytes : bytesOf field with
    | nil => exact ⟨.startField, Or.inl rfl, .nil _ _⟩
    | cons b rest =>
      rw [bytes] at free
      obtain ⟨notComma, notQuote, notFeed, notReturn⟩ := free b List.mem_cons_self
      have first : effect .startField d b = .goOn .inField (d.push b) := by
        simp [effect, notComma, notQuote, notFeed, notReturn]
      refine ⟨.inField, Or.inr (Or.inl rfl), ?_⟩
      rw [Draft.pushAll_cons]
      exact (Reads.step first).append
        (.plain (fun other later => free other (List.mem_cons_of_mem _ later)) _)

/-- A comma ends a field. -/
theorem effect_comma {state : State} (read : FieldRead state) (d : Draft) :
    effect state d comma = .goOn .startField d.endField := by
  rcases read with rfl | rfl | rfl <;> rfl

/-- A line break ends a record. -/
theorem effect_lineFeed {state : State} (read : FieldRead state) (d : Draft) :
    effect state d lineFeed = .ends .startRecord := by
  rcases read with rfl | rfl | rfl <;> rfl

/-! ### Rows -/

@[simp]
theorem writeRow_singleton (field : String) :
    writeRow [field] = writeField field.toList ++ ['\n'] := by
  simp [writeRow, List.intercalate]

/-- A comma separates a field from the next one. -/
theorem writeRow_cons (field next : String) (rest : List String) :
    writeRow (field :: next :: rest) = writeField field.toList ++ ',' :: writeRow (next :: rest) := by
  simp [writeRow, List.intercalate]

/-- A row that was written is read as the bytes of its fields. -/
theorem recordsFrom_writeRow (field : String) (rest : List String) (p : Position) (d : Draft)
    (fresh : d.field = []) :
    ∃ q, ∀ after, recordsFrom .startField p d (bytesOf (writeRow (field :: rest)) ++ after) =
      ⟨d.fields.reverse ++ (field :: rest).map Utf8.encode, d.start⟩ ::
        recordsFrom .startRecord q (.startingAt q) after := by
  induction rest generalizing field p d with
  | nil =>
    obtain ⟨state, ended, reads⟩ := Reads.writeField field.toList d
    obtain ⟨between, read⟩ := reads p
    refine ⟨{ between.advance lineFeed with record := between.record + 1 }, fun after => ?_⟩
    have lineEnd : bytesOf ['\n'] = [lineFeed] := by decide
    rw [writeRow_singleton, bytesOf_append, List.append_assoc, read, lineEnd, List.singleton_append,
      recordsFrom, effect_lineFeed ended]
    simp [Draft.finish, Draft.endField, Draft.pushAll, fresh, bytesOf_toList]
  | cons next rest ih =>
    obtain ⟨state, ended, reads⟩ := Reads.writeField field.toList d
    have toNext := reads.append (.step (effect_comma ended _))
    obtain ⟨between, read⟩ := toNext p
    obtain ⟨q, others⟩ := ih next between (d.pushAll (bytesOf field.toList)).endField rfl
    refine ⟨q, fun after => ?_⟩
    have separator : bytesOf [','] = [comma] := by decide
    have row : bytesOf (writeRow (field :: next :: rest)) ++ after =
        bytesOf (writeField field.toList) ++ [comma] ++ (bytesOf (writeRow (next :: rest)) ++ after) := by
      rw [writeRow_cons, ← List.singleton_append, bytesOf_append, bytesOf_append, separator]
      simp
    rw [row, read, others]
    simp [Draft.endField, Draft.pushAll, fresh, bytesOf_toList]

/-! ### Tables -/

/-- The row is not written as an empty line. -/
def Visible (row : List String) : Prop := row ≠ [] ∧ row ≠ [""]

/-- A field that is not empty is written with something in front that ends no line. -/
theorem head_writeField (c : Char) (cs : List Char) :
    ∃ first rest, writeField (c :: cs) = first :: rest ∧ first ≠ '\n' ∧ first ≠ '\r' := by
  unfold writeField
  by_cases quotes : needsQuotes (c :: cs) = true
  · rw [if_pos quotes]
    exact ⟨'"', _, rfl, by decide, by decide⟩
  · rw [if_neg quotes]
    refine ⟨c, cs, rfl, ?_, ?_⟩
    · rintro rfl
      exact quotes rfl
    · rintro rfl
      exact quotes rfl

/-- A row that can be told from no row does not start with a line break. -/
theorem head_writeRow {row : List String} (visible : Visible row) :
    ∃ first rest, writeRow row = first :: rest ∧ first ≠ '\n' ∧ first ≠ '\r' := by
  obtain ⟨field, others, rfl⟩ := List.exists_cons_of_ne_nil visible.1
  cases chars : field.toList with
  | cons c cs =>
    obtain ⟨first, rest, written, notFeed, notReturn⟩ := head_writeField c cs
    cases others with
    | nil => exact ⟨first, _, by rw [writeRow_singleton, chars, written]; rfl, notFeed, notReturn⟩
    | cons next more =>
      exact ⟨first, _, by rw [writeRow_cons, chars, written]; rfl, notFeed, notReturn⟩
  | nil =>
    have empty : field = "" := String.toList_eq_nil_iff.mp chars
    subst empty
    cases others with
    | nil => exact absurd rfl visible.2
    | cons next more => exact ⟨',', _, by rw [writeRow_cons]; rfl, by decide, by decide⟩

/-- At the start of a record, a byte that ends no line is read like the start of a field. -/
theorem recordsFrom_startRecord {bytes : List UInt8} {b : UInt8} {rest : List UInt8}
    (front : bytes = b :: rest) (noEnd : endsRecord b = false) (p : Position) (d : Draft) :
    recordsFrom .startRecord p d bytes = recordsFrom .startField p d bytes := by
  rw [front, recordsFrom, recordsFrom]
  have same : effect .startRecord d b = effect .startField d b := by simp [effect, noEnd]
  rw [same]

/-- The first byte of a row that can be seen ends no line. -/
theorem head_bytesOf_writeRow {row : List String} (visible : Visible row) (after : List UInt8) :
    ∃ b rest, bytesOf (writeRow row) ++ after = b :: rest ∧ endsRecord b = false := by
  obtain ⟨c, chars, written, notFeed, notReturn⟩ := head_writeRow visible
  obtain ⟨b, tail, bytes, _⟩ := Text.Utf8.piece_encodeChar c []
  have present : b ∈ String.utf8EncodeChar c := by rw [bytes]; exact List.mem_cons_self
  refine ⟨b, _, by rw [written, bytesOf_cons, bytes]; rfl, ?_⟩
  have differs : ∀ special : Char, c ≠ special → c.toNat ≠ special.toNat :=
    fun special different same => different (Char.toNat_inj.mp same)
  have noFeed : b ≠ lineFeed := ne_of_mem_encodeChar (by decide) (differs '\n' notFeed) present
  have noReturn : b ≠ carriageReturn :=
    ne_of_mem_encodeChar (by decide) (differs '\r' notReturn) present
  simp [endsRecord, noFeed, noReturn]

/-- Rows that were written are read as the bytes of their fields. -/
theorem fields_recordsFrom_rows (rows : List (List String)) (visible : ∀ row ∈ rows, Visible row)
    (p start : Position) :
    (recordsFrom .startRecord p (.startingAt start) (bytesOf (rows.flatMap writeRow))).map
        RawRecord.fields =
      rows.map fun row => row.map Utf8.encode := by
  induction rows generalizing p start with
  | nil => rfl
  | cons row rest ih =>
    rw [List.flatMap_cons, bytesOf_append]
    have here := visible row List.mem_cons_self
    obtain ⟨b, after, front, noEnd⟩ := head_bytesOf_writeRow here (bytesOf (rest.flatMap writeRow))
    rw [recordsFrom_startRecord front noEnd]
    obtain ⟨field, fields, rfl⟩ := List.exists_cons_of_ne_nil here.1
    obtain ⟨q, read⟩ := recordsFrom_writeRow field fields p (.startingAt start) rfl
    rw [read, List.map_cons, ih fun other later => visible other (List.mem_cons_of_mem _ later)]
    rfl

/-- The records of a table's text are its header and its rows. -/
theorem fields_records_text (t : Table) (filled : t.rows ≠ [])
    (visible : ∀ row ∈ t.header :: t.rows, Visible row)
    (ascii : ∀ c ∈ t.text.toList.head?, c.toNat < 0x80) :
    (records (Utf8.encode t.text)).map RawRecord.fields =
      (t.header :: t.rows).map fun row => row.map Utf8.encode := by
  have text : t.text.toList = (t.header :: t.rows).flatMap writeRow := by
    have notEmpty : t.rows.isEmpty = false := by simpa using filled
    simp [Table.text, notEmpty]
  rw [← bytesOf_toList, ← fields_recordsFrom_rows _ visible ⟨0, 1, 0⟩ ⟨0, 1, 0⟩, ← text]
  -- A text that starts with a character of ASCII has no byte order mark.
  cases chars : t.text.toList with
  | nil => rfl
  | cons c cs =>
    have small : c.toNat < 0x80 := ascii c (by simp [chars])
    have noMark : UInt8.ofNat c.toNat ≠ 0xEF := by
      intro mark
      have number := congrArg UInt8.toNat mark
      rw [Text.Utf8.toNat_byte (by omega)] at number
      have : c.toNat = 239 := number
      omega
    rw [bytesOf_cons, Text.Utf8.encodeChar_of_ascii small, List.singleton_append, records]
    intro rest same
    exact absurd (List.cons.inj same).1 noMark

end DefectGraph.Csv
