import DefectGraph.Proofs.CsvTable
import DefectGraph.Proofs.Integers
import DefectGraph.Proofs.Job

/-!
# Bug records are read back from their table

## Main Definitions

* `Trimmed` - a text without white space around it.
* `BugRecord.Writable` - a record whose texts have no white space around them and whose count fits.

## Main Statements

* `readCount_toString` - a count is read back from its digits.
* `fieldTexts_encode` - texts without white space around them are read back from their bytes.
* `BugRecord.ofRow_cells` - a record is read back from its row.
* `readAll_writeTable` - records are read back from the file that their table was written to.

## Design Notes

A count and a text come back for different reasons, so the two are kept apart: `readCount_toString` goes
through the digits of a number, and `fieldTexts_encode` through the bytes of a text and the white space that
is trimmed from them. `BugRecord.Writable` is what the two need together, and it is decidable, so that a
table can be checked before it is written.
-/

namespace DefectGraph

open DefectGraph.Number DefectGraph.Csv

/-! ### Counts -/

namespace BugRecord

/-- A count is read back from its digits. -/
theorem readCount_toString (n : Int) (least : Bounds.signed64.least ≤ n)
    (greatest : n ≤ Bounds.signed64.greatest) : readCount (toString n) = .ok n := by
  have parsed := Integer.parse_toString least greatest
  unfold readCount
  split
  · -- No digit is an `x`.
    rename_i rest front
    rw [front] at parsed
    cases parsed
  · exact parsed

end BugRecord

/-! ### Texts -/

/-- The text has no white space around it. -/
structure Trimmed (s : String) : Prop where
  front : ∀ c ∈ s.toList.head?, Text.isSpace c = false
  back : ∀ c ∈ s.toList.getLast?, Text.isSpace c = false

-- Over all characters the two fields would be decidable too, but by trying every character there is.
instance (s : String) : Decidable (Trimmed s) :=
  decidable_of_iff (s.toList.head?.all (fun c => Text.isSpace c == false) = true ∧
      s.toList.getLast?.all (fun c => Text.isSpace c == false) = true)
    (by
      simp only [Option.all_eq_true, beq_iff_eq]
      exact ⟨fun ⟨front, back⟩ => ⟨front, back⟩, fun trimmed => ⟨trimmed.front, trimmed.back⟩⟩)

/-- Nothing is dropped when the first member stays. -/
theorem dropWhile_eq_self {α : Type} {p : α → Bool} {l : List α}
    (front : ∀ a ∈ l.head?, p a = false) : l.dropWhile p = l := by
  cases l with
  | nil => rfl
  | cons a rest => simp [front a rfl]

/-- Nothing is dropped from the ends of a list where it ends otherwise. -/
theorem dropEnds_eq_self {α : Type} {p : α → Bool} {l : List α} (front : ∀ a ∈ l.head?, p a = false)
    (back : ∀ a ∈ l.getLast?, p a = false) :
    ((l.dropWhile p).reverse.dropWhile p).reverse = l := by
  rw [dropWhile_eq_self front, dropWhile_eq_self, List.reverse_reverse]
  rw [List.head?_reverse]
  exact back

/-- A character with a byte that is a plain blank is white space. -/
theorem isSpace_of_mem_encodeChar {c : Char} {b : UInt8} (present : b ∈ String.utf8EncodeChar c)
    (blank : BugRecord.isPlainSpace b = true) : Text.isSpace c = true := by
  have small : b.toNat < 0x80 := by
    simp only [BugRecord.isPlainSpace, Bool.or_eq_true, beq_iff_eq] at blank
    rcases blank with (((rfl | rfl) | rfl) | rfl) | rfl <;> decide
  have same : c.toNat = b.toNat := by
    by_contra other
    exact ne_of_mem_encodeChar small other present rfl
  have ascii : c.toNat < 0x80 := same ▸ small
  have char : c = Char.ofNat b.toNat := by rw [← same, Char.ofNat_toNat]
  simp only [BugRecord.isPlainSpace, Bool.or_eq_true, beq_iff_eq] at blank
  rcases blank with (((rfl | rfl) | rfl) | rfl) | rfl <;> rw [char] <;> decide

/-- The first byte belongs to the first character. -/
theorem mem_head?_bytesOf {cs : List Char} {b : UInt8} (first : b ∈ (bytesOf cs).head?) :
    ∃ c ∈ cs.head?, b ∈ String.utf8EncodeChar c := by
  cases cs with
  | nil => cases first
  | cons c rest =>
    refine ⟨c, rfl, ?_⟩
    rw [bytesOf_cons, List.head?_append_of_ne_nil _ String.utf8EncodeChar_ne_nil] at first
    exact List.mem_of_mem_head? first

/-- The last byte belongs to the last character. -/
theorem mem_getLast?_bytesOf {cs : List Char} {b : UInt8} (last : b ∈ (bytesOf cs).getLast?) :
    ∃ c ∈ cs.getLast?, b ∈ String.utf8EncodeChar c := by
  rcases List.eq_nil_or_concat cs with rfl | ⟨before, c, rfl⟩
  · cases last
  · refine ⟨c, by simp, ?_⟩
    have single : bytesOf [c] = String.utf8EncodeChar c := by simp [bytesOf]
    rw [List.concat_eq_append, bytesOf_append, single,
      List.getLast?_append_of_ne_nil _ String.utf8EncodeChar_ne_nil] at last
    exact List.mem_of_getLast? last

namespace Trimmed

variable {s : String}

/-- A trimmed text has nothing to trim. -/
theorem trim_toList (trimmed : Trimmed s) : Text.trim s.toList = s.toList :=
  dropEnds_eq_self trimmed.front trimmed.back

/-- The bytes of a trimmed text have no plain blanks around them. -/
theorem trimPlain_encode (trimmed : Trimmed s) :
    BugRecord.trimPlain (Text.Utf8.encode s) = Text.Utf8.encode s := by
  have notBlank : ∀ c b, Text.isSpace c = false → b ∈ String.utf8EncodeChar c →
      BugRecord.isPlainSpace b = false := by
    intro c b visible present
    cases blank : BugRecord.isPlainSpace b with
    | false => rfl
    | true => rw [isSpace_of_mem_encodeChar present blank] at visible; cases visible
  rw [← bytesOf_toList]
  refine dropEnds_eq_self (fun b first => ?_) (fun b last => ?_)
  · obtain ⟨c, front, present⟩ := mem_head?_bytesOf first
    exact notBlank c b (trimmed.front c front) present
  · obtain ⟨c, back, present⟩ := mem_getLast?_bytesOf last
    exact notBlank c b (trimmed.back c back) present

/-- A text without any white space is trimmed. -/
theorem of_forall (visible : ∀ c ∈ s.toList, Text.isSpace c = false) : Trimmed s :=
  ⟨fun c first => visible c (List.mem_of_mem_head? first),
    fun c last => visible c (List.mem_of_getLast? last)⟩

/-- The digits of a count are trimmed. -/
theorem toString_int (n : Int) : Trimmed (toString n) := by
  have digit : ∀ {m : Nat} {c : Char}, c ∈ Nat.toDigits 10 m → Text.isSpace c = false := by
    intro m c present
    obtain ⟨low, high⟩ := Integer.toNat_of_isDigit (Integer.isDigit_of_mem present)
    have noBlank : c ≠ ' ' := by
      rintro rfl
      exact absurd low (by decide)
    have ascii : c.toNat < 0x80 := by omega
    simp [Text.isSpace, ascii, noBlank]
    omega
  refine of_forall fun c present => ?_
  cases n with
  | ofNat m =>
    rw [Integer.toList_toString_ofNat] at present
    exact digit present
  | negSucc m =>
    rw [Integer.toList_toString_negSucc] at present
    rcases List.mem_cons.mp present with rfl | later
    · decide
    · exact digit later

end Trimmed

/-! ### Rows -/

namespace BugRecord

/-- Trimmed texts are read back from their bytes. -/
theorem fieldTexts_encode (index : Nat) (texts : List String) (trimmed : ∀ s ∈ texts, Trimmed s) :
    fieldTexts index (texts.map Text.Utf8.encode) = .ok texts := by
  induction texts generalizing index with
  | nil => rfl
  | cons s rest ih =>
    have here := trimmed s List.mem_cons_self
    have others := ih (index + 1) fun other later => trimmed other (List.mem_cons_of_mem _ later)
    simp only [List.map_cons, fieldTexts, here.trimPlain_encode, Text.Utf8.decode?_encode,
      here.trim_toList, String.ofList_toList, others]
    rfl

/-- A column is found by its name. -/
theorem column?_name (column : Column) : column? column.name = some column := by
  cases column <;> decide

/-- A field is put under its column, when there is none for the column yet and a count can be read. -/
theorem place_cons {found : List Placed} {index : Nat} {column : Column} {text : String}
    (rest : List (String × String)) (new : (found.any fun p => p.column == column) = false)
    (count : column = .bugs → ∃ value, readCount text = .ok value) :
    place found index ((column.name, text) :: rest) =
      place (found ++ [⟨column, index, text⟩]) (index + 1) rest := by
  rw [place, column?_name]
  simp only [new, Bool.false_eq_true, if_false]
  split
  · rename_i fault bad
    obtain ⟨value, read⟩ := count rfl
    simp [placedCount, read] at bad
  · rfl

/-- A record that can be written so that it is read back: no text has white space around it, and the
count is a signed integer of 64 bits. -/
structure Writable (r : BugRecord) : Prop where
  project : Trimmed r.project
  sourceFile : Trimmed r.sourceFile
  hash : Trimmed r.hash
  longName : Trimmed r.longName
  parent : Trimmed r.parent
  least : Bounds.signed64.least ≤ r.bugs
  greatest : r.bugs ≤ Bounds.signed64.greatest

instance (r : BugRecord) : Decidable r.Writable :=
  decidable_of_iff (Trimmed r.project ∧ Trimmed r.sourceFile ∧ Trimmed r.hash ∧ Trimmed r.longName ∧
      Trimmed r.parent ∧ Bounds.signed64.least ≤ r.bugs ∧ r.bugs ≤ Bounds.signed64.greatest)
    ⟨fun ⟨project, sourceFile, hash, longName, parent, least, greatest⟩ =>
      ⟨project, sourceFile, hash, longName, parent, least, greatest⟩,
    fun w => ⟨w.project, w.sourceFile, w.hash, w.longName, w.parent, w.least, w.greatest⟩⟩

/-- The names of the columns are read back as they are. -/
theorem Column.trimmed_name (column : Column) : Trimmed column.name := by
  cases column <;> decide +kernel

theorem Writable.trimmed {r : BugRecord} (writable : r.Writable) (column : Column) :
    Trimmed (r.cell column) := by
  cases column with
  | project => exact writable.project
  | sourceFile => exact writable.sourceFile
  | hash => exact writable.hash
  | longName => exact writable.longName
  | parent => exact writable.parent
  | bugs => exact Trimmed.toString_int r.bugs

/-- The count of bugs is read back from its cell. -/
theorem Writable.count {r : BugRecord} (writable : r.Writable) :
    readCount (r.cell .bugs) = .ok r.bugs :=
  readCount_toString r.bugs writable.least writable.greatest

/-- The cells of a record under the columns that they belong to. -/
def placedCells (r : BugRecord) : List Placed :=
  [⟨.project, 0, r.cell .project⟩, ⟨.sourceFile, 1, r.cell .sourceFile⟩, ⟨.hash, 2, r.cell .hash⟩,
    ⟨.longName, 3, r.cell .longName⟩, ⟨.parent, 4, r.cell .parent⟩, ⟨.bugs, 5, r.cell .bugs⟩]

/-- The cells of a record stand under the names of their columns. -/
theorem place_cells {r : BugRecord} (writable : r.Writable) :
    place [] 0 ((columns.map Column.name).zip (columns.map r.cell)) = .ok r.placedCells := by
  simp only [columns, List.map_cons, List.map_nil, List.zip_cons_cons, List.zip_nil_right]
  rw [place_cons _ rfl (by simp), place_cons _ rfl (by simp), place_cons _ rfl (by simp),
    place_cons _ rfl (by simp), place_cons _ rfl (by simp),
    place_cons _ rfl fun _ => ⟨_, writable.count⟩]
  rfl

/-- A record is read back from its cells. -/
theorem ofPlaced_cells {r : BugRecord} (writable : r.Writable) :
    ofPlaced r.placedCells = .ok r := by
  have counted : placedCount ⟨.bugs, 5, r.cell .bugs⟩ = .ok r.bugs := by
    simp only [placedCount, writable.count]
  have fields : ofPlaced r.placedCells = (placedCount ⟨.bugs, 5, r.cell .bugs⟩).bind fun bugs =>
      .ok ⟨r.project, r.sourceFile, r.hash, r.longName, r.parent, bugs⟩ := rfl
  rw [fields, counted]
  rfl

/-- A record is read back from its row. -/
theorem ofRow_cells {r : BugRecord} (writable : r.Writable) {header row : RawRecord}
    (names : header.fields = (columns.map Column.name).map Text.Utf8.encode)
    (cells : row.fields = (columns.map r.cell).map Text.Utf8.encode) : ofRow header row = .ok r := by
  have texts : fieldTexts 0 row.fields = .ok (columns.map r.cell) := by
    rw [cells]
    refine fieldTexts_encode 0 _ fun s present => ?_
    obtain ⟨column, _, rfl⟩ := List.mem_map.mp present
    exact writable.trimmed column
  have headings : fieldTexts 0 header.fields = .ok (columns.map Column.name) := by
    rw [names]
    refine fieldTexts_encode 0 _ fun s present => ?_
    obtain ⟨column, _, rfl⟩ := List.mem_map.mp present
    exact column.trimmed_name
  have sameLength : (row.fields.length != header.fields.length) = false := by
    rw [cells, names]
    rfl
  unfold ofRow
  simp only [sameLength, Bool.false_eq_true, if_false, texts, headings, bind, Except.bind,
    place_cells writable, ofPlaced_cells writable]

/-- Records are read back from their rows. -/
theorem ofRows_cells (path : Path) {header : RawRecord}
    (names : header.fields = (columns.map Column.name).map Text.Utf8.encode) (number : Nat)
    (records : List BugRecord) (writable : ∀ r ∈ records, r.Writable) (rows : List RawRecord)
    (cells : rows.map RawRecord.fields =
      records.map fun r => (columns.map r.cell).map Text.Utf8.encode) :
    ofRows path header number rows = .ok records := by
  induction records generalizing number rows with
  | nil =>
    rw [List.map_nil, List.map_eq_nil_iff] at cells
    rw [cells]
    rfl
  | cons r rest ih =>
    obtain ⟨row, others, rfl, here, later⟩ := List.map_eq_cons_iff.mp cells
    have read := ofRow_cells (writable r List.mem_cons_self) names here
    have remaining := ih (number + 1) (fun other among => writable other (List.mem_cons_of_mem _ among))
      others later
    simp only [ofRows, read, remaining]
    rfl

/-- Records are read back from the text of their table. -/
theorem ofBytes_text (path : Path) (records : List BugRecord) (writable : ∀ r ∈ records, r.Writable) :
    ofBytes path (Text.Utf8.encode (table records).text) = .ok records := by
  by_cases none : records = []
  · subst none
    have nothing : Csv.records (Text.Utf8.encode (table []).text) = [] := by decide +kernel
    rw [ofBytes, nothing]
  · have filled : (table records).rows ≠ [] := by simpa [table] using none
    have visible : ∀ row ∈ (table records).header :: (table records).rows, Visible row := by
      intro row present
      rcases List.mem_cons.mp present with rfl | among
      · exact (by decide : columns.map Column.name ≠ [] ∧ columns.map Column.name ≠ [""])
      · obtain ⟨r, _, rfl⟩ := List.mem_map.mp among
        exact ⟨by simp [columns], by simp [columns]⟩
    have start : (table records).text.toList.head? = some 'P' := by
      have notEmpty : (table records).rows.isEmpty = false := by simpa using filled
      have header : ∃ rest, writeRow (columns.map Column.name) = 'P' :: rest := ⟨_, rfl⟩
      obtain ⟨rest, row⟩ := header
      have same : writeRow (table records).header = 'P' :: rest := row
      simp [Table.text, notEmpty, same]
    have fields := fields_records_text (table records) filled visible (by simp [start])
    rw [ofBytes]
    cases read : Csv.records (Text.Utf8.encode (table records).text) with
    | nil =>
      rw [read] at fields
      cases fields
    | cons header rows =>
      rw [read] at fields
      obtain ⟨names, cells⟩ := List.cons.inj fields
      refine ofRows_cells path names 2 records writable rows ?_
      rw [cells, table, List.map_map]
      rfl

end BugRecord

/-! ### Files -/

/-- Records are read back from the file that their table was written to, in the same order, whatever
characters their texts hold, as long as no text has white space around it. -/
theorem readAll_writeTable (records : List BugRecord) (writable : ∀ r ∈ records, r.Writable)
    (path : Path) (w after : Workspace)
    (written : (Job.writeTable (BugRecord.table records) path).exec w = (.ok (), after)) :
    BugRecord.readAll after.files path = .ok records := by
  obtain ⟨⟨place, located, content⟩, _⟩ := Job.writeTable_ok written
  have found : after.files.find path =
      .ok (.file (Text.Utf8.encode (BugRecord.table records).text)) := by
    simp [FileStore.find, located, content, bind, Except.bind, pure, Except.pure]
  rw [BugRecord.readAll, found]
  exact BugRecord.ofBytes_text path records writable

/-- Records with separators, quotes, line ends and nothing at all in their texts, and with the least and
the greatest count. -/
def unusualRecords : List BugRecord :=
  [⟨"", "a,b \"c\"", "x\r\n\r\ny", "\"", "\u00e9,\u540d", -9223372036854775808⟩,
    ⟨",", "\"\"\"", "", "m(\t)\rV", "0x1", 9223372036854775807⟩,
    ⟨"", "", "", "", "", 0⟩]

/-- Quotes, line breaks, commas and large counts survive being written and read. -/
theorem readAll_writeTable_of_unusual :
    (∀ r ∈ unusualRecords, r.Writable) ∧
    ∃ after, (Job.writeTable (BugRecord.table unusualRecords) "out/bugs.csv").exec
        ⟨.empty, .zero, []⟩ = (.ok (), after) ∧
      BugRecord.readAll after.files "out/bugs.csv" = .ok unusualRecords := by
  have writable : ∀ r ∈ unusualRecords, r.Writable := by decide +kernel
  have possible : ((Job.writeTable (BugRecord.table unusualRecords) "out/bugs.csv").exec
      ⟨.empty, .zero, []⟩).1.toOption.isSome = true := by
    decide +kernel
  obtain ⟨_, done⟩ := Job.exec_ok_of_toOption possible
  exact ⟨writable, _, done, readAll_writeTable unusualRecords writable "out/bugs.csv" _ _ done⟩

end DefectGraph
