import DefectGraph.Config
import DefectGraph.Proofs.FileStore
import DefectGraph.Proofs.Integers
import DefectGraph.Proofs.QuotedText
import DefectGraph.Proofs.Utf8
import Mathlib.Data.List.TakeDrop

/-!
# Settings are read back from their document

## Main Definitions

* `Line` - a line of a document that gives a plain key its value.

## Main Statements

* `value?_toDigits`, `value?_quote` - numbers and texts are read back up to the end of their line.
* `lines?_line`, `read?_lines` - one line adds one entry, and a document of lines has their entries.
* `Config.load_toToml` - settings are loaded from the document that they are written to.

## Design Notes

Reading a document goes line by line with an ever shorter bound of rounds. `Line` holds a line together with
the proofs that its key and its value are read back, so that a document is a list of lines and the
induction over it never looks at a key or a value again. A `Config` has four such lines, `Config.lines`; the
count of workers needs a bound because the numbers of a document have 64 bits with a sign.
-/

namespace DefectGraph.Toml

open DefectGraph.Number

/-! ### Plain keys -/

/-- The characters in front of the first one that fails a test. -/
theorem span_append {test : Char → Bool} {front rest : List Char} (all : ∀ c ∈ front, test c = true)
    (ends : ∀ c ∈ rest.head?, test c = false) : (front ++ rest).span test = (front, rest) := by
  rw [List.span_eq_takeWhile_dropWhile, List.takeWhile_append_of_pos all, List.dropWhile_append_of_pos all]
  cases rest with
  | nil => simp
  | cons c rest => simp [ends c rfl]

theorem ne_of_test {test : Char → Bool} {c d : Char} (passes : test c = true) (fails : test d = false) :
    c ≠ d := by
  rintro rfl
  rw [passes] at fails
  cases fails

theorem dropBlanks_cons {c : Char} (visible : isLineBlank c = false) (rest : List Char) :
    dropBlanks (c :: rest) = c :: rest := by
  simp [dropBlanks, visible]

/-- Keys hold no blanks. -/
theorem isLineBlank_of_isKeyChar {c : Char} (key : isKeyChar c = true) : isLineBlank c = false := by
  have blank := ne_of_test key (show isKeyChar ' ' = false by decide)
  have tab := ne_of_test key (show isKeyChar '\t' = false by decide)
  simp [isLineBlank, blank, tab]

/-- A name that can be written as a key without quotes. -/
structure IsPlainKey (name : String) : Prop where
  filled : name.toList ≠ []
  chars : name.toList.all isKeyChar = true

theorem IsPlainKey.isKeyChar {name : String} (plain : IsPlainKey name) :
    ∀ c ∈ name.toList, isKeyChar c = true :=
  List.all_eq_true.mp plain.chars

/-- A key is not empty. -/
theorem IsPlainKey.front {name : String} (plain : IsPlainKey name) :
    ∃ c rest, name.toList = c :: rest ∧ Toml.isKeyChar c = true := by
  obtain ⟨c, rest, split⟩ := List.exists_cons_of_ne_nil plain.filled
  exact ⟨c, rest, split, plain.isKeyChar c (by simp [split])⟩

/-- A plain key is read up to the first character that cannot belong to it. -/
theorem simpleKey?_plain {name : String} (plain : IsPlainKey name) {rest : List Char}
    (ends : ∀ c ∈ rest.head?, isKeyChar c = false) :
    simpleKey? (name.toList ++ rest) = some (name, rest) := by
  have noQuotes : quotedLine? (name.toList ++ rest) = none := by
    obtain ⟨c, more, split, key⟩ := plain.front
    have basic := ne_of_test key (show isKeyChar '"' = false by decide)
    have literal := ne_of_test key (show isKeyChar '\'' = false by decide)
    simp [split, quotedLine?, basic, literal]
  rw [simpleKey?, noQuotes, span_append plain.isKeyChar ends]
  simp [plain.filled]

/-- A plain key before an equals sign is read as a single name. -/
theorem key?_plain {name : String} (plain : IsPlainKey name) (r : Char) (rounds rest : List Char) :
    key? (r :: rounds) (name.toList ++ ' ' :: '=' :: rest) = some ([name], '=' :: rest) := by
  have simple : simpleKey? (name.toList ++ ' ' :: '=' :: rest) = some (name, ' ' :: '=' :: rest) :=
    simpleKey?_plain plain (by simp; decide)
  obtain ⟨c, more, split, key⟩ := plain.front
  rw [split, List.cons_append] at simple ⊢
  rw [key?, dropBlanks_cons (isLineBlank_of_isKeyChar key), simple]
  simp [dropBlanks, isLineBlank]

/-- A key that a table does not have yet is added behind all others. -/
theorem addUnder?_fresh {entries : Entries} {key : String} (fresh : key ∉ entries.map Prod.fst)
    (value : Value) : addUnder? [] [key] value entries = some (entries ++ [(key, .value value)]) := by
  have missing : entries.lookup key = none := by
    rw [List.lookup_eq_none_iff]
    intro entry present
    simp only [bne_iff_ne, ne_eq]
    rintro rfl
    exact fresh (List.mem_map_of_mem present)
  simp [addUnder?, addKey?, changeAt?, Entries.get?, Entries.put, missing]

/-! ### Values on a line -/

/-- A run of scalar characters up to the end of its line is read as the scalar that it is. -/
theorem value?_run {depth : Nat} {run rest : List Char} {value : Value} (filled : run ≠ [])
    (chars : ∀ c ∈ run, isScalarChar c = true) (scalar : scalar? run = some value) :
    value? depth (dropBlanks (run ++ '\n' :: rest)) = some (value, '\n' :: rest) := by
  have whole : splitScalar (run ++ '\n' :: rest) = (run, '\n' :: rest) := by
    unfold splitScalar
    rw [span_append chars (by simp; decide)]
    dsimp only
    rcases date? run with _ | ⟨date, _ | ⟨c, more⟩⟩ <;> rfl
  obtain ⟨c, more, rfl⟩ := List.exists_cons_of_ne_nil filled
  have apart : ∀ d, isScalarChar d = false → c ≠ d := fun _ => ne_of_test (chars c List.mem_cons_self)
  have visible : isLineBlank c = false := by
    simp [isLineBlank, apart ' ' (by decide), apart '\t' (by decide)]
  rw [List.cons_append] at whole ⊢
  rw [dropBlanks_cons visible]
  unfold value?
  split
  · next same => exact absurd (List.cons.inj same).1 (apart '[' (by decide))
  · next same => exact absurd (List.cons.inj same).1 (apart '{' (by decide))
  · next same => exact absurd (List.cons.inj same).1 (apart '"' (by decide))
  · next same => exact absurd (List.cons.inj same).1 (apart '\'' (by decide))
  · rw [whole]
    simp [scalar]

theorem isScalarChar_of_isDigit {c : Char} (digit : c.isDigit = true) : isScalarChar c = true := by
  simp [isScalarChar, Char.isAlphanum, digit]

/-- Digits without underscores are read as they are. -/
theorem plainDigits?_of_digits {digits : List Char} (filled : digits ≠ [])
    (all : ∀ c ∈ digits, c.isDigit = true) : plainDigits? 10 digits = some digits := by
  induction digits with
  | nil => exact absurd rfl filled
  | cons c digits ih =>
    have digit := Integer.isSome_digit? (all c List.mem_cons_self)
    match digits with
    | [] => simp [plainDigits?, digit]
    | d :: digits =>
      have separator : d ≠ '_' := by
        rintro rfl
        exact absurd (all '_' (by simp)) (by decide)
      have later := ih (by simp) fun e later => all e (List.mem_cons_of_mem _ later)
      rw [plainDigits?, later]
      · simp [digit]
      · simp
      · simp [separator]

/-- Only zero is written with a zero in front. -/
theorem head?_toDigits {n : Nat} (positive : 0 < n) : (Nat.toDigits 10 n).head? ≠ some '0' := by
  induction n using Nat.strongRecOn with
  | ind n ih =>
    by_cases single : n < 10
    · rw [Nat.toDigits_of_lt_base single]
      have nonzero : ∀ d : Fin 10, 0 < d.val → d.val.digitChar ≠ '0' := by decide
      simpa using nonzero ⟨n, single⟩ positive
    · -- The first digit is that of a tenth.
      rw [Nat.toDigits_of_base_le (by omega) (Nat.le_of_not_lt single),
        List.head?_append, Option.or_of_isSome (by simp [Nat.toDigits_ne_nil])]
      exact ih (n / 10) (by omega) (by omega)

/-- The digits of a number have no leading zero. -/
theorem wholeDigits?_toDigits (n : Nat) :
    wholeDigits? (Nat.toDigits 10 n) = some (Nat.toDigits 10 n) := by
  have digits := plainDigits?_of_digits Nat.toDigits_ne_nil fun _ => Integer.isDigit_of_mem (n := n)
  rw [wholeDigits?, digits]
  split
  · next second more front =>
    -- A zero in front of further digits is no number's first digit.
    have several : Nat.toDigits 10 n = '0' :: second :: more := Option.some.inj front
    rcases Nat.eq_zero_or_pos n with rfl | positive
    · cases several
    · exact absurd (by rw [several]; rfl) (head?_toDigits positive)
  · rfl

/-- A number in range is read back from its digits. -/
theorem integer?_toDigits {n : Nat} (fits : (n : Int) ≤ Bounds.signed64.greatest) :
    integer? (Nat.toDigits 10 n) = some (.integer n) := by
  have unsigned : splitSign (Nat.toDigits 10 n) = ([], Nat.toDigits 10 n) := by
    unfold splitSign
    split
    · next front => exact absurd (by simp [front]) (Integer.notMem_toDigits (c := '+') (by decide) n)
    · next front => exact absurd (by simp [front]) (Integer.notMem_toDigits (c := '-') (by decide) n)
    · rfl
  unfold integer?
  split
  · next front => exact absurd (by simp [front]) (Integer.notMem_toDigits (c := 'x') (by decide) n)
  · next front => exact absurd (by simp [front]) (Integer.notMem_toDigits (c := 'o') (by decide) n)
  · next front => exact absurd (by simp [front]) (Integer.notMem_toDigits (c := 'b') (by decide) n)
  · rw [unsigned]
    simp [wholeDigits?_toDigits, integerIn?, Integer.parse_toDigits fits]

/-- A number is read back up to the end of its line. -/
theorem value?_toDigits {depth n : Nat} (fits : (n : Int) ≤ Bounds.signed64.greatest)
    (rest : List Char) :
    value? depth (dropBlanks (Nat.toDigits 10 n ++ '\n' :: rest)) =
      some (.integer n, '\n' :: rest) := by
  refine value?_run Nat.toDigits_ne_nil
    (fun c present => isScalarChar_of_isDigit (Integer.isDigit_of_mem present)) ?_
  have noWord : ∀ word : List Char, 'e' ∈ word → Nat.toDigits 10 n ≠ word := by
    rintro word present rfl
    exact Integer.notMem_toDigits (by decide) n present
  simp [scalar?, integer?_toDigits fits, noWord]

/-- Yes or no is read back up to the end of its line. -/
theorem value?_bool {depth : Nat} (value : Bool) (rest : List Char) :
    value? depth (dropBlanks ((if value then "true" else "false").toList ++ '\n' :: rest)) =
      some (.bool value, '\n' :: rest) := by
  cases value
  · exact value?_run (by decide) (List.all_eq_true.mp (by decide)) (by decide)
  · exact value?_run (by decide) (List.all_eq_true.mp (by decide)) (by decide)

/-- A text is read back from its quoted form up to the end of its line. -/
theorem value?_quote {depth : Nat} (text rest : List Char) :
    value? depth (dropBlanks (quote text ++ '\n' :: rest)) =
      some (.text (String.ofList text), '\n' :: rest) := by
  have read : quoted? (quote text ++ '\n' :: rest) = some (text, '\n' :: rest) :=
    quoted?_quote text (by simp) (by simp)
  obtain ⟨mark, written, front, isMark⟩ : ∃ mark written, quote text = mark :: written ∧
      (mark = '"' ∨ mark = '\'') := by
    unfold quote
    cases quoteStyle text with
    | basicLine => exact ⟨_, _, rfl, .inl rfl⟩
    | literalLine => exact ⟨_, _, rfl, .inr rfl⟩
    | basicBlock => exact ⟨_, _, rfl, .inl rfl⟩
    | literalBlock => exact ⟨_, _, rfl, .inr rfl⟩
  rw [front, List.cons_append] at read ⊢
  rcases isMark with rfl | rfl
  · rw [dropBlanks_cons (by decide), value?, read]
    rfl
  · rw [dropBlanks_cons (by decide), value?, read]
    rfl

/-! ### Lines -/

/-- A line that gives a plain key its value. -/
structure Line where
  name : String
  /-- The value as it is written. -/
  written : List Char
  value : Value
  plain : IsPlainKey name
  reads : ∀ rest, value? nestingLimit (dropBlanks (written ++ '\n' :: rest)) = some (value, '\n' :: rest)

namespace Line

/-- The text of the line. -/
def text (l : Line) : List Char := l.name.toList ++ " = ".toList ++ l.written ++ ['\n']

/-- What the line adds to a table. -/
def entry (l : Line) : String × Entry := (l.name, .value l.value)

end Line

/-- A line adds its entry to those that are there, as long as its name is new. -/
theorem assignment?_line (l : Line) {entries : Entries} (fresh : l.name ∉ entries.map Prod.fst)
    (rest : List Char) :
    assignment? [] entries (l.text ++ rest) = some (entries ++ [l.entry], rest) := by
  have shape : l.text ++ rest = l.name.toList ++ ' ' :: '=' :: ' ' :: (l.written ++ '\n' :: rest) := by
    simp [Line.text]
  have key : key? (l.text ++ rest) (l.text ++ rest) =
      some ([l.name], '=' :: ' ' :: (l.written ++ '\n' :: rest)) := by
    obtain ⟨c, more, split, _⟩ := l.plain.front
    have rounds : l.text ++ rest = c :: (more ++ ' ' :: '=' :: ' ' :: (l.written ++ '\n' :: rest)) := by
      simp [shape, split]
    nth_rw 1 [rounds]
    rw [shape]
    exact key?_plain l.plain _ _ _
  have value : value? nestingLimit (dropBlanks (' ' :: (l.written ++ '\n' :: rest))) =
      some (l.value, '\n' :: rest) := l.reads rest
  have ended : afterLine? ('\n' :: rest) = some rest := by
    simp [afterLine?, afterComment?, dropBlanks, isLineBlank, afterBreak?]
  rw [assignment?, key]
  simp [value, addUnder?_fresh fresh, ended, Line.entry]

/-- A line adds one entry. -/
theorem lines?_line (l : Line) {entries : Entries} (fresh : l.name ∉ entries.map Prod.fst) (r : Char)
    (rounds rest : List Char) :
    lines? (r :: rounds) [] entries (l.text ++ rest) = lines? rounds [] (entries ++ [l.entry]) rest := by
  have assigned := assignment?_line l fresh rest
  obtain ⟨c, more, split, key⟩ := l.plain.front
  obtain ⟨later, shape⟩ : ∃ later, l.text ++ rest = c :: later := ⟨_, by simp [Line.text, split]; rfl⟩
  rw [shape] at assigned ⊢
  have notBracket := ne_of_test key (show isKeyChar '[' = false by decide)
  have notComment := ne_of_test key (show isKeyChar '#' = false by decide)
  have notBreak := ne_of_test key (show isKeyChar '\n' = false by decide)
  have notReturn := ne_of_test key (show isKeyChar '\r' = false by decide)
  have goesOn : atLineEnd (c :: later) = false := by simp [atLineEnd, afterBreak?, notBreak, notReturn]
  rw [lines?, dropBlanks_cons (isLineBlank_of_isKeyChar key)]
  simp [notBracket, notComment, goesOn, assigned]

/-- Lines with names of their own add their entries, one after the other. -/
theorem lines?_lines {lines : List Line} {entries : Entries} {rounds : List Char}
    (apart : (entries.map Prod.fst ++ lines.map Line.name).Nodup) (enough : lines.length ≤ rounds.length) :
    lines? rounds [] entries (lines.flatMap Line.text) = some (entries ++ lines.map Line.entry) := by
  induction lines generalizing entries rounds with
  | nil => cases rounds <;> simp [lines?, dropBlanks]
  | cons l lines ih =>
    obtain ⟨r, rounds, rfl⟩ := List.exists_cons_of_length_pos (Nat.lt_of_lt_of_le (Nat.succ_pos _) enough)
    have fresh : l.name ∉ entries.map Prod.fst := by
      rw [List.nodup_append] at apart
      exact fun present => apart.2.2 _ present _ List.mem_cons_self rfl
    rw [List.flatMap_cons, lines?_line l fresh, ih]
    · simp
    · simpa [Line.entry] using apart
    · simpa using enough

/-- A document of lines with names of their own has their entries. -/
theorem read?_lines {lines : List Line} (apart : (lines.map Line.name).Nodup) :
    Document.read? (String.ofList (lines.flatMap Line.text)) = some (lines.map Line.entry) := by
  have enough : lines.length ≤ (lines.flatMap Line.text).length := by
    clear apart
    induction lines with
    | nil => exact Nat.le_refl _
    | cons l lines ih =>
      simp only [List.flatMap_cons, List.length_append, List.length_cons, Line.text, List.length_nil]
      omega
  have read : lines? (lines.flatMap Line.text) [] [] (lines.flatMap Line.text) =
      some (lines.map Line.entry) := lines?_lines apart enough
  rw [Document.read?, String.toList_ofList]
  split
  · next rest marked =>
    -- No line starts with a byte order mark.
    cases lines with
    | nil => cases marked
    | cons l lines =>
      obtain ⟨c, more, split, key⟩ := l.plain.front
      have same : c = '\uFEFF' := by
        simpa [Line.text, split] using congrArg List.head? marked
      exact absurd same (ne_of_test key (by decide))
  · exact read

end DefectGraph.Toml

namespace DefectGraph.Config

open DefectGraph.Number DefectGraph.Toml

/-! ### The document of the settings -/

/-- The lines of the document that settings are written to. -/
def lines (c : Config) (workers : (c.workers : Int) ≤ Bounds.signed64.greatest)
    (grace : (c.shutdownGraceSecs : Int) ≤ Bounds.signed64.greatest) : List Line :=
  [⟨"workers", Nat.toDigits 10 c.workers, .integer c.workers, ⟨by decide, by decide⟩,
      value?_toDigits workers⟩,
   ⟨"exclude_marker", quote c.excludeMarker.toList, .text c.excludeMarker, ⟨by decide, by decide⟩,
      fun rest => by simpa using value?_quote c.excludeMarker.toList rest⟩,
   ⟨"shutdown_grace_secs", Nat.toDigits 10 c.shutdownGraceSecs, .integer c.shutdownGraceSecs,
      ⟨by decide, by decide⟩, value?_toDigits grace⟩,
   ⟨"keep_isolated", (if c.keepIsolated then "true" else "false").toList, .bool c.keepIsolated,
      ⟨by decide, by decide⟩, value?_bool c.keepIsolated⟩]

/-- The text of a configuration is that of its lines. -/
theorem toToml_eq {c : Config} (workers : (c.workers : Int) ≤ Bounds.signed64.greatest)
    (grace : (c.shutdownGraceSecs : Int) ≤ Bounds.signed64.greatest) :
    c.toToml = String.ofList ((c.lines workers grace).flatMap Line.text) := by
  refine String.toList_inj.mp ?_
  unfold toToml lines
  simp only [Line.text, String.toList_append, String.toList_ofList, List.flatMap_cons, List.flatMap_nil]
  simp

/-- A plain key names a setting and no path. -/
theorem named_plain {name : String} (plain : IsPlainKey name) (value : Value) :
    named name value = (name, value) := by
  have whole := @span_append isKeyChar name.toList [] plain.isKeyChar (by simp)
  rw [List.append_nil] at whole
  rw [named, whole]
  simp

/-- The lines of a document are its settings. -/
theorem ofDocument_lines (lines : List Line) :
    ofDocument (lines.map Line.entry) = lines.map fun l => (l.name, l.value) := by
  simp [ofDocument, Function.comp_def, Line.entry, Entry.toValue, named_plain (Line.plain _)]

/-- The values of the document stand for the settings. -/
theorem ofLayer?_lines {c : Config} (workers : (c.workers : Int) ≤ Bounds.signed64.greatest)
    (grace : (c.shutdownGraceSecs : Int) ≤ Bounds.signed64.greatest) :
    ofLayer? ((c.lines workers grace).map fun l => (l.name, l.value)) = some c := by
  simp [ofLayer?, readSetting, setting?, lines, List.lookup_cons, unsigned?, text?, bool?]

/-! ### Loading -/

/-- The first configuration file counts, whatever else the directory holds. -/
theorem fileLayer_of_read {files : FileStore} {dir : Path} {text : String} {document : Document}
    (content : files.read (dir.join "sdpgraph.toml") = .ok (Text.Utf8.encode text))
    (read : Document.read? text = some document) : fileLayer files dir = .ok (ofDocument document) := by
  have present : files.hasPath (dir.join "sdpgraph.toml") = true := by
    obtain ⟨l, found, there⟩ := (FileStore.read_ok_iff _ _ _).mp content
    simp [FileStore.hasPath, FileStore.find, found, there, bind, Except.bind, pure, Except.pure]
  have decoded := Text.Utf8.decodeLossy_of_decode? (Text.Utf8.decode?_encode text)
  simp [fileLayer, fileNames, present, content, decoded, read]

/-- An environment without variables of the program sets nothing. -/
theorem ofEnvironment_eq_nil {env : List (String × String)}
    (unset : ∀ v ∈ env, ¬ variableStart.toList <+: lowerName v.1.toList) : ofEnvironment env = [] := by
  rw [ofEnvironment, List.filterMap_eq_nil_iff]
  intro v present
  simp [fromVariable?, unset v present]

/-- Settings whose numbers have 63 bits are loaded from the document that they are written to, when no
environment variable is a setting. -/
theorem load_toToml {c : Config} {files : FileStore} {env : List (String × String)} {dir : Path}
    (workers : c.workers ≤ 9223372036854775807) (grace : c.shutdownGraceSecs ≤ 9223372036854775807)
    (written : files.read (dir.join "sdpgraph.toml") = .ok (Text.Utf8.encode c.toToml))
    (unset : ∀ v ∈ env, ¬ variableStart.toList <+: lowerName v.1.toList) : load files env dir = .ok c := by
  have workersFit : (c.workers : Int) ≤ Bounds.signed64.greatest := Int.ofNat_le.mpr workers
  have graceFits : (c.shutdownGraceSecs : Int) ≤ Bounds.signed64.greatest := Int.ofNat_le.mpr grace
  have apart : ((c.lines workersFit graceFits).map Line.name).Nodup :=
    show ["workers", "exclude_marker", "shutdown_grace_secs", "keep_isolated"].Nodup by decide
  have read : Document.read? c.toToml = some ((c.lines workersFit graceFits).map Line.entry) := by
    rw [toToml_eq workersFit graceFits]
    exact read?_lines apart
  rw [load, fileLayer_of_read written read, ofEnvironment_eq_nil unset, ofDocument_lines]
  simp only [bind, Except.bind, List.append_nil, ofLayer?_lines workersFit graceFits]
  rfl

/-- Settings whose marker needs escapes on several lines. -/
def escapedMarker : Config :=
  ⟨9223372036854775807, "it's \"\"\"quoted\"\"\"\r\n\\ and \x01 ''' ", 0, true⟩

/-- A marker with quotes and control characters is read back from its file. -/
theorem load_toToml_escapedMarker :
    load ⟨[(["sdpgraph.toml"], .file (Text.Utf8.encode escapedMarker.toToml))]⟩
      [("PATH", "/bin"), ("SDPGRAPH", "x")] "." = .ok escapedMarker := by
  have written : ∀ content : Bytes,
      (⟨[(["sdpgraph.toml"], .file content)]⟩ : FileStore).read (Path.join "." "sdpgraph.toml") =
        .ok content := by
    intro content
    rfl
  exact load_toToml (by decide) (by decide) (written _) (by decide)

end DefectGraph.Config
