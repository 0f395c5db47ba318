import DefectGraph.Proofs.Descriptors
import DefectGraph.Proofs.FileStore
import DefectGraph.Proofs.Utf8
import DefectGraph.Run

/-!
# Keys and names of files

A run names the copy of a source by a key and the text of a declaration by a number. Both names are the
last part of a path, so the places of two files differ where their names do.

## Main Definitions

* `FileStore.IsName` - a text that leads from a directory to something in it.
* `SourceVersion.IsPlain` - a source whose paths hold no zero.
* `SourceVersion.className`, `Task.methodName` - the names of the files of a run.

## Main Statements

* `SourceVersion.eq_of_keyBytes_eq` - the bytes of a key tell the source that it is drawn from.
* `FileStore.getLast?_place_join` - the place of a file ends with the name of the file.
* `Task.methodName_inj`, `SourceVersion.className_ne_methodName` - which names differ.

## Design Notes

The key of a source is a digest, and digests can be equal by chance. What is proved about keys is therefore
proved about the bytes that they are drawn from, which tell their source as long as no zero is among them.
Where statements about files need more, they assume that the keys differ where the bytes do.
-/

namespace DefectGraph

/-! ### Keys -/

namespace Blake3

/-- A compression gives sixteen words. -/
@[simp]
theorem size_compress (input : Input) : (compress input).size = 16 := by
  simp [compress]

/-- A hash has 32 bytes. -/
@[simp]
theorem length_hash (bytes : List UInt8) : (hash bytes).length = 32 := by
  have four : ∀ words : List UInt32, (words.flatMap wordBytes).length = 4 * words.length := by
    intro words
    induction words with
    | nil => rfl
    | cons w rest ih =>
      rw [List.flatMap_cons, List.length_append, ih, List.length_cons]
      simp only [wordBytes, List.length_cons, List.length_nil]
      omega
  rw [hash, four, Array.length_toList, Array.take_eq_extract, Array.size_extract, size_compress]
  rfl

/-- Each byte is spelled by two digits. -/
@[simp]
theorem length_hex (bytes : List UInt8) : (hex bytes).length = 2 * bytes.length := by
  rw [hex, String.length_ofList]
  induction bytes with
  | nil => rfl
  | cons b rest ih =>
    rw [List.flatMap_cons, List.length_append, ih]
    simp only [List.length_cons, List.length_nil]
    omega

theorem hexDigit_ne_slash : ∀ n ∈ List.range 16, hexDigit n ≠ '/' := by decide

/-- A key is no path. -/
theorem slash_notMem_hex (bytes : List UInt8) : '/' ∉ (hex bytes).toList := by
  rw [hex, String.toList_ofList]
  intro present
  obtain ⟨b, _, digit⟩ := List.mem_flatMap.mp present
  have byte : b.toNat < 256 := b.toNat_lt
  have apart : ∀ n, n < 16 → '/' ≠ hexDigit n := fun n small =>
    (hexDigit_ne_slash n (List.mem_range.mpr small)).symm
  simp only [List.mem_cons, List.not_mem_nil, or_false] at digit
  rcases digit with high | low
  · exact apart _ (by omega) high
  · exact apart _ (by omega) low

end Blake3

namespace SourceVersion

/-- The paths of the source hold no zero, so that there can be files at them. -/
structure IsPlain (s : SourceVersion) : Prop where
  project : '\x00' ∉ s.project.toList
  sourceFile : '\x00' ∉ s.sourceFile.toList

/-- A key keeps half of the digits of the hash. -/
@[simp]
theorem length_key (s : SourceVersion) : s.key.length = 32 := by
  rw [key, Blake3.length_hex, List.length_take, Blake3.length_hash]
  rfl

/-- A text without the null character has no null byte. -/
theorem bne_zero_of_mem_encode {text : String} (plain : '\x00' ∉ text.toList) {b : UInt8}
    (present : b ∈ Text.Utf8.encode text) : (b != 0) = true := by
  rw [bne_iff_ne]
  rintro rfl
  exact Text.Utf8.zero_notMem_encode plain present

/-- A part without a zero ends at the first zero. -/
theorem encode_append_inj {part other : String} {rest last : List UInt8}
    (plain : '\x00' ∉ part.toList) (plainToo : '\x00' ∉ other.toList)
    (same : Text.Utf8.encode part ++ 0 :: rest = Text.Utf8.encode other ++ 0 :: last) :
    part = other ∧ rest = last := by
  obtain ⟨bytes, rests⟩ := Descriptor.append_cons_inj (fun _ => bne_zero_of_mem_encode plain)
    (fun _ => bne_zero_of_mem_encode plainToo) rfl rfl same
  exact ⟨Text.Utf8.encode_inj bytes, (List.cons.inj rests).2⟩

/-- A part without a zero starts after the last zero. -/
theorem append_encode_inj {part other : String} {rest last : List UInt8}
    (plain : '\x00' ∉ part.toList) (plainToo : '\x00' ∉ other.toList)
    (same : rest ++ 0 :: Text.Utf8.encode part = last ++ 0 :: Text.Utf8.encode other) :
    part = other ∧ rest = last := by
  have inside : ∀ {text : String}, '\x00' ∉ text.toList →
      ∀ b ∈ (Text.Utf8.encode text).reverse, (b != 0) = true := by
    intro text plain b present
    exact bne_zero_of_mem_encode plain (List.mem_reverse.mp present)
  have reversed := congrArg List.reverse same
  rw [List.reverse_append, List.reverse_append, List.reverse_cons, List.reverse_cons,
    List.append_assoc, List.append_assoc] at reversed
  obtain ⟨bytes, rests⟩ := Descriptor.append_cons_inj (inside plain) (inside plainToo) rfl rfl reversed
  exact ⟨Text.Utf8.encode_inj (List.reverse_inj.mp bytes),
    List.reverse_inj.mp (List.cons.inj rests).2⟩

/-- The bytes of a key tell the source that it is drawn from: the outer parts hold no zero, so what is
left between them is the hash. -/
theorem eq_of_keyBytes_eq {s t : SourceVersion} (plain : s.IsPlain) (plainToo : t.IsPlain)
    (same : s.keyBytes = t.keyBytes) : s = t := by
  simp only [keyBytes, List.flatMap_cons, List.flatMap_nil, List.append_nil, List.append_assoc,
    List.singleton_append] at same
  obtain ⟨projects, rests⟩ := encode_append_inj plain.project plainToo.project same
  have ends : (Text.Utf8.encode s.hash ++ 0 :: Text.Utf8.encode s.sourceFile) ++ [0] =
      (Text.Utf8.encode t.hash ++ 0 :: Text.Utf8.encode t.sourceFile) ++ [0] := by
    simpa using rests
  obtain ⟨sourceFiles, hashes⟩ := append_encode_inj plain.sourceFile plainToo.sourceFile
    (List.append_cancel_right ends)
  cases s
  cases t
  simp only at projects sourceFiles hashes
  rw [projects, sourceFiles, Text.Utf8.encode_inj hashes]

end SourceVersion

/-! ### Places -/

namespace FileStore

/-- The text leads from a directory to something in it. -/
structure IsName (name : String) : Prop where
  plain : '/' ∉ name.toList
  step : ∀ l, step l name = l ++ [name]

/-- A stem without slashes names a file. -/
theorem isName_java {stem : String} (plain : '/' ∉ stem.toList) : IsName (stem ++ ".java") where
  plain := by simp [plain]
  step := by
    intro l
    have long : 3 ≤ (stem ++ ".java").length := by
      rw [String.length_append]
      exact Nat.le_trans (by decide) (Nat.le_add_left _ _)
    have apart : ∀ short : String, short.length ≤ 2 → stem ++ ".java" ≠ short := by
      rintro short few rfl
      omega
    rw [FileStore.step, if_neg, if_neg]
    · simpa using apart ".." (by decide)
    · simpa using apart "." (by decide)

/-- Without a slash there is one part. -/
theorem splitSlashes_plain {cs : List Char} (plain : '/' ∉ cs) : Path.splitSlashes cs = [cs] := by
  induction cs with
  | nil => rfl
  | cons c rest ih =>
    rw [List.mem_cons, not_or] at plain
    rw [Path.splitSlashes, if_neg (by simpa using fun slash : c = '/' => plain.1 slash.symm), ih plain.2]

/-- A path that ends with a name leads to a file of that name. -/
theorem getLast?_place {p : Path} {name : String} {above : List String} (isName : IsName name)
    (parts : p.parts = above ++ [name]) : (place p).getLast? = some name := by
  rw [place, parts, List.foldl_append]
  simp [isName.step]

/-- A name below a path is its last part. -/
theorem parts_below (above : Path) {name : String} (isName : IsName name) :
    (above ++ "/" ++ name).parts = above.parts ++ [name] := by
  have chars : (above ++ "/" ++ name).toList = above.toList ++ '/' :: name.toList := by simp
  rw [Path.parts, chars, splitSlashes_append, splitSlashes_plain isName.plain, List.map_append]
  simp [Path.parts]

/-- The place of a file ends with the name of the file. -/
theorem getLast?_place_join (dir above : Path) {name : String} (isName : IsName name) :
    (place (dir.join (above ++ "/" ++ name))).getLast? = some name := by
  obtain ⟨front, joined⟩ : ∃ front, dir.join (above ++ "/" ++ name) = front ++ "/" ++ name := by
    rw [Path.join]
    split
    · exact ⟨above, rfl⟩
    · split
      · exact ⟨dir ++ above, by simp [String.append_assoc]⟩
      · exact ⟨dir ++ "/" ++ above, by simp [String.append_assoc]⟩
  rw [joined]
  exact getLast?_place isName (parts_below front isName)

/-- A path that can lead somewhere holds no zero in its last parts. -/
theorem zero_notMem_of_isUsable {dir rel : Path} (usable : IsUsable (dir.join rel)) :
    '\x00' ∉ rel.toList := by
  intro zero
  have inside : '\x00' ∈ (dir.join rel).toList := by
    rw [Path.join]
    split
    · exact zero
    · split
      · simp [zero]
      · simp [zero]
  have clean := usable.2
  rw [Path.hasZero, List.contains_eq_mem] at clean
  simp [inside] at clean

end FileStore

/-! ### Names of files -/

/-- The name of the copy of a source. -/
def SourceVersion.className (s : SourceVersion) : String := s.key ++ ".java"

/-- The name of the file with the text of a declaration. -/
def Task.methodName (id : Nat) : String := toString id ++ ".java"

theorem SourceVersion.isName_className (s : SourceVersion) : FileStore.IsName s.className :=
  FileStore.isName_java (Blake3.slash_notMem_hex _)

theorem Task.isName_methodName (id : Nat) : FileStore.IsName (Task.methodName id) := by
  refine FileStore.isName_java fun slash => ?_
  have digits : (toString id).toList = Nat.toDigits 10 id := by simp
  rw [digits] at slash
  exact absurd (Nat.isDigit_of_mem_toDigits (by decide) (by decide) slash) (by decide)

/-- The copy of a source lies in the directory of classes of its project. -/
theorem SourceVersion.classFile_eq (s : SourceVersion) :
    s.classFile = s.project ++ "/classes" ++ "/" ++ s.className := by
  have slash : "/classes/" = "/classes" ++ "/" := by decide
  rw [classFile, className, slash]
  simp only [String.append_assoc]

/-- The text of a declaration lies in the directory of methods of its project. -/
theorem Task.methodPath_eq (project : String) (id : Nat) :
    project ++ "/methods/" ++ toString id ++ ".java" =
      project ++ "/methods" ++ "/" ++ Task.methodName id := by
  have slash : "/methods/" = "/methods" ++ "/" := by decide
  rw [methodName, slash]
  simp only [String.append_assoc]

/-- The place of the copy of a source ends with its name. -/
theorem SourceVersion.getLast?_place_classFile (s : SourceVersion) (output : Path) :
    (FileStore.place (output.join s.classFile)).getLast? = some s.className := by
  rw [s.classFile_eq]
  exact FileStore.getLast?_place_join output _ s.isName_className

/-- The place of the text of a declaration ends with its name. -/
theorem Task.getLast?_place_methodPath (output : Path) (project : String) (id : Nat) :
    (FileStore.place (output.join (project ++ "/methods/" ++ toString id ++ ".java"))).getLast? =
      some (Task.methodName id) := by
  rw [Task.methodPath_eq]
  exact FileStore.getLast?_place_join output _ (Task.isName_methodName id)

/-- The file of a node is named by its number, wherever the output is. -/
theorem Task.getLast?_place_methodFile (n : Graph.Node) (output : Path) :
    (FileStore.place (output.join (Task.methodFile n))).getLast? = some (Task.methodName n.id) :=
  Task.getLast?_place_methodPath output n.project n.id

/-- Different numbers name different files. -/
theorem Task.methodName_inj {a b : Nat} (same : Task.methodName a = Task.methodName b) : a = b := by
  have digits : toString a = toString b := (String.append_left_inj ".java").mp same
  simpa [Nat.toString_eq_ofList_toDigits] using congrArg (fun s => Nat.ofDigitChars 10 s.toList 0) digits

/-- Copies of the same name have the same key. -/
theorem SourceVersion.key_eq_of_className_eq {s t : SourceVersion} (same : s.className = t.className) :
    s.key = t.key :=
  (String.append_left_inj ".java").mp same

/-- A key is longer than a number that can be drawn. -/
theorem SourceVersion.className_ne_methodName (s : SourceVersion) {id : Nat}
    (drawn : id < Graph.idLimit) : s.className ≠ Task.methodName id := by
  intro same
  have keyed : s.key = toString id := (String.append_left_inj ".java").mp same
  have short : (toString id).length ≤ 10 := by
    rw [Nat.toString_eq_ofList_toDigits, String.length_ofList, Nat.length_toDigits_le_iff]
    · exact Nat.lt_trans drawn (by decide)
    · decide
    · decide
  rw [← keyed, s.length_key] at short
  omega

end DefectGraph
