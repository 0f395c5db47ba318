import DefectGraph.FileStore

/-!
# What writing keeps

Writing a file changes nothing but that file, and making directories changes nothing that is there.

## Main Definitions

* `place`, `wayTo` - where a path leads, and the places that it goes through.
* `Kept` - directories stay directories, and a place holds what it held.
* `Grown` - directories were made, and nothing else has changed.
* `Spares` - directories stay directories, and places hold the files that they held.

## Main Statements

* `locate_ok_iff_way` - a path leads to its place where it goes through directories.
* `read_of_kept` - a file can still be read where its place holds what it held.
* `at?_write` - what was written is at the place of its path.
* `kept_write` - writing to another place keeps a place.
* `grown_makeDirectories` - making directories changes nothing that is there.
* `read_of_spares` - a source is read as before where its place is spared and no way to it is made.
* `getLast?_locate_join` - the place of a file in a directory ends with the name of the file.

## Design Notes

A path is looked up part by part, and a part that is no directory ends the search. `place` is where a path
would lead and `wayTo` the places that have to be directories, both without a look at the store; with them
`locate_ok_iff_way` turns questions about two stores into questions about the places that they share. The
three relations differ in what they allow to change: `Kept` is about one place, `Grown` allows new
directories only, and `Spares` is about a set of places and is the one that runs are framed by.
-/

namespace DefectGraph.FileStore

/-- Directories stay directories, and the place holds what it held. -/
structure Kept (l : Location) (before after : FileStore) : Prop where
  directories : ∀ other, before.at? other = some .directory → after.at? other = some .directory
  entry : after.at? l = before.at? l

namespace Kept

variable {l : Location} {before between after : FileStore}

theorem refl (l : Location) (s : FileStore) : Kept l s s := ⟨fun _ there => there, rfl⟩

theorem trans (first : Kept l before between) (second : Kept l between after) : Kept l before after :=
  ⟨fun other there => second.directories other (first.directories other there),
    second.entry.trans first.entry⟩

end Kept

/-! ### Places -/

/-- Replacing an entry changes what is found at its place only. -/
theorem lookup_replace (entries : List (Location × FileEntry)) (l other : Location)
    (entry : FileEntry) :
    (entries.map fun x => if x.1 == l then (x.1, entry) else (x.1, x.2)).lookup other =
      if other = l then (entries.lookup l).map fun _ => entry else entries.lookup other := by
  induction entries with
  | nil => simp
  | cons first rest ih =>
    obtain ⟨place, old⟩ := first
    rw [List.map_cons]
    by_cases asked : other = place
    · subst asked
      by_cases here : other = l
      · simp [here]
      · simp [here]
    · have skipped : ∀ (e : FileEntry) (others : List (Location × FileEntry)),
          List.lookup other ((place, e) :: others) = List.lookup other others := by
        intro e others
        rw [List.lookup_cons, beq_false_of_ne asked]
      have first : (if place == l then (place, entry) else (place, old)) =
          (place, if place == l then entry else old) := by split <;> rfl
      rw [first, skipped, skipped, ih]
      by_cases here : other = l
      · subst here
        rw [if_pos rfl, if_pos rfl, skipped]
      · rw [if_neg here, if_neg here]

/-- Putting an entry changes what is found at its place only. -/
@[simp]
theorem lookup_put (s : FileStore) (l other : Location) (entry : FileEntry) :
    (s.put l entry).entries.lookup other =
      if other = l then some entry else s.entries.lookup other := by
  unfold put
  cases found : s.entries.lookup l with
  | some old =>
    simp only [Option.isSome_some, if_true]
    rw [lookup_replace, found]
    rfl
  | none =>
    simp only [Option.isSome_none, Bool.false_eq_true, if_false]
    rw [List.lookup_append]
    by_cases asked : other = l
    · subst asked
      rw [found, if_pos rfl, Option.none_or, List.lookup_cons_self]
    · rw [if_neg asked, List.lookup_cons, beq_false_of_ne asked, List.lookup_nil, Option.or_none]

/-- A place that is always a directory is not changed; every other place holds what was put there. -/
theorem at?_put (s : FileStore) (l other : Location) (entry : FileEntry) :
    (s.put l entry).at? other =
      if other = l ∧ isFixed l = false then some entry else s.at? other := by
  unfold at?
  rw [lookup_put]
  by_cases asked : other = l
  · subst asked
    cases isFixed other <;> simp
  · simp [asked]

/-- Putting something where there is no directory replaces no directory. -/
theorem directory_put {s : FileStore} {l place : Location} (entry : FileEntry)
    (free : s.at? l ≠ some .directory) (there : s.at? place = some .directory) :
    (s.put l entry).at? place = some .directory := by
  rw [at?_put, if_neg]
  · exact there
  · rintro ⟨rfl, _⟩
    exact free there

/-- Putting something where there is no directory keeps every other place. -/
theorem kept_put {s : FileStore} {l other : Location} (entry : FileEntry)
    (free : s.at? l ≠ some .directory) (elsewhere : other ≠ l) : Kept other s (s.put l entry) where
  directories := fun _ there => directory_put entry free there
  entry := by
    rw [at?_put, if_neg]
    exact fun same => elsewhere same.1

/-! ### Paths -/

/-- The places that the parts of a path go through. -/
def way (l : Location) : List String → List Location
  | [] => []
  | part :: rest => l :: way (step l part) rest

/-- Parts lead on where they go through directories; where they lead does not depend on the files. -/
theorem follow_ok_iff (s : FileStore) (start l : Location) (parts : List String) :
    s.follow start parts = .ok l ↔
      (∀ place ∈ way start parts, s.at? place = some .directory) ∧ parts.foldl step start = l := by
  induction parts generalizing start with
  | nil => simp [follow, way]
  | cons part rest ih =>
    unfold follow way
    rw [List.forall_mem_cons, List.foldl_cons]
    split
    · rename_i there
      rw [ih]
      simp [there]
    · rename_i there
      simp [there]
    · rename_i there
      simp [there]

/-- A path can be followed as long as the directories on its way are kept. -/
theorem follow_of_directories {before after : FileStore} {l : Location}
    (kept : ∀ other, before.at? other = some .directory → after.at? other = some .directory)
    {parts : List String} {start : Location} (found : before.follow start parts = .ok l) :
    after.follow start parts = .ok l := by
  rw [follow_ok_iff] at found ⊢
  exact ⟨fun place through => kept place (found.1 place through), found.2⟩

/-- The place that a path starts from. -/
def start (p : Path) : Location := if p.isAbsolute then ["/"] else []

/-- The place that a path leads to, if it leads anywhere. -/
def place (p : Path) : Location := p.parts.foldl step (start p)

/-- The places that a path goes through. -/
def wayTo (p : Path) : List Location := way (start p) p.parts

/-- The path can lead somewhere: it is not empty and holds no zero byte. -/
def IsUsable (p : Path) : Prop := p.isEmpty = false ∧ p.hasZero = false

/-- A path is located when it is usable and can be followed. -/
theorem locate_ok_iff (s : FileStore) (p : Path) (l : Location) :
    s.locate p = .ok l ↔ IsUsable p ∧ s.follow (start p) p.parts = .ok l := by
  unfold locate start IsUsable
  cases String.isEmpty p with
  | true => simp
  | false =>
    cases p.hasZero with
    | true => simp
    | false => cases p.isAbsolute <;> simp

/-- A path leads to its place where it goes through directories. -/
theorem locate_ok_iff_way (s : FileStore) (p : Path) (l : Location) :
    s.locate p = .ok l ↔
      IsUsable p ∧ (∀ other ∈ wayTo p, s.at? other = some .directory) ∧ place p = l := by
  rw [locate_ok_iff, follow_ok_iff]
  rfl

/-- A path leads where it led as long as directories stay directories. -/
theorem locate_of_kept {before after : FileStore} {l place : Location} (kept : Kept l before after)
    {p : Path} (found : before.locate p = .ok place) : after.locate p = .ok place := by
  rw [locate_ok_iff] at found ⊢
  exact ⟨found.1, follow_of_directories kept.directories found.2⟩

/-- A file can be read where its path leads to a place that holds it. -/
theorem read_ok_iff (s : FileStore) (p : Path) (content : Bytes) :
    s.read p = .ok content ↔ ∃ l, s.locate p = .ok l ∧ s.at? l = some (.file content) := by
  cases found : s.locate p with
  | error e => simp [read, find, found, bind, Except.bind]
  | ok l =>
    have asked : s.read p = match s.at? l with
        | none => .error .notFound
        | some (.file bytes) => .ok bytes
        | some .directory => .error .isDirectory := by
      simp only [read, find, found, bind, Except.bind]
      rcases s.at? l with _ | _ | _ <;> rfl
    rw [asked]
    rcases entry : s.at? l with _ | bytes | _ <;> simp [entry]

/-- A file is read where its path leads. -/
theorem read_of_at? {s : FileStore} {p : Path} {l : Location} {content : Bytes}
    (found : s.locate p = .ok l) (there : s.at? l = some (.file content)) :
    s.read p = .ok content :=
  (read_ok_iff s p content).mpr ⟨l, found, there⟩

/-- A file can still be read where its place holds what it held. -/
theorem read_of_kept {before after : FileStore} {p : Path} {l : Location} {content : Bytes}
    (kept : Kept l before after) (found : before.locate p = .ok l)
    (there : before.at? l = some (.file content)) : after.read p = .ok content :=
  read_of_at? (locate_of_kept kept found) (kept.entry.trans there)

/-! ### Operations -/

/-- A file is written at the place that its path leads to, where there is no directory. -/
theorem write_ok {s after : FileStore} {p : Path} {content : Bytes}
    (written : s.write p content = .ok after) :
    ∃ l, s.locate p = .ok l ∧ s.at? l ≠ some .directory ∧ after = s.put l (.file content) := by
  unfold write at written
  simp only at written
  split at written
  · -- A path that ends with a slash leads to no file.
    split at written
    · cases written
    · cases written
    · split at written <;> cases written
    · cases written
  · cases found : s.locate p with
    | error e => simp [found, bind, Except.bind] at written
    | ok l =>
      simp only [found, bind, Except.bind] at written
      split at written
      · cases written
      · rename_i free
        cases written
        exact ⟨l, rfl, free, rfl⟩

/-- What was written is at the place of its path. -/
theorem at?_write {s after : FileStore} {p : Path} {content : Bytes}
    (written : s.write p content = .ok after) :
    ∃ l, after.locate p = .ok l ∧ after.at? l = some (.file content) := by
  obtain ⟨l, found, free, rfl⟩ := write_ok written
  have notFixed : isFixed l = false := by
    cases fixed : isFixed l with
    | false => rfl
    | true => exact absurd (by simp [at?, fixed]) free
  refine ⟨l, ?_, ?_⟩
  · rw [locate_ok_iff] at found ⊢
    exact ⟨found.1, follow_of_directories (fun _ there => directory_put _ free there) found.2⟩
  · rw [at?_put, if_pos ⟨rfl, notFixed⟩]

/-- What is copied is the content of a file. -/
theorem copy_ok {s after : FileStore} {source target : Path} (copied : s.copy source target = .ok after) :
    ∃ content, s.read source = .ok content ∧ s.write target content = .ok after := by
  unfold copy at copied
  cases found : s.find source with
  | error e => simp [found, bind, Except.bind] at copied
  | ok entry =>
    cases entry with
    | directory => simp [found, bind, Except.bind, throw, throwThe, MonadExceptOf.throw] at copied
    | file content =>
      simp only [found, bind, Except.bind] at copied
      refine ⟨content, ?_, copied⟩
      simp only [read, found, bind, Except.bind]
      rfl

/-- Writing to another place keeps a place. -/
theorem kept_write {s after : FileStore} {p : Path} {content : Bytes} {l : Location}
    (written : s.write p content = .ok after)
    (elsewhere : ∀ place, s.locate p = .ok place → l ≠ place) : Kept l s after := by
  obtain ⟨place, found, free, rfl⟩ := write_ok written
  exact kept_put _ free (elsewhere place found)

/-! ### Directories that are made -/

/-- Directories were made where nothing was, and nothing else has changed. -/
def Grown (before after : FileStore) : Prop :=
  ∀ l, after.at? l = before.at? l ∨ before.at? l = none ∧ after.at? l = some .directory

namespace Grown

variable {before between after : FileStore}

theorem refl (s : FileStore) : Grown s s := fun _ => .inl rfl

/-- A store that has grown twice has grown. -/
theorem trans (first : Grown before between) (second : Grown between after) : Grown before after := by
  intro l
  rcases first l with same | ⟨free, made⟩
  · rw [← same]
    exact second l
  · -- What was made stays, because something is there now.
    rcases second l with kept | ⟨free', _⟩
    · exact .inr ⟨free, kept.trans made⟩
    · simp [made] at free'

/-- Something that is there stays what it is. -/
theorem kept (grown : Grown before after) {l : Location} (there : before.at? l ≠ none) :
    Kept l before after := by
  have same : ∀ other, before.at? other ≠ none → after.at? other = before.at? other :=
    fun other there => (grown other).resolve_right fun made => there made.1
  refine ⟨fun other directory => ?_, same l there⟩
  rw [same other (by simp [directory]), directory]

end Grown

/-- Making a directory adds one at most. -/
theorem grown_makeDirectory {s after : FileStore} {p : Path} (made : s.makeDirectory p = .ok after) :
    Grown s after := by
  unfold makeDirectory at made
  cases found : s.locate (dropSlashes p) with
  | error e => simp [found, bind, Except.bind] at made
  | ok place =>
    simp only [found, bind, Except.bind] at made
    split at made
    · cases made
    · rename_i free
      cases made
      intro l
      rw [at?_put]
      split
      · rename_i here
        exact .inr ⟨here.1 ▸ free, rfl⟩
      · exact .inl rfl

/-- Making several directories adds nothing else. -/
theorem grown_makeEach {s after : FileStore} {paths : List Path} (made : s.makeEach paths = .ok after) :
    Grown s after := by
  induction paths generalizing s with
  | nil =>
    cases made
    exact .refl _
  | cons p rest ih =>
    unfold makeEach at made
    split at made
    · rename_i next first
      exact (grown_makeDirectory first).trans (ih made)
    · split at made
      · exact ih made
      · cases made

/-- Making directories changes nothing that is there. -/
theorem grown_makeDirectories {s after : FileStore} {p : Path}
    (made : s.makeDirectories p = .ok after) : Grown s after := by
  unfold makeDirectories at made
  cases lacking : s.missing [] (ancestors p.toList p) with
  | error e => simp [lacking, bind, Except.bind] at made
  | ok paths =>
    simp only [lacking, bind, Except.bind] at made
    exact grown_makeEach made

/-! ### Files that are spared -/

/-- Directories stay directories, and the places of `kept` hold the files that they held. -/
structure Spares (kept : Location → Prop) (before after : FileStore) : Prop where
  directories : ∀ l, before.at? l = some .directory → after.at? l = some .directory
  files : ∀ l, kept l → ∀ content,
    after.at? l = some (.file content) ↔ before.at? l = some (.file content)

namespace Spares

variable {kept : Location → Prop} {before between after : FileStore}

theorem refl (kept : Location → Prop) (s : FileStore) : Spares kept s s :=
  ⟨fun _ there => there, fun _ _ _ => .rfl⟩

/-- What is spared twice is spared. -/
theorem trans (first : Spares kept before between) (second : Spares kept between after) :
    Spares kept before after :=
  ⟨fun l there => second.directories l (first.directories l there),
    fun l spared content => (second.files l spared content).trans (first.files l spared content)⟩

end Spares

/-- A store that only grows spares all files. -/
theorem Grown.spares {before after : FileStore} (grown : Grown before after)
    (kept : Location → Prop) : Spares kept before after := by
  refine ⟨fun l there => (grown.kept (l := l) (by simp [there])).directories l there,
    fun l _ content => ?_⟩
  rcases grown l with same | ⟨free, made⟩
  · rw [same]
  · simp [free, made]

/-- Writing to another place spares a file. -/
theorem spares_write {s after : FileStore} {p : Path} {content : Bytes} {kept : Location → Prop}
    (written : s.write p content = .ok after) (elsewhere : IsUsable p → ¬ kept (place p)) :
    Spares kept s after := by
  obtain ⟨l, found, free, rfl⟩ := write_ok written
  obtain ⟨usable, _, rfl⟩ := (locate_ok_iff_way s p l).mp found
  refine ⟨fun _ there => directory_put _ free there, fun l spared content' => ?_⟩
  have other : l ≠ place p := by
    rintro rfl
    exact elsewhere usable spared
  rw [(kept_put (.file content) free other).entry]

/-- A file that could be read still can where its place is spared. -/
theorem Spares.read {before after : FileStore} {kept : Location → Prop} (spares : Spares kept before after)
    {p : Path} {content : Bytes} (spared : kept (place p)) (read : before.read p = .ok content) :
    after.read p = .ok content := by
  obtain ⟨l, found, there⟩ := (read_ok_iff before p content).mp read
  obtain ⟨usable, way, rfl⟩ := (locate_ok_iff_way before p l).mp found
  refine read_of_at? ?_ ((spares.files (place p) spared content).mpr there)
  rw [locate_ok_iff_way]
  exact ⟨usable, fun other on => spares.directories other (way other on), rfl⟩

/-- A file is read as before where its place is spared and no directory on the way to it is new. -/
theorem read_of_spares {before after : FileStore} {kept : Location → Prop} {p : Path}
    (spares : Spares kept before after) (spared : ∀ l, before.locate p = .ok l → kept l)
    (old : ∀ l ∈ wayTo p, after.at? l = some .directory → before.at? l = some .directory) :
    (after.read p).toOption = (before.read p).toOption := by
  have located : ∀ l, after.locate p = .ok l ↔ before.locate p = .ok l := by
    intro l
    rw [locate_ok_iff_way, locate_ok_iff_way]
    have through : (∀ other ∈ wayTo p, after.at? other = some .directory) ↔
        ∀ other ∈ wayTo p, before.at? other = some .directory :=
      ⟨fun now other on => old other on (now other on),
        fun before other on => spares.directories other (before other on)⟩
    rw [through]
  have same : ∀ content, after.read p = .ok content ↔ before.read p = .ok content := by
    intro content
    rw [read_ok_iff, read_ok_iff]
    constructor
    · rintro ⟨l, found, there⟩
      have found' := (located l).mp found
      exact ⟨l, found', (spares.files l (spared l found') content).mp there⟩
    · rintro ⟨l, found, there⟩
      exact ⟨l, (located l).mpr found, (spares.files l (spared l found) content).mpr there⟩
  have option : ∀ (s : FileStore) (content : Bytes),
      content ∈ (s.read p).toOption ↔ s.read p = .ok content := by
    intro s content
    cases s.read p <;> simp [Except.toOption]
  refine Option.ext fun content => ?_
  exact (option after content).trans ((same content).trans (option before content).symm)

/-! ### Files of a directory -/

/-- The way to a place can be followed from any stop on it. -/
theorem follow_append {s : FileStore} {first second : List String} {l last : Location}
    (found : s.follow l (first ++ second) = .ok last) :
    ∃ between, s.follow between second = .ok last := by
  induction first generalizing l with
  | nil => exact ⟨l, found⟩
  | cons part rest ih =>
    rw [List.cons_append] at found
    unfold follow at found
    split at found
    · exact ih found
    · cases found
    · cases found

theorem splitSlashes_ne_nil (cs : List Char) : Path.splitSlashes cs ≠ [] := by
  induction cs with
  | nil => simp [Path.splitSlashes]
  | cons c rest ih =>
    unfold Path.splitSlashes
    split
    · simp
    · split <;> simp

/-- Paths are split at the slash between them. -/
theorem splitSlashes_append (dir name : List Char) :
    Path.splitSlashes (dir ++ '/' :: name) = Path.splitSlashes dir ++ Path.splitSlashes name := by
  induction dir with
  | nil => simp [Path.splitSlashes]
  | cons c rest ih =>
    by_cases slash : c = '/'
    · simp [Path.splitSlashes, slash, ih]
    · cases parts : Path.splitSlashes rest with
      | nil => exact absurd parts (splitSlashes_ne_nil rest)
      | cons part others => simp [Path.splitSlashes, slash, ih, parts]

/-- The last part of a path into a directory is the name of the file. -/
theorem parts_join (dir name : Path) (relative : name.isAbsolute = false)
    (plain : name.parts = [name]) : ∃ before, (dir.join name).parts = before ++ [name] := by
  have split : ∀ cs : List Char, (Path.splitSlashes (cs ++ '/' :: name.toList)).map String.ofList =
      (Path.splitSlashes cs).map String.ofList ++ [name] := by
    intro cs
    rw [splitSlashes_append, List.map_append]
    exact congrArg _ plain
  unfold Path.join
  simp only [relative, Bool.false_eq_true, if_false]
  split
  · rename_i complete
    rcases Bool.or_eq_true_iff.mp complete with empty | slash
    · have nothing : dir = "" := by simpa using empty
      exact ⟨[], by simpa [nothing] using plain⟩
    · -- The directory ends with a slash, so none is put in between.
      obtain ⟨above, ends⟩ := List.getLast?_eq_some_iff.mp (by simpa using slash)
      refine ⟨(Path.splitSlashes above).map String.ofList, ?_⟩
      have chars : (dir ++ name).toList = above ++ '/' :: name.toList := by simp [ends]
      rw [Path.parts, chars, split]
  · refine ⟨(Path.splitSlashes dir.toList).map String.ofList, ?_⟩
    have chars : (dir ++ "/" ++ name).toList = dir.toList ++ '/' :: name.toList := by simp
    rw [Path.parts, chars, split]

/-- The place of a file in a directory ends with the name of the file. -/
theorem getLast?_locate_join {s : FileStore} {dir name : Path} {l : Location}
    (relative : name.isAbsolute = false) (plain : name.parts = [name])
    (named : ∀ place, step place name = place ++ [name]) (found : s.locate (dir.join name) = .ok l) :
    l.getLast? = some name := by
  obtain ⟨before, parts⟩ := parts_join dir name relative plain
  rw [locate_ok_iff, parts] at found
  obtain ⟨above, last⟩ := follow_append found.2
  simp only [follow, named] at last
  split at last
  · cases last
    simp
  · cases last
  · cases last

end DefectGraph.FileStore
