import DefectGraph.Name

/-!
# Collapsing white space is a normal form

A text is laid out as letters, the characters that are no white space, with white space between some of
them. Collapsing keeps the letters and, of the white space, only what divides two words: it writes that
much out in one way, and reading what is written gives it back.

## Main Definitions

* `Name.Letter`, `Name.layout` - the letters of a text, and after which of them there is white space.
* `Name.wordBreaks` - the letters, with the white space between words only.
* `Name.write` - letters written out.

## Main Statements

* `Name.collapseFrom_eq_write` - what is collapsed is the letters with their word breaks, written out.
* `Name.wordBreaks_layout_write` - written letters are read back.
* `Name.collapseSpaces_normal_form` - collapsing keeps the letters, a second time changes nothing, and
  texts collapse to the same text exactly when they have the same letters and word breaks.

## Design Notes

`Name.layout` forgets how much white space there is, and `Name.wordBreaks` forgets where there need be none.
Collapsing is writing what the two leave, and writing is undone by them. Idempotence and the criterion for
equal results both follow from that.
-/

namespace DefectGraph.Name

open DefectGraph.Text

/-! ### Layouts -/

/-- A character that is no white space, and whether there is white space between it and the next one. -/
structure Letter where
  char : Char
  spaced : Bool
  solid : isSpace char = false
  deriving DecidableEq, Repr

/-- The characters that are no white space. -/
def visible (text : List Char) : List Char := text.filter fun c => !isSpace c

/-- White space comes first, and a visible character later. -/
def opensGap (text : List Char) : Bool := text.head?.any isSpace && !(visible text).isEmpty

/-- The letters of a text. What white space there is between two of them does not matter, nor how much,
and white space before the first letter or after the last is between none. -/
def layout : List Char → List Letter
  | [] => []
  | c :: rest =>
    if space : isSpace c then layout rest
    else ⟨c, opensGap rest, Bool.eq_false_iff.mpr space⟩ :: layout rest

/-- White space is no letter. -/
theorem layout_cons_space {c : Char} (space : isSpace c = true) (rest : List Char) :
    layout (c :: rest) = layout rest := by
  simp [layout, space]

/-- A letter knows whether a gap follows it. -/
theorem layout_cons_visible {c : Char} (solid : isSpace c = false) (rest : List Char) :
    layout (c :: rest) = ⟨c, opensGap rest, solid⟩ :: layout rest := by
  simp [layout, solid]

/-- The letters of a text are its visible characters. -/
@[simp]
theorem map_char_layout (text : List Char) : (layout text).map Letter.char = visible text := by
  induction text with
  | nil => rfl
  | cons c rest ih =>
    cases kind : isSpace c with
    | true => rw [layout_cons_space kind, ih, visible, visible, List.filter_cons_of_neg (by simp [kind])]
    | false =>
      rw [layout_cons_visible kind, List.map_cons, ih, visible, visible,
        List.filter_cons_of_pos (by simp [kind])]

theorem isEmpty_visible (text : List Char) : (visible text).isEmpty = (layout text).isEmpty := by
  rw [← map_char_layout, List.isEmpty_map]

/-! ### Word breaks -/

/-- White space between the character and the letters that follow divides two words. -/
def divides (c : Char) (following : List Letter) : Bool :=
  endsWord c && following.head?.any fun next => startsWord next.char

/-- The letters, with the white space between words only. -/
def wordBreaks : List Letter → List Letter
  | [] => []
  | l :: rest => { l with spaced := l.spaced && divides l.char rest } :: wordBreaks rest

@[simp]
theorem map_char_wordBreaks (letters : List Letter) :
    (wordBreaks letters).map Letter.char = letters.map Letter.char := by
  induction letters with
  | nil => rfl
  | cons l rest ih => rw [wordBreaks, List.map_cons, ih, List.map_cons]

/-- Whether a word is divided does not depend on the gaps behind it. -/
@[simp]
theorem divides_wordBreaks (c : Char) (following : List Letter) :
    divides c (wordBreaks following) = divides c following := by
  cases following <;> rfl

/-- Only a character that can end a word divides. -/
theorem divides_of_not_endsWord {c : Char} (notWord : endsWord c = false) (following : List Letter) :
    divides c following = false := by
  rw [divides, notWord, Bool.false_and]

/-- At the end of a text nothing is divided. -/
theorem nonempty_of_divides {c : Char} {following : List Letter} (divided : divides c following = true) :
    following.isEmpty = false := by
  cases following with
  | nil => simp [divides] at divided
  | cons => rfl

/-! ### Writing -/

/-- A blank where one is needed. -/
def blank (needed : Bool) : List Char := if needed then [' '] else []

/-- The letters written out, where `begun` says whether something has been written before: a blank follows
a letter with white space behind it, and a comma that is not the first letter of all. -/
def write (begun : Bool) : List Letter → List Char
  | [] => []
  | l :: rest => l.char :: (blank (l.spaced || (l.char == ',' && begun)) ++ write true rest)

/-- A blank in front adds no letter. -/
@[simp]
theorem layout_blank_append (needed : Bool) (text : List Char) :
    layout (blank needed ++ text) = layout text := by
  cases needed with
  | false => rfl
  | true => exact layout_cons_space (by decide) text

/-- A blank opens a gap if there is something behind it. -/
theorem opensGap_blank_append (needed : Bool) {text : List Char} (solid : text.head?.any isSpace = false) :
    opensGap (blank needed ++ text) = (needed && !(layout text).isEmpty) := by
  rw [opensGap, isEmpty_visible, layout_blank_append]
  cases needed with
  | false => simp [blank, solid]
  | true => simp [blank, show isSpace ' ' = true by decide]

/-! ### What collapsing writes -/

/-- One step over a letter: a blank where it is divided from the word before, then the letter, and after a
comma a blank. -/
theorem collapseFrom_cons_visible {c : Char} (solid : isSpace c = false) (last : Option Char)
    (pending : Bool) (rest : List Char) :
    collapseFrom last pending (c :: rest) =
      blank (pending && last.any fun before => endsWord before && startsWord c) ++ c ::
        if c == ',' && last.isSome then ' ' :: collapseFrom (some ' ') false rest
        else collapseFrom (some c) false rest := by
  rw [collapseFrom, if_neg (by simp [solid])]
  by_cases comma : c = ','
  · have notWord : startsWord ',' = false := by decide
    subst comma
    cases last <;> simp [notWord, blank]
  · have divided : (pending && last.any endsWord && startsWord c) =
        (pending && last.any fun before => endsWord before && startsWord c) := by
      cases last <;> simp [Bool.and_assoc]
    have plain : ¬(c == ',' && last.isSome) = true := by simp [comma]
    rw [if_neg plain, if_neg plain, divided, blank]
    split <;> rfl

/-- What is collapsed is the letters with their word breaks, written out, after the blank that divides them
from what was written before. -/
theorem collapseFrom_eq_write (last : Option Char) (pending : Bool) (text : List Char) :
    collapseFrom last pending text =
      blank ((pending || text.head?.any isSpace) && last.any fun before => divides before (layout text)) ++
        write last.isSome (wordBreaks (layout text)) := by
  induction text generalizing last pending with
  | nil => cases last <;> simp [collapseFrom, layout, wordBreaks, write, divides, blank]
  | cons c rest ih =>
    cases kind : isSpace c with
    | true =>
      rw [collapseFrom, if_pos kind, ih, layout_cons_space kind]
      simp [kind]
    | false =>
      -- A gap behind `c` divides words when it does so in front of the rest.
      have gap : (opensGap rest && divides c (layout rest)) =
          (rest.head?.any isSpace && divides c (layout rest)) := by
        cases divided : divides c (layout rest) with
        | false => simp
        | true => simp [opensGap, isEmpty_visible, nonempty_of_divides divided]
      have front : ((pending || (c :: rest).head?.any isSpace) &&
            last.any fun before => divides before (⟨c, opensGap rest, kind⟩ :: layout rest)) =
          (pending && last.any fun before => endsWord before && startsWord c) := by
        simp [divides, kind]
      rw [collapseFrom_cons_visible kind, layout_cons_visible kind, wordBreaks, write, ih, ih, gap, front]
      congr 2
      by_cases comma : (c == ',' && last.isSome) = true
      · obtain ⟨rfl, before, rfl⟩ : c = ',' ∧ ∃ before, last = some before := by
          simpa [Option.isSome_iff_exists] using comma
        simp [divides_of_not_endsWord (show endsWord ' ' = false by decide), blank]
      · rw [if_neg comma, Bool.eq_false_iff.mpr comma]
        simp

/-! ### Reading what was written -/

/-- What is written out starts with a letter. -/
theorem head?_write (begun : Bool) (letters : List Letter) :
    (write begun letters).head?.any isSpace = false := by
  cases letters with
  | nil => rfl
  | cons l rest => exact l.solid

/-- Written letters are read back, with their word breaks. -/
theorem wordBreaks_layout_write (begun : Bool) (letters : List Letter) :
    wordBreaks (layout (write begun (wordBreaks letters))) = wordBreaks letters := by
  induction letters generalizing begun with
  | nil => rfl
  | cons l rest ih =>
    have readBack := ih true
    have next : divides l.char (layout (write true (wordBreaks rest))) = divides l.char rest := by
      rw [← divides_wordBreaks, readBack, divides_wordBreaks]
    rw [wordBreaks, write, layout_cons_visible l.solid, layout_blank_append, wordBreaks, readBack, next,
      opensGap_blank_append _ (head?_write true _)]
    -- Where words are divided there is no comma, so a blank was written for white space only.
    cases divided : divides l.char rest with
    | false => simp
    | true =>
      have notComma : l.char ≠ ',' := by
        intro comma
        rw [comma, divides_of_not_endsWord (by decide)] at divided
        cases divided
      rw [divided] at next
      simp [notComma, nonempty_of_divides next]

/-! ### The normal form -/

/-- Collapsing spaces keeps the gaps between words, and no others. -/
theorem toList_collapseSpaces (text : String) :
    (collapseSpaces text).toList = write false (wordBreaks (layout text.toList)) := by
  rw [collapseSpaces, String.toList_ofList, collapseFrom_eq_write]
  simp [blank]

/-- Collapsing a text keeps its word breaks. -/
theorem wordBreaks_collapseSpaces (text : String) :
    wordBreaks (layout (collapseSpaces text).toList) = wordBreaks (layout text.toList) := by
  rw [toList_collapseSpaces, wordBreaks_layout_write]

/-- Texts collapse to the same text exactly when they have the same letters and word breaks. -/
theorem collapseSpaces_eq_iff (s t : String) :
    collapseSpaces s = collapseSpaces t ↔ wordBreaks (layout s.toList) = wordBreaks (layout t.toList) := by
  constructor
  · intro same
    rw [← wordBreaks_collapseSpaces, same, wordBreaks_collapseSpaces]
  · intro same
    rw [← String.toList_inj, toList_collapseSpaces, toList_collapseSpaces, same]

/-- Collapsing white space is a normal form: it keeps the characters that are no white space, a second time
changes nothing, and texts with white space between the same letters collapse to the same text. Of the white
space just the word breaks count. -/
theorem collapseSpaces_normal_form :
    (∀ t : String, visible (collapseSpaces t).toList = visible t.toList) ∧
    (∀ t : String, collapseSpaces (collapseSpaces t) = collapseSpaces t) ∧
    (∀ s t : String, layout s.toList = layout t.toList → collapseSpaces s = collapseSpaces t) ∧
    ∀ s t : String, collapseSpaces s = collapseSpaces t ↔
      wordBreaks (layout s.toList) = wordBreaks (layout t.toList) := by
  refine ⟨fun t => ?_, fun t => ?_, fun s t same => ?_, collapseSpaces_eq_iff⟩
  · rw [← map_char_layout, ← map_char_wordBreaks, wordBreaks_collapseSpaces, map_char_wordBreaks,
      map_char_layout]
  · rw [collapseSpaces_eq_iff, wordBreaks_collapseSpaces]
  · rw [collapseSpaces_eq_iff, same]

/-- A type in two layouts, with white space of other kinds and in other amounts. -/
theorem collapseSpaces_normal_form_of_layouts :
    layout "Map< String ,\n  ? extends  T [] >".toList =
        layout "\u3000Map<\tString\r\n , ?\u00a0extends T\u2028[]  > ".toList ∧
      collapseSpaces "Map< String ,\n  ? extends  T [] >" =
        collapseSpaces "\u3000Map<\tString\r\n , ?\u00a0extends T\u2028[]  > " ∧
      collapseSpaces "Map< String ,\n  ? extends  T [] >" = "Map<String, ? extends T[]>" := by
  have same : layout "Map< String ,\n  ? extends  T [] >".toList =
      layout "\u3000Map<\tString\r\n , ?\u00a0extends T\u2028[]  > ".toList := by
    decide +kernel
  exact ⟨same, collapseSpaces_normal_form.2.2.1 _ _ same, by decide +kernel⟩

end DefectGraph.Name
