import DefectGraph.Toml.Quoted

/-!
# Quoted text is read back

Text is written in one of four styles. Whatever it holds, it is read back from its quotes, and reading goes
on right behind them.

## Main Statements

* `escape?_of_escapeOf?` - an escape stands for the character that it is written for.
* `basicLine?_escapeLine`, `basicBlock?_escapeBlock` - text with escapes is read back.
* `literalLine?_append`, `literalBlock?_append` - literal text is read back, if it holds nothing that ends it.
* `quoted?_quote` - quoted text is read back in whatever style it is written.

## Design Notes

Each reader takes a list that bounds its rounds, and each theorem asks for as many rounds as characters were
written, for any text behind the closing quotes. Text in several lines may hold quotes as long as no three
stand together, so `basicBlock?_escapeBlock` is an induction with the number of quotes in a row, as the
writer counts them; literal text is bounded by its longest run of quotes, which `runStep` computes one
character at a time.
-/

namespace DefectGraph.Toml

open DefectGraph.Number (digit?)

/-! ### Escapes -/

/-- Four hexadecimal digits spell a control character. -/
theorem scalarValue?_hexDigits : ∀ n ∈ List.range 128,
    scalarValue? ['0', '0', hexDigit (n / 16), hexDigit (n % 16)] = some (Char.ofNat n) := by
  decide +kernel

/-- Control characters are below 128. -/
theorem toNat_lt_of_isControl {c : Char} (control : isControl c = true) : c.toNat < 128 := by
  simp only [isControl, Bool.or_eq_true, Bool.and_eq_true, decide_eq_true_eq, beq_iff_eq] at control
  omega

/-- An escape stands for the character that it is written for. -/
theorem escape?_of_escapeOf? {c : Char} {written : List Char} (escaped : escapeOf? c = some written)
    (rest : List Char) : ∃ tail, written = '\\' :: tail ∧ escape? (tail ++ rest) = some (c, rest) := by
  unfold escapeOf? at escaped
  simp only [beq_iff_eq] at escaped
  split at escaped
  · rename_i here
    cases escaped
    exact ⟨['b'], rfl, by rw [here]; rfl⟩
  split at escaped
  · rename_i here
    cases escaped
    exact ⟨['t'], rfl, by rw [here]; rfl⟩
  split at escaped
  · rename_i here
    cases escaped
    exact ⟨['f'], rfl, by rw [here]; rfl⟩
  split at escaped
  · rename_i here
    cases escaped
    exact ⟨['r'], rfl, by rw [here]; rfl⟩
  split at escaped
  · rename_i here
    cases escaped
    exact ⟨['\\'], rfl, by rw [here]; rfl⟩
  split at escaped
  · rename_i control
    cases escaped
    refine ⟨_, rfl, ?_⟩
    have value := scalarValue?_hexDigits c.toNat (List.mem_range.mpr (toNat_lt_of_isControl control))
    simp [escape?, hexEscape?, value, Char.ofNat_toNat]
  · cases escaped

/-- A character without an escape stands for itself in text with escapes, unless it is a quote or a line
break. -/
theorem plain_of_escapeOf? {c : Char} (plain : escapeOf? c = none) :
    c ≠ '\\' ∧ c ≠ '\r' ∧ isControl c = false := by
  unfold escapeOf? at plain
  simp only [beq_iff_eq] at plain
  refine ⟨?_, ?_, ?_⟩
  · rintro rfl
    exact absurd plain (by decide)
  · rintro rfl
    exact absurd plain (by decide)
  · cases control : isControl c with
    | false => rfl
    | true =>
      simp only [control, if_true] at plain
      repeat' split at plain
      all_goals cases plain

/-! ### Text with escapes on one line -/

/-- An escape gives the character that it stands for. -/
theorem basicLine?_escape {c x : Char} {rounds text more : List Char}
    (escaped : escape? text = some (c, more)) :
    basicLine? (x :: rounds) ('\\' :: text) = Taken.cons c (basicLine? rounds more) := by
  rw [basicLine?]
  simp [escaped]

/-- A plain character is taken as it is. -/
theorem basicLine?_plain {c x : Char} {rounds more : List Char} (notQuote : c ≠ '"')
    (notBackslash : c ≠ '\\') (visible : isControl c = false) (notBreak : c ≠ '\n') :
    basicLine? (x :: rounds) (c :: more) = Taken.cons c (basicLine? rounds more) := by
  simp [basicLine?, visible, notBreak]

/-- What is written for a character on one line. -/
def lineChar (c : Char) : List Char :=
  if c == '"' then ['\\', '"']
  else if c == '\n' then ['\\', 'n']
  else (escapeOf? c).getD [c]

@[simp]
theorem escapeLine_cons (c : Char) (text : List Char) :
    escapeLine (c :: text) = lineChar c ++ escapeLine text := rfl

/-- A character is written as an escape that is read back, or as itself. -/
theorem lineChar_cases (c : Char) :
    (∃ tail, lineChar c = '\\' :: tail ∧ ∀ rest, escape? (tail ++ rest) = some (c, rest)) ∨
      lineChar c = [c] ∧ c ≠ '"' ∧ c ≠ '\n' ∧ escapeOf? c = none := by
  unfold lineChar
  by_cases quote : c = '"'
  · exact .inl ⟨['"'], by simp [quote], fun rest => by rw [quote]; rfl⟩
  by_cases break_ : c = '\n'
  · exact .inl ⟨['n'], by simp [break_], fun rest => by rw [break_]; rfl⟩
  simp only [quote, break_, beq_iff_eq, if_false]
  cases escaped : escapeOf? c with
  | none => exact .inr ⟨rfl, by simpa using quote, by simpa using break_, rfl⟩
  | some written =>
    left
    obtain ⟨tail, rfl, _⟩ := escape?_of_escapeOf? escaped []
    refine ⟨tail, rfl, fun rest => ?_⟩
    obtain ⟨same, isTail, reads⟩ := escape?_of_escapeOf? escaped rest
    cases isTail
    exact reads

/-- Text with escapes on one line is read back; every character written is worth a round at most. -/
theorem basicLine?_escapeLine (text rest : List Char) {rounds : List Char}
    (enough : (escapeLine text).length < rounds.length) :
    basicLine? rounds (escapeLine text ++ '"' :: rest) = some (text, rest) := by
  induction text generalizing rounds with
  | nil =>
    cases rounds with
    | nil => simp at enough
    | cons x rounds => rfl
  | cons c text ih =>
    rw [escapeLine_cons, List.append_assoc]
    rw [escapeLine_cons, List.length_append] at enough
    cases rounds with
    | nil => simp at enough
    | cons x rounds =>
      rw [List.length_cons] at enough
      rcases lineChar_cases c with ⟨tail, written, reads⟩ | ⟨written, notQuote, notBreak, plain⟩
      · rw [written, List.length_cons] at enough
        rw [written, List.cons_append, basicLine?_escape (reads _), ih (by omega)]
        rfl
      · obtain ⟨notBackslash, _, visible⟩ := plain_of_escapeOf? plain
        rw [written, List.length_singleton] at enough
        rw [written, List.singleton_append,
          basicLine?_plain notQuote notBackslash visible notBreak, ih (by omega)]
        rfl

/-! ### Literal text on one line -/

/-- Literal text on one line is read back if it holds no quote, no line break and no control character. -/
theorem literalLine?_append {text : List Char} (rest : List Char)
    (plain : ∀ c ∈ text, c ≠ '\'' ∧ isControl c = false ∧ c ≠ '\n') :
    literalLine? (text ++ '\'' :: rest) = some (text, rest) := by
  induction text with
  | nil => rfl
  | cons c text ih =>
    rw [List.forall_mem_cons] at plain
    obtain ⟨⟨notQuote, visible, notBreak⟩, others⟩ := plain
    have step : literalLine? (c :: (text ++ '\'' :: rest)) =
        Taken.cons c (literalLine? (text ++ '\'' :: rest)) := by
      simp [literalLine?, visible, notBreak]
    rw [List.cons_append, step, ih others]
    rfl

/-! ### The end of a block -/

/-- Up to two quotes in front of the closing ones belong to the text. -/
theorem closing?_replicate {mark : Char} (extra : Nat) (few : extra ≤ 2) {rest : List Char}
    (apart : rest.head? ≠ some mark) :
    closing? mark (List.replicate (extra + 3) mark ++ rest) =
      some (List.replicate extra mark, rest) := by
  have quotes : (List.replicate (extra + 3) mark ++ rest).takeWhile (fun c => c == mark) =
      List.replicate (extra + 3) mark := by
    rw [List.takeWhile_append_of_pos]
    · cases rest with
      | nil => simp
      | cons c rest =>
        have other : c ≠ mark := by simpa using apart
        simp [other]
    · simp [List.mem_replicate]
  unfold closing?
  simp only [quotes, List.length_replicate]
  rw [if_pos]
  · congr 2
    exact List.drop_left' (by simp)
  · simp
    omega

/-! ### Text with escapes on several lines -/

/-- An escape means the same in a block. -/
theorem basicBlock?_escape {c x : Char} {rounds text more : List Char}
    (escaped : escape? text = some (c, more)) :
    basicBlock? (x :: rounds) ('\\' :: text) = Taken.cons c (basicBlock? rounds more) := by
  rw [basicBlock?]
  simp [escaped]

/-- So does a plain character. -/
theorem basicBlock?_plain {c x : Char} {rounds more : List Char} (notQuote : c ≠ '"')
    (notBackslash : c ≠ '\\') (notReturn : c ≠ '\r') (visible : isControl c = false) :
    basicBlock? (x :: rounds) (c :: more) = Taken.cons c (basicBlock? rounds more) := by
  simp [basicBlock?, notReturn, visible]

/-- A quote that two others do not follow is a part of the text. -/
theorem basicBlock?_quote {x : Char} {rounds more : List Char} (goesOn : more.take 2 ≠ ['"', '"']) :
    basicBlock? (x :: rounds) ('"' :: more) = Taken.cons '"' (basicBlock? rounds more) := by
  simp [basicBlock?, goesOn]

/-- Three quotes end the text, and up to two before them belong to it. -/
theorem basicBlock?_closing {x : Char} {rounds more : List Char} (closes : more.take 2 = ['"', '"']) :
    basicBlock? (x :: rounds) ('"' :: more) = closing? '"' ('"' :: more) := by
  simp [basicBlock?, closes]

/-- What is written for a character that is no quote starts with none. -/
theorem head?_escapeBlock {c : Char} (notQuote : c ≠ '"') (quotes : Nat) (text rest : List Char) :
    (escapeBlock quotes (c :: text) ++ rest).head? ≠ some '"' := by
  rw [escapeBlock, if_neg (by simpa using notQuote)]
  cases escaped : escapeOf? c with
  | none => simpa using notQuote
  | some written =>
    obtain ⟨tail, rfl, _⟩ := escape?_of_escapeOf? escaped []
    simp

/-- A quote that is written as it is stands before two others only at the end of the text. -/
theorem ends_of_take_two {quotes : Nat} (few : quotes < 2) {text rest : List Char}
    (closes : (escapeBlock (quotes + 1) text ++ '"' :: '"' :: '"' :: rest).take 2 = ['"', '"']) :
    text = [] ∨ text = ['"'] ∧ quotes = 0 := by
  cases text with
  | nil => exact .inl rfl
  | cons c text =>
    right
    have first : (escapeBlock (quotes + 1) (c :: text) ++ '"' :: '"' :: '"' :: rest).head? = some '"' := by
      simpa [List.head?_take] using congrArg List.head? closes
    have isQuote : c = '"' :=
      Decidable.byContradiction fun other => head?_escapeBlock other _ _ _ first
    subst isQuote
    by_cases third : quotes + 1 = 2
    · -- The third quote in a row is written with a backslash.
      simp [escapeBlock, third] at first
    · have start : quotes = 0 := by omega
      subst start
      refine ⟨?_, rfl⟩
      have written : escapeBlock (0 + 1) ('"' :: text) = '"' :: escapeBlock 2 text := by simp [escapeBlock]
      rw [written, List.cons_append, List.take_succ_cons] at closes
      have second : (escapeBlock 2 text ++ '"' :: '"' :: '"' :: rest).head? = some '"' := by
        have last := congrArg List.head? (List.cons.inj closes).2
        rwa [List.head?_take, if_neg (by decide)] at last
      cases text with
      | nil => rfl
      | cons d text =>
        by_cases again : d = '"'
        · subst again
          simp [escapeBlock] at second
        · exact absurd second (head?_escapeBlock again _ _ _)

/-- Text with escapes on several lines is read back, whatever quotes come before it. -/
theorem basicBlock?_escapeBlock {quotes : Nat} (few : quotes ≤ 2) (text : List Char) {rest : List Char}
    (apart : rest.head? ≠ some '"') {rounds : List Char}
    (enough : (escapeBlock quotes text).length < rounds.length) :
    basicBlock? rounds (escapeBlock quotes text ++ '"' :: '"' :: '"' :: rest) = some (text, rest) := by
  induction text generalizing quotes rounds with
  | nil =>
    cases rounds with
    | nil => simp at enough
    | cons x rounds =>
      rw [escapeBlock, List.nil_append, basicBlock?_closing rfl]
      exact closing?_replicate 0 (by omega) apart
  | cons c text ih =>
    cases rounds with
    | nil => simp at enough
    | cons x rounds =>
      rw [List.length_cons] at enough
      by_cases quote : c = '"'
      · subst quote
        by_cases third : quotes = 2
        · have written : escapeBlock quotes ('"' :: text) = '\\' :: '"' :: escapeBlock 0 text := by
            simp [escapeBlock, third]
          rw [written, List.length_cons, List.length_cons] at enough
          rw [written, List.cons_append, List.cons_append, basicBlock?_escape rfl,
            ih (Nat.zero_le 2) (by omega)]
          rfl
        · have written : escapeBlock quotes ('"' :: text) = '"' :: escapeBlock (quotes + 1) text := by
            simp [escapeBlock, third]
          rw [written, List.length_cons] at enough
          rw [written, List.cons_append]
          by_cases closes : (escapeBlock (quotes + 1) text ++ '"' :: '"' :: '"' :: rest).take 2 =
              ['"', '"']
          · rw [basicBlock?_closing closes]
            rcases ends_of_take_two (by omega) closes with rfl | ⟨rfl, rfl⟩
            · exact closing?_replicate 1 (by omega) apart
            · exact closing?_replicate 2 (by omega) apart
          · rw [basicBlock?_quote closes, ih (by omega) (by omega)]
            rfl
      · cases escaped : escapeOf? c with
        | some escape =>
          have written : escapeBlock quotes (c :: text) = escape ++ escapeBlock 0 text := by
            simp [escapeBlock, quote, escaped]
          obtain ⟨tail, rfl, reads⟩ := escape?_of_escapeOf? escaped
            (escapeBlock 0 text ++ '"' :: '"' :: '"' :: rest)
          rw [written, List.length_append, List.length_cons] at enough
          rw [written, List.append_assoc, List.cons_append, basicBlock?_escape reads,
            ih (Nat.zero_le 2) (by omega)]
          rfl
        | none =>
          have written : escapeBlock quotes (c :: text) = c :: escapeBlock 0 text := by
            simp [escapeBlock, quote, escaped]
          obtain ⟨notBackslash, notReturn, visible⟩ := plain_of_escapeOf? escaped
          rw [written, List.length_cons] at enough
          rw [written, List.cons_append, basicBlock?_plain quote notBackslash notReturn visible,
            ih (Nat.zero_le 2) (by omega)]
          rfl

/-! ### Literal text on several lines -/

/-- The longest run and the run that goes on, after one more character. -/
def runStep (mark : Char) (state : Nat × Nat) (c : Char) : Nat × Nat :=
  let current := if c == mark then state.2 + 1 else 0
  (max state.1 current, current)

theorem longestRun_eq (mark : Char) (text : List Char) :
    longestRun mark text = (text.foldl (runStep mark) (0, 0)).1 := rfl

/-- The longest run only gets longer. -/
theorem le_foldl_runStep (mark : Char) (text : List Char) (state : Nat × Nat) :
    state.1 ≤ (text.foldl (runStep mark) state).1 := by
  induction text generalizing state with
  | nil => exact Nat.le_refl _
  | cons c text ih => exact Nat.le_trans (Nat.le_max_left _ _) (ih (runStep mark state c))

/-- A run counts at least as many marks as stand together. -/
theorem le_foldl_replicate (mark : Char) (count : Nat) (state : Nat × Nat) (below : state.2 ≤ state.1) :
    state.2 + count ≤ ((List.replicate count mark).foldl (runStep mark) state).1 := by
  induction count generalizing state with
  | zero => exact below
  | succ count ih =>
    have next : runStep mark state mark = (max state.1 (state.2 + 1), state.2 + 1) := by simp [runStep]
    have later := ih (runStep mark state mark) (by rw [next]; exact Nat.le_max_right _ _)
    rw [List.replicate_succ, List.foldl_cons]
    rw [next] at later ⊢
    omega

/-- No run is longer than the longest one. -/
theorem le_longestRun {mark : Char} {count : Nat} {text : List Char}
    (present : List.replicate count mark <:+: text) : count ≤ longestRun mark text := by
  obtain ⟨before, after, rfl⟩ := present
  have ordered : ∀ (text : List Char) (state : Nat × Nat), state.2 ≤ state.1 →
      (text.foldl (runStep mark) state).2 ≤ (text.foldl (runStep mark) state).1 := by
    intro text
    induction text with
    | nil => exact fun _ below => below
    | cons c text ih => exact fun _ _ => ih _ (Nat.le_max_right _ _)
  rw [longestRun_eq, List.foldl_append, List.foldl_append]
  have run := le_foldl_replicate mark count _ (ordered before (0, 0) (Nat.le_refl 0))
  have later := le_foldl_runStep mark after
    ((List.replicate count mark).foldl (runStep mark) (before.foldl (runStep mark) (0, 0)))
  omega

/-- Literal text on several lines is read back if it holds no control character and nowhere three quotes
in a row. -/
theorem literalBlock?_append {text rest : List Char} (visible : ∀ c ∈ text, isControl c = false)
    (few : ¬ List.replicate 3 '\'' <:+: text) (apart : rest.head? ≠ some '\'') :
    literalBlock? (text ++ '\'' :: '\'' :: '\'' :: rest) = some (text, rest) := by
  induction text with
  | nil => exact closing?_replicate 0 (by omega) apart
  | cons c text ih =>
    rw [List.forall_mem_cons] at visible
    have later : ¬ List.replicate 3 '\'' <:+: text := fun present => few (List.infix_cons present)
    have next := ih visible.2 later
    rw [List.cons_append]
    by_cases quote : c = '\''
    · subst quote
      by_cases closes : (text ++ '\'' :: '\'' :: '\'' :: rest).take 2 = ['\'', '\'']
      · have closing : literalBlock? ('\'' :: (text ++ '\'' :: '\'' :: '\'' :: rest)) =
            closing? '\'' ('\'' :: (text ++ '\'' :: '\'' :: '\'' :: rest)) := by
          simp [literalBlock?, closes]
        rw [closing]
        match text with
        | [] => exact closing?_replicate 1 (by omega) apart
        | [d] =>
          obtain ⟨rfl, _⟩ := List.cons.inj closes
          exact closing?_replicate 2 (by omega) apart
        | d :: e :: text =>
          obtain ⟨rfl, others⟩ := List.cons.inj closes
          obtain ⟨rfl, _⟩ := List.cons.inj others
          exact absurd (List.prefix_append ['\'', '\'', '\''] text).isInfix few
      · have goesOn : literalBlock? ('\'' :: (text ++ '\'' :: '\'' :: '\'' :: rest)) =
            Taken.cons '\'' (literalBlock? (text ++ '\'' :: '\'' :: '\'' :: rest)) := by
          simp [literalBlock?, closes]
        rw [goesOn, next]
        rfl
    · have notReturn : c ≠ '\r' := by
        rintro rfl
        exact absurd visible.1 (by decide)
      have plain : literalBlock? (c :: (text ++ '\'' :: '\'' :: '\'' :: rest)) =
          Taken.cons c (literalBlock? (text ++ '\'' :: '\'' :: '\'' :: rest)) := by
        simp [literalBlock?, notReturn, visible.1]
      rw [plain, next]
      rfl

/-! ### Any style -/

/-- The line break that a block starts with is dropped, and no other one. -/
theorem dropFirstBreak_firstBreak {text written : List Char}
    (starts : '\n' ∉ text → written.head? ≠ some '\n' ∧ written.head? ≠ some '\r') :
    dropFirstBreak (firstBreak text ++ written) = written := by
  by_cases broken : '\n' ∈ text
  · simp [firstBreak, broken, dropFirstBreak]
  · obtain ⟨noBreak, noReturn⟩ := starts broken
    simp only [firstBreak, broken, List.contains_eq_mem, decide_false, Bool.false_eq_true, if_false,
      List.nil_append]
    unfold dropFirstBreak
    split
    · simp at noBreak
    · simp at noReturn
    · rfl

/-- What is written for text without line breaks starts with none. -/
theorem head?_escapeBlock_append {text : List Char} (noBreak : '\n' ∉ text) (rest : List Char) :
    (escapeBlock 0 text ++ '"' :: rest).head? ≠ some '\n' ∧
      (escapeBlock 0 text ++ '"' :: rest).head? ≠ some '\r' := by
  cases text with
  | nil => simp [escapeBlock]
  | cons c text =>
    have other : c ≠ '\n' := by
      rintro rfl
      exact noBreak List.mem_cons_self
    by_cases quote : c = '"'
    · simp [escapeBlock, quote]
    · cases escaped : escapeOf? c with
      | some written =>
        obtain ⟨tail, rfl, _⟩ := escape?_of_escapeOf? escaped []
        simp [escapeBlock, quote, escaped]
      | none =>
        obtain ⟨_, notReturn, _⟩ := plain_of_escapeOf? escaped
        simp [escapeBlock, quote, escaped, other, notReturn]

/-- Literal styles are only chosen for text that they can hold. -/
theorem quoteStyle_literal (text : List Char) :
    (quoteStyle text = .literalLine →
      ∀ c ∈ text, c ≠ '\'' ∧ isControl c = false ∧ c ≠ '\n') ∧
    (quoteStyle text = .literalBlock →
      (∀ c ∈ text, isControl c = false) ∧ longestRun '\'' text ≤ 2) := by
  unfold quoteStyle
  constructor
  · intro chosen
    simp only at chosen
    split at chosen
    · cases chosen
    split at chosen
    · rename_i fits
      simp only [Bool.and_eq_true, Bool.not_eq_true', List.any_eq_false, List.contains_eq_mem,
        decide_eq_false_iff_not] at fits
      intro c present
      refine ⟨?_, by simpa using fits.1.1 c present, ?_⟩
      · rintro rfl
        exact fits.1.2 present
      · rintro rfl
        exact fits.2 present
    · repeat' split at chosen
      all_goals cases chosen
  · intro chosen
    simp only at chosen
    split at chosen
    · cases chosen
    split at chosen
    · cases chosen
    split at chosen
    · cases chosen
    split at chosen
    · rename_i fits
      simp only [Bool.and_eq_true, Bool.not_eq_true', List.any_eq_false, decide_eq_true_eq] at fits
      exact ⟨fun c present => by simpa using fits.1 c present, fits.2⟩
    · split at chosen <;> cases chosen

/-- Text in quotes on one line is no block. -/
theorem quoted?_line {mark : Char} (isMark : mark = '"' ∨ mark = '\'') {written rest : List Char}
    (plain : written.head? ≠ some mark) (apart : rest.head? ≠ some mark) :
    quoted? (mark :: written ++ mark :: rest) = quotedLine? (mark :: written ++ mark :: rest) := by
  have two : ∀ more, written ++ mark :: rest ≠ mark :: mark :: more := by
    intro more same
    cases written with
    | nil =>
      obtain ⟨_, others⟩ := List.cons.inj same
      exact apart (by rw [others]; rfl)
    | cons c written =>
      obtain ⟨rfl, _⟩ := List.cons.inj same
      exact plain rfl
  rw [List.cons_append]
  unfold quoted?
  rcases isMark with rfl | rfl
  · split
    · rename_i same
      exact absurd (List.cons.inj same).2 (two _)
    · rename_i same
      cases (List.cons.inj same).1
    · rfl
  · split
    · rename_i same
      cases (List.cons.inj same).1
    · rename_i same
      exact absurd (List.cons.inj same).2 (two _)
    · rfl

/-- An escaped text does not start with a quote. -/
theorem head?_escapeLine (text : List Char) : (escapeLine text).head? ≠ some '"' := by
  cases text with
  | nil => simp [escapeLine]
  | cons c text =>
    rw [escapeLine_cons]
    rcases lineChar_cases c with ⟨tail, written, _⟩ | ⟨written, notQuote, _⟩
    · simp [written]
    · simpa [written] using notQuote

/-- Text in quotes is read back, whatever it holds, and reading goes on right behind the quotes. -/
theorem quoted?_quote (text : List Char) {rest : List Char} (notBasic : rest.head? ≠ some '"')
    (notLiteral : rest.head? ≠ some '\'') : quoted? (quote text ++ rest) = some (text, rest) := by
  obtain ⟨line, block⟩ := quoteStyle_literal text
  unfold quote
  cases style : quoteStyle text with
  | basicLine =>
    have shape : '"' :: escapeLine text ++ ['"'] ++ rest = '"' :: escapeLine text ++ '"' :: rest := by simp
    simp only [shape]
    rw [quoted?_line (.inl rfl) (head?_escapeLine text) notBasic]
    refine basicLine?_escapeLine text rest ?_
    simp only [List.cons_append, List.length_cons, List.length_append]
    omega
  | literalLine =>
    have shape : '\'' :: text ++ ['\''] ++ rest = '\'' :: text ++ '\'' :: rest := by simp
    have plain := line style
    simp only [shape]
    rw [quoted?_line (.inr rfl) ?_ notLiteral]
    · exact literalLine?_append rest plain
    · intro quote
      exact (plain '\'' (List.mem_of_head? quote)).1 rfl
  | basicBlock =>
    have shape : ['"', '"', '"'] ++ firstBreak text ++ escapeBlock 0 text ++ ['"', '"', '"'] ++ rest =
        '"' :: '"' :: '"' :: (firstBreak text ++ (escapeBlock 0 text ++ '"' :: '"' :: '"' :: rest)) := by
      simp
    simp only [shape]
    rw [quoted?, dropFirstBreak_firstBreak fun noBreak => head?_escapeBlock_append noBreak _]
    exact basicBlock?_escapeBlock (Nat.zero_le 2) text notBasic (by simp; omega)
  | literalBlock =>
    obtain ⟨visible, few⟩ := block style
    have shape : ['\'', '\'', '\''] ++ firstBreak text ++ text ++ ['\'', '\'', '\''] ++ rest =
        '\'' :: '\'' :: '\'' :: (firstBreak text ++ (text ++ '\'' :: '\'' :: '\'' :: rest)) := by
      simp
    simp only [shape]
    rw [quoted?, dropFirstBreak_firstBreak ?_]
    · refine literalBlock?_append visible (fun three => ?_) notLiteral
      have long := le_longestRun three
      omega
    · intro noBreak
      cases text with
      | nil => simp
      | cons c text =>
        have notReturn : c ≠ '\r' := by
          rintro rfl
          exact absurd (visible '\r' List.mem_cons_self) (by decide)
        have other : c ≠ '\n' := by
          rintro rfl
          exact noBreak List.mem_cons_self
        simp [notReturn, other]

end DefectGraph.Toml
