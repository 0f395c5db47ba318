import DefectGraph.Java.Lexer
import DefectGraph.Proofs.Layout.Basic
import Mathlib.Data.List.TakeDrop

/-!
# Tokens stand in order

Every token takes at least one character, so that it stops behind its start, and the next one starts
where it stops or later. A text is cut into gaps and tokens without remainder, so tokens start and stop
between characters.

## Main Definitions

* `IsEdge` - an offset that cuts no character of a text.

## Main Statements

* `numberScans_consume` - no number is empty.
* `next?_pos` - no token is empty.
* `gap?_append` - a gap and what follows it are the whole text.
* `ordered_tokens?` - the tokens of a text stand in order, at edges of it.

## Design Notes

A scan returns what is left of a text. `Shrinks` and `Consumes` say how the rest compares with the text, and
go through the combinators of scans once, so that the many forms of numbers need no proofs of their own.
-/

namespace DefectGraph.Java

/-! ### Numbers -/

namespace Scan

/-- The scan leaves no more than there was. -/
def Shrinks (p : Scan) : Prop :=
  ∀ cs after, p cs = some after → after.length ≤ cs.length

/-- The scan takes a character. -/
def Consumes (p : Scan) : Prop :=
  ∀ cs after, p cs = some after → after.length < cs.length

variable {p q : Scan}

theorem Consumes.shrinks (consumes : Consumes p) : Shrinks p :=
  fun cs after left => Nat.le_of_lt (consumes cs after left)

/-- Scans one after the other leave no more text than there was. -/
theorem Shrinks.then (first : Shrinks p) (second : Shrinks q) : Shrinks (p.then q) := by
  intro cs after left
  obtain ⟨between, readFirst, readSecond⟩ := Option.bind_eq_some_iff.mp left
  exact Nat.le_trans (second between after readSecond) (first cs between readFirst)

/-- They take some if the first one does. -/
theorem Consumes.then (first : Consumes p) (second : Shrinks q) : Consumes (p.then q) := by
  intro cs after left
  obtain ⟨between, readFirst, readSecond⟩ := Option.bind_eq_some_iff.mp left
  exact Nat.lt_of_le_of_lt (second between after readSecond) (first cs between readFirst)

theorem Shrinks.optional (shrinks : Shrinks p) : Shrinks p.optional := by
  intro cs after left
  cases read : p cs with
  | none =>
    rw [Scan.optional, read] at left
    cases left
    exact Nat.le_refl _
  | some rest =>
    rw [Scan.optional, read] at left
    cases left
    exact shrinks cs _ read

/-- An alternative takes some text if both its parts do. -/
theorem Consumes.or (first : Consumes p) (second : Consumes q) : Consumes (p.or q) := by
  intro cs after left
  rcases Option.or_eq_some_iff.mp left with read | ⟨_, read⟩
  · exact first cs after read
  · exact second cs after read

end Scan

open Scan

theorem consumes_scanChar (test : Char → Bool) : Consumes (scanChar test) := by
  intro cs after left
  unfold scanChar at left
  split at left
  · split at left
    · cases left
      exact Nat.lt_succ_self _
    · cases left
  · cases left

/-- Digits are taken from the front. -/
theorem length_digitsTail_le (test : Char → Bool) (cs : List Char) :
    (digitsTail test cs).length ≤ cs.length := by
  fun_induction digitsTail test cs with
  | case1 => exact Nat.le_refl _
  | case2 c rest digit ih => exact Nat.le_succ_of_le ih
  | case3 c rest _ _ _ _ _ _ ih => exact Nat.le_succ_of_le ih
  | case4 => exact Nat.le_refl _
  | case5 => exact Nat.le_refl _
  | case6 => exact Nat.le_refl _

theorem consumes_scanDigits (test : Char → Bool) : Consumes (scanDigits test) := by
  intro cs after left
  obtain ⟨rest, read, rfl⟩ := Option.map_eq_some_iff.mp left
  exact Nat.lt_of_le_of_lt (length_digitsTail_le test rest) (consumes_scanChar test cs rest read)

theorem consumes_scanInteger : Consumes scanInteger := by
  intro cs after left
  unfold scanInteger at left
  split at left
  · cases left
    exact Nat.lt_succ_self _
  · exact consumes_scanDigits _ cs after left

theorem consumes_scanRadix (a b : Char) : Consumes (scanRadix a b) :=
  (consumes_scanChar _).then (consumes_scanChar _).shrinks

theorem shrinks_scanSign : Shrinks scanSign := (consumes_scanChar _).shrinks.optional

theorem consumes_scanFloatSuffix : Consumes scanFloatSuffix :=
  (consumes_scanChar _).or (consumes_scanChar _)

theorem consumes_scanExponent : Consumes scanExponent :=
  ((consumes_scanChar _).then shrinks_scanSign).then (consumes_scanDigits _).shrinks

/-- A number of any kind starts with a character of its own. -/
theorem numberScans_consume : ∀ scan ∈ numberScans, Consumes scan := by
  have decimal := consumes_scanDigits Char.isDigit
  have hex := consumes_scanDigits isHexDigit
  have octal := consumes_scanDigits fun c => '0' ≤ c && c ≤ '7'
  have binary := consumes_scanDigits fun c => c == '0' || c == '1'
  have dot := consumes_scanChar fun c => c == '.'
  have zero := consumes_scanChar fun c => c == '0'
  have long : Shrinks (scanEither 'l' 'L').optional := (consumes_scanChar _).shrinks.optional
  have suffix : Shrinks scanFloatSuffix.optional := consumes_scanFloatSuffix.shrinks.optional
  have exponent : Shrinks scanExponent.optional := consumes_scanExponent.shrinks.optional
  have power : Consumes (((scanEither 'p' 'P').then scanSign).then scanInteger) :=
    ((consumes_scanChar _).then shrinks_scanSign).then consumes_scanInteger.shrinks
  intro scan mem
  simp only [numberScans, List.mem_cons, List.not_mem_nil, or_false] at mem
  rcases mem with rfl | rfl | rfl | rfl | rfl | rfl | rfl | rfl | rfl | rfl | rfl
  · exact consumes_scanInteger.then long
  · exact ((consumes_scanRadix _ _).then hex.shrinks).then long
  · exact ((consumes_scanRadix _ _).then octal.shrinks).then long
  · exact (zero.then octal.shrinks).then long
  · exact ((consumes_scanRadix _ _).then binary.shrinks).then long
  · exact (((decimal.then dot.shrinks).then decimal.shrinks.optional).then exponent).then suffix
  · exact ((dot.then decimal.shrinks).then exponent).then suffix
  · exact (consumes_scanInteger.then consumes_scanExponent.shrinks).then suffix
  · exact (consumes_scanInteger.then exponent).then consumes_scanFloatSuffix.shrinks
  · exact ((consumes_scanRadix _ _).then (hex.shrinks.then dot.shrinks.optional)).then
      (power.then suffix).shrinks.optional
  · exact ((consumes_scanRadix _ _).then
      ((hex.shrinks.optional.then dot.shrinks).then hex.shrinks)).then
      (power.then suffix).shrinks.optional

/-- A number is not empty. -/
theorem numberLength?_pos {cs : List Char} {n : Nat} (found : numberLength? cs = some n) : 0 < n := by
  have mem := List.max?_mem found
  obtain ⟨after, left, rfl⟩ := List.mem_map.mp mem
  obtain ⟨scan, known, read⟩ := List.mem_filterMap.mp left
  have shorter := numberScans_consume scan known _ after read
  omega

/-! ### Texts and symbols -/

/-- A piece of a string literal goes on behind what has been passed. -/
theorem lt_textLength? {block : Bool} {passed : Nat} {cs : List Char} {part : Nat × Bool}
    (found : textLength? block passed cs = some part) : passed < part.1 := by
  fun_induction textLength? block passed cs with
  | case1 =>
    cases found
    simp
  | case2 passed c rest _ _ ih => exact Nat.lt_trans (by omega) (ih found)
  | case3 => cases found
  | case4 =>
    cases found
    simp
  | case5 passed rest _ _ ih => exact Nat.lt_trans (by omega) (ih found)
  | case6 =>
    cases found
    simp
  | case7 passed c rest _ _ ih => exact Nat.lt_trans (by omega) (ih found)
  | case8 => cases found

/-- A symbol is not empty. -/
theorem symbolLength?_pos {cs : List Char} {n : Nat} (found : symbolLength? cs = some n) : 0 < n := by
  have long : ∀ s ∈ longSymbols, 0 < s.length := by decide
  unfold symbolLength? at found
  split at found
  · rename_i s known
    cases found
    exact long s (List.mem_of_find?_eq_some known)
  · split at found
    · cases found
      exact Nat.one_pos
    · cases found

/-- A piece of a string literal is not empty. -/
theorem textToken_pos {part : Option (Nat × Bool)} {whole embedded : TokenKind} {block : Bool}
    {embeddings : List Embedding} {found : TokenKind × Nat × List Embedding}
    (next : part.map (textToken · whole embedded block embeddings) = some found)
    (long : ∀ p, part = some p → 0 < p.1) : 0 < found.2.1 := by
  obtain ⟨p, same, rfl⟩ := Option.map_eq_some_iff.mp next
  unfold textToken
  split
  · exact long p same
  · exact long p same

/-- A token takes a character. -/
theorem next?_pos {embeddings : List Embedding} {cs : List Char}
    {found : TokenKind × Nat × List Embedding} (next : next? embeddings cs = some found) :
    0 < found.2.1 := by
  unfold next? at next
  split at next
  · exact textToken_pos next fun p read => Nat.zero_lt_of_lt (lt_textLength? read)
  · exact textToken_pos next fun p read => Nat.zero_lt_of_lt (lt_textLength? read)
  · split at next
    · cases next
    · obtain ⟨length, _, rfl⟩ := Option.map_eq_some_iff.mp next
      exact Nat.succ_pos _
  · cases next
    exact Nat.one_pos
  · split at next
    · exact textToken_pos next fun p read => Nat.zero_lt_of_lt (lt_textLength? read)
    · cases next
      exact Nat.one_pos
  · split at next
    · cases next
      exact Nat.succ_pos _
    · split at next
      · rename_i n number
        cases next
        exact numberLength?_pos number
      · obtain ⟨length, read, rfl⟩ := Option.map_eq_some_iff.mp next
        exact symbolLength?_pos read
  · cases next

/-! ### Gaps -/

/-- A comment and what is behind it make up the text. -/
theorem blockComment?_append {cs inside after : List Char}
    (found : blockComment? cs = some (inside, after)) : inside ++ after = cs := by
  fun_induction blockComment? cs generalizing inside with
  | case1 rest =>
    cases found
    rfl
  | case2 c rest _ ih =>
    obtain ⟨⟨inside', after'⟩, found', same⟩ := Option.map_eq_some_iff.mp found
    cases same
    rw [List.cons_append, ih found']
  | case3 => cases found

/-- A gap and what follows it are the whole text. -/
theorem gap?_append {rounds cs gap rest : List Char} (found : gap? rounds cs = some (gap, rest)) :
    gap ++ rest = cs := by
  induction rounds generalizing cs gap with
  | nil =>
    cases found
    rfl
  | cons _ rounds ih =>
    unfold gap? at found
    split at found
    · -- a comment up to the end of the line
      rename_i text
      rw [List.span_eq_takeWhile_dropWhile] at found
      obtain ⟨⟨g, after⟩, later, same⟩ := Option.map_eq_some_iff.mp found
      cases same
      simp [ih later]
    · -- a comment with an end of its own
      obtain ⟨⟨inside, after⟩, comment, found⟩ := Option.bind_eq_some_iff.mp found
      obtain ⟨⟨g, after'⟩, later, same⟩ := Option.bind_eq_some_iff.mp found
      cases same
      simp [ih later, blockComment?_append comment]
    · split at found
      · obtain ⟨⟨g, after⟩, later, same⟩ := Option.map_eq_some_iff.mp found
        cases same
        rw [List.cons_append, ih later]
      · cases found
        rfl
    · cases found
      rfl

/-! ### The token stream -/

/-- Lengths add up from any start. -/
theorem foldl_byteLength (cs : List Char) (n : Nat) :
    cs.foldl (fun n c => n + c.utf8Size) n = n + byteLength cs := by
  unfold byteLength
  induction cs generalizing n with
  | nil => rfl
  | cons c rest ih => rw [List.foldl_cons, List.foldl_cons, ih, ih (0 + _), Nat.zero_add, Nat.add_assoc]

@[simp]
theorem byteLength_cons (c : Char) (cs : List Char) :
    byteLength (c :: cs) = c.utf8Size + byteLength cs := by
  rw [byteLength, List.foldl_cons, foldl_byteLength, Nat.zero_add]

/-- Texts one after the other take the bytes of both. -/
@[simp]
theorem byteLength_append (first second : List Char) :
    byteLength (first ++ second) = byteLength first + byteLength second := by
  rw [byteLength, List.foldl_append, foldl_byteLength]
  rfl

/-- A part that is not empty takes some bytes. -/
theorem byteLength_take_pos {cs : List Char} {n : Nat} (more : cs ≠ []) (pos : 0 < n) :
    0 < byteLength (cs.take n) := by
  cases cs with
  | nil => exact absurd rfl more
  | cons c rest =>
    obtain ⟨m, rfl⟩ := Nat.exists_eq_succ_of_ne_zero (Nat.ne_of_gt pos)
    rw [List.take_succ_cons, byteLength_cons]
    exact Nat.lt_of_lt_of_le c.utf8Size_pos (Nat.le_add_right _ _)

/-- The offset lies between two characters of the text, or at one of its ends. -/
def IsEdge (text : List Char) (offset : Nat) : Prop :=
  ∃ before after, before ++ after = text ∧ byteLength before = offset

/-- The tokens of what is left of a text stand in order from there on, at edges of the whole text. -/
theorem ordered_tokensFrom? {rounds : List Char} {embeddings : List Embedding} (passed : List Char)
    {cs : List Char} {ts : List Token} (cut : tokensFrom? rounds (byteLength passed) embeddings cs = some ts) :
    OrderedFrom (IsEdge (passed ++ cs)) (byteLength passed) ts := by
  -- a round cuts one token, and the next starts with the offset where that one stops
  induction rounds generalizing passed embeddings cs ts with
  | nil =>
    cases cut
    exact ⟨passed, cs, rfl, rfl⟩
  | cons _ rounds ih =>
    unfold tokensFrom? at cut
    obtain ⟨⟨gap, rest⟩, isGap, cut⟩ := Option.bind_eq_some_iff.mp cut
    dsimp only at cut
    split at cut
    · cases cut
      exact ⟨passed, cs, rfl, rfl⟩
    · rename_i more
      split at cut
      · cases cut
      · rename_i found next
        obtain ⟨later, cutLater, done⟩ := Option.bind_eq_some_iff.mp cut
        cases done
        have text := byteLength_take_pos (by simpa using more) (next?_pos next)
        have whole := gap?_append isGap
        refine ⟨⟨passed, cs, rfl, rfl⟩, Nat.le_add_right _ _, ?_, Nat.lt_add_of_pos_right text, ?_⟩
        · exact ⟨passed ++ gap, rest, by rw [List.append_assoc, whole], byteLength_append passed gap⟩
        · have stop : byteLength passed + byteLength gap + byteLength (rest.take found.2.1) =
              byteLength (passed ++ (gap ++ rest.take found.2.1)) := by
            rw [byteLength_append, byteLength_append, Nat.add_assoc]
          rw [stop] at cutLater
          have tail := ih _ cutLater
          rw [List.append_assoc, List.append_assoc, List.take_append_drop, whole, ← stop] at tail
          exact tail

/-- Tokens in order from a place are so from any edge before it. -/
theorem OrderedFrom.mono {edge : Nat → Prop} {first second : Nat} {ts : List Token}
    (ordered : OrderedFrom edge second ts) (le : first ≤ second) (isEdge : edge first) :
    OrderedFrom edge first ts := by
  cases ts with
  | nil => exact isEdge
  | cons t rest => exact ⟨isEdge, Nat.le_trans le ordered.2.1, ordered.2.2⟩

/-- The tokens of a source text stand in order, at edges of the text. -/
theorem ordered_tokens? {source : String} {ts : List Token} (cut : tokens? source = some ts) :
    OrderedFrom (IsEdge source.toList) 0 ts := by
  have start : IsEdge source.toList 0 := ⟨[], source.toList, rfl, rfl⟩
  unfold tokens? at cut
  split at cut
  · cases cut
    exact start
  · rename_i c cs text
    rw [text] at start ⊢
    split at cut
    · have mark : c.utf8Size = byteLength [c] := (Nat.zero_add _).symm
      rw [mark] at cut
      exact (ordered_tokensFrom? [c] cut).mono (Nat.zero_le _) start
    · exact ordered_tokensFrom? [] cut

end DefectGraph.Java
