import DefectGraph.Proofs.Descriptors

/-!
# Where descriptors go wrong

A text that is not decoded is a sequence of units, then a run of brackets, then something that no element
starts. There is one way to take it apart like that, and the fault that is reported can be read off the
three parts.

## Main Definitions

* `Split` - a text as units, brackets and what follows them.
* `Split.Shows` - the fault that a split shows, and its offset.

## Main Statements

* `Stuck.not_unit` - no unit starts a text that is stuck.
* `Split.unique` - a text has at most one split that shows a fault.
* `fault_located` - the fault that is reported is the one that the only such split shows.

## Design Notes

A text has many splits, because a split may stop before units that are there. What makes the split with a
fault the only one is that units are not stuck: the units of one split cannot go on where the other stops.
-/

namespace DefectGraph.Descriptor

/-! ### Splits -/

/-- A text as a sequence of units, a run of brackets, and a rest that starts with no bracket. -/
@[ext]
structure Split (text : List Char) where
  units : List TypeUnit
  brackets : Nat
  rest : List Char
  spelled : text = spelling units ++ (List.replicate brackets '[' ++ rest)
  opens : rest.head? ≠ some '['

/-- The fault that a split shows, and its offset in characters. -/
inductive Split.Shows {text : List Char} (split : Split text) : Nat → DescriptorFault → Prop
  /-- The text ends with brackets; the fault is where the first of them is. -/
  | missingArrayElement : split.rest = [] → 0 < split.brackets →
      split.Shows (spelling split.units).length .missingArrayElement
  /-- The name of a class has no end; the fault is where it starts, behind the brackets. -/
  | unterminatedObject {name : List Char} : split.rest = 'L' :: name → ';' ∉ name →
      split.Shows ((spelling split.units).length + split.brackets) .unterminatedObject
  /-- Behind the brackets is a character that is neither that of a class nor that of a primitive type. -/
  | unknownCode {code : Char} {tail : List Char} : split.rest = code :: tail → code ≠ 'L' →
      (∀ type : Primitive, type.letter ≠ code) →
      split.Shows ((spelling split.units).length + split.brackets) (.unknownCode code)

/-- What follows the units of a split that shows a fault is stuck there. -/
theorem Split.Shows.stuck {text : List Char} {split : Split text} {offset : Nat}
    {fault : DescriptorFault} (shows : split.Shows offset fault) :
    ∃ behind, Stuck (List.replicate split.brackets '[' ++ split.rest) behind fault ∧
      offset = (spelling split.units).length + behind := by
  obtain ⟨units, brackets, rest, spelled, opens⟩ := split
  cases shows with
  | missingArrayElement ends positive =>
    cases ends
    obtain ⟨count, rfl⟩ := Nat.exists_eq_add_one.mpr positive
    refine ⟨0, ?_, rfl⟩
    rw [List.append_nil]
    exact .brackets count
  | unterminatedObject starts unclosed =>
    cases starts
    exact ⟨brackets, .className brackets unclosed, rfl⟩
  | unknownCode starts noClass noLetter =>
    cases starts
    exact ⟨brackets, .code brackets _ (by simpa using opens) noClass noLetter, rfl⟩

/-- A text that is stuck behind some units has a split with these units, which shows the fault. -/
theorem Stuck.exists_split {text rest : List Char} {units : List TypeUnit} {behind : Nat}
    {fault : DescriptorFault} (spelled : text = spelling units ++ rest)
    (stuck : Stuck rest behind fault) :
    ∃ split : Split text, split.Shows ((spelling units).length + behind) fault := by
  cases stuck with
  | brackets count =>
    refine ⟨⟨units, count + 1, [], by rw [List.append_nil, spelled], by simp⟩, ?_⟩
    exact .missingArrayElement rfl (Nat.succ_pos count)
  | @className _ name unclosed =>
    exact ⟨⟨units, behind, 'L' :: name, spelled, by simp⟩, .unterminatedObject rfl unclosed⟩
  | @code _ c tail noBracket noClass noLetter =>
    exact ⟨⟨units, behind, c :: tail, spelled, by simpa using noBracket⟩,
      .unknownCode rfl noClass noLetter⟩

/-! ### One split at most -/

/-- No unit starts a text that is stuck. -/
theorem Stuck.not_unit {text : List Char} {behind : Nat} {fault : DescriptorFault}
    (stuck : Stuck text behind fault) (u : TypeUnit) (rest : List Char) :
    text ≠ u.spelling ++ rest := by
  obtain ⟨depth, element⟩ := u
  have opens := element.head?_spelling_append rest
  intro same
  rw [TypeUnit.spelling, List.append_assoc] at same
  cases stuck with
  | brackets count =>
    rw [← List.append_nil (List.replicate (count + 1) '[')] at same
    obtain ⟨-, ends⟩ := brackets_append_inj (by simp) opens same
    cases element <;> simp [Element.spelling] at ends
  | className count unclosed =>
    obtain ⟨-, starts⟩ := brackets_append_inj (by simp) opens same
    cases element with
    | primitive type => exact type.letter_ne.2 (List.cons.inj starts).1.symm
    | object internal closed =>
      apply unclosed
      rw [(List.cons.inj starts).2]
      simp
  | code count tail noBracket noClass noLetter =>
    obtain ⟨-, starts⟩ := brackets_append_inj (by simpa using noBracket) opens same
    cases element with
    | primitive type => exact noLetter type (List.cons.inj starts).1.symm
    | object internal closed => exact noClass (List.cons.inj starts).1

/-- Units end where a text is stuck. -/
theorem spelling_append_stuck_inj {units others : List TypeUnit} {rest last : List Char}
    {behind behindToo : Nat} {fault faultToo : DescriptorFault} (stuck : Stuck rest behind fault)
    (stuckToo : Stuck last behindToo faultToo)
    (same : spelling units ++ rest = spelling others ++ last) : units = others ∧ rest = last := by
  induction units generalizing others with
  | nil =>
    cases others with
    | nil => exact ⟨rfl, same⟩
    | cons v others =>
      rw [spelling_cons, List.append_assoc] at same
      exact absurd same (stuck.not_unit v _)
  | cons u units ih =>
    rw [spelling_cons, List.append_assoc] at same
    cases others with
    | nil => exact absurd same.symm (stuckToo.not_unit u _)
    | cons v others =>
      rw [spelling_cons, List.append_assoc] at same
      obtain ⟨rfl, rests⟩ := TypeUnit.spelling_append_inj same
      obtain ⟨rfl, ends⟩ := ih rests
      exact ⟨rfl, ends⟩

/-- A text has at most one split that shows a fault. -/
theorem Split.unique {text : List Char} {split other : Split text} {offset otherOffset : Nat}
    {fault otherFault : DescriptorFault} (shows : split.Shows offset fault)
    (showsToo : other.Shows otherOffset otherFault) : split = other := by
  obtain ⟨_, stuck, -⟩ := shows.stuck
  obtain ⟨_, stuckToo, -⟩ := showsToo.stuck
  obtain ⟨units, rests⟩ :=
    spelling_append_stuck_inj stuck stuckToo (split.spelled.symm.trans other.spelled)
  obtain ⟨brackets, rest⟩ := brackets_append_inj split.opens other.opens rests
  exact Split.ext units brackets rest

/-! ### Faults that are reported -/

/-- Decoding fails with the first fault from the front, and names the whole text. -/
theorem decode_eq_error_iff {text : String} {error : DescriptorError} :
    decode text = .error error ↔
      error.descriptor = text ∧
        decodeFrom (.element 0 0) text.toList = .error (error.offset, error.fault) := by
  obtain ⟨descriptor, offset, fault⟩ := error
  unfold decode
  cases decodeFrom (.element 0 0) text.toList with
  | ok types => simp [Except.mapError]
  | error found =>
    obtain ⟨place, reason⟩ := found
    simp [Except.mapError, eq_comm (a := text)]

/-- The fault that is reported is the one that a split shows. -/
theorem Split.Shows.decodeFrom {text : List Char} {split : Split text} {offset : Nat}
    {fault : DescriptorFault} (shows : split.Shows offset fault) :
    Descriptor.decodeFrom (.element 0 0) text = .error (offset, fault) := by
  obtain ⟨behind, stuck, rfl⟩ := shows.stuck
  have read := decodeFrom_units 0 split.units (List.replicate split.brackets '[' ++ split.rest)
  rw [← split.spelled, decodeFrom_stuck _ stuck, Nat.zero_add] at read
  exact read

/-- A text that is rejected has a split that shows the fault that is reported. -/
theorem exists_split_of_error {text : List Char} {offset : Nat} {fault : DescriptorFault}
    (rejected : decodeFrom (.element 0 0) text = .error (offset, fault)) :
    ∃ split : Split text, split.Shows offset fault := by
  obtain ⟨units, rest, spelled, rfl | ⟨behind, reason, stuck⟩⟩ := exists_units text
  · rw [spelled, List.append_nil, decodeFrom_spelling] at rejected
    cases rejected
  · obtain ⟨split, shows⟩ := stuck.exists_split spelled
    have reported := shows.decodeFrom
    rw [rejected] at reported
    cases reported
    exact ⟨split, shows⟩

/-- A text that is rejected splits in exactly one way into units, brackets and a rest that show the fault
that is reported, at its offset in characters; and every split that shows a fault makes it be reported. -/
theorem fault_located (text : String) :
    (∀ error, decode text = .error error → error.descriptor = text ∧
      ∃! split : Split text.toList, split.Shows error.offset error.fault) ∧
    ∀ (split : Split text.toList) (offset : Nat) (fault : DescriptorFault),
      split.Shows offset fault → decode text = .error ⟨text, offset, fault⟩ := by
  refine ⟨?_, ?_⟩
  · intro error rejected
    obtain ⟨named, found⟩ := decode_eq_error_iff.mp rejected
    obtain ⟨split, shows⟩ := exists_split_of_error found
    exact ⟨named, split, shows, fun other showsToo => Split.unique showsToo shows⟩
  · intro split offset fault shows
    exact decode_eq_error_iff.mpr ⟨rfl, shows.decodeFrom⟩

/-- An unknown letter behind two brackets, after an array of a class whose name is not ASCII: six characters
stand before it, and seven bytes. -/
theorem fault_located_behind_accent :
    decode "[Lé;[[Q" = .error ⟨"[Lé;[[Q", 6, .unknownCode 'Q'⟩ ∧
      ∃! split : Split "[Lé;[[Q".toList, split.Shows 6 (.unknownCode 'Q') := by
  obtain ⟨located, reported⟩ := fault_located "[Lé;[[Q"
  let split : Split "[Lé;[[Q".toList :=
    ⟨[⟨1, .object ['é'] (by decide)⟩], 2, ['Q'], by decide, by decide⟩
  have shows : split.Shows 6 (.unknownCode 'Q') :=
    .unknownCode rfl (by decide) fun type => by cases type <;> decide
  have rejected := reported split 6 _ shows
  exact ⟨rejected, (located _ rejected).2⟩

end DefectGraph.Descriptor
