import DefectGraph.CommandLine

/-!
# The marker on the command line

A command line is read without a look at the marker that it gives: another marker in its place changes
the marker and nothing else.

## Main Definitions

* `Arguments.mark` - the arguments with a marker.
* `Arguments.Progress.IsBlind` - a step that treats a marker that was given as an unknown text.

## Main Statements

* `Arguments.Progress.isBlind_meet`, `Arguments.Progress.isBlind_meetAll` - one word and all words are met blindly.
* `Arguments.read_attachedMarker` - a command line that gives a marker is read as with any other marker.
* `Arguments.read_attachedMarker_of_apart` - a marker that stands apart is read as an attached one.

## Design Notes

The statement about whole command lines is an induction over their words, and its step is that one word is
met blindly. `IsBlind` also speaks about failures: where a step fails, it fails in the same way for every
marker. Without that, a command line might be refused because of the marker it gives.
-/

namespace DefectGraph.Arguments

/-! ### Changing the marker -/

/-- The arguments with this marker. -/
def mark (v : String) (a : Arguments) : Arguments := { a with excludeMarker := some v }

/-- Changing a marker that is given changes nothing about what is given. -/
theorem isGiven_mark {a : Arguments} (given : a.excludeMarker.isSome) (v : String) (option : ValueOption) :
    (a.mark v).isGiven option = a.isGiven option := by
  cases option <;> simp [isGiven, mark, given]

/-- Other options are given in the same way, whatever the marker. -/
theorem give_mark {a : Arguments} (given : a.excludeMarker.isSome) (v : String) (option : ValueOption)
    (value : String) : (a.mark v).give option value = (a.give option value).map (mark v) := by
  unfold give
  rw [isGiven_mark given]
  cases repeated : a.isGiven option with
  | true => rfl
  | false =>
    cases option with
    | input => cases readPath .input value <;> simp [mark, Except.map]
    | workingDirectory => cases readPath .workingDirectory value <;> simp [mark, Except.map]
    | output => cases readPath .output value <;> simp [mark, Except.map]
    | jobs => cases readJobs value <;> simp [mark, Except.map]
    | excludeMarker =>
      rw [isGiven, given] at repeated
      cases repeated

/-- Switches are turned on in the same way, whatever the marker. -/
theorem turnOn_mark (a : Arguments) (v : String) (option : Switch) :
    (a.mark v).turnOn option = (a.turnOn option).map (mark v) := by
  cases option with
  | keepIsolated => cases on : a.keepIsolated <;> simp [turnOn, mark, on, Except.map]
  | printConfig => cases on : a.printConfig <;> simp [turnOn, mark, on, Except.map]
  | quiet => cases on : a.quiet <;> simp [turnOn, mark, on, Except.map]
  | verbose | help | version => rfl

/-- The final check does not look at the marker. -/
theorem check_mark (a : Arguments) (v : String) : (a.mark v).check = a.check.map (mark v) := by
  by_cases torn : (a.quiet && a.verbose != 0) = true
  · simp only [check, mark, torn, if_true, Except.map]
  · by_cases idle : (a.input.isNone && !a.printConfig) = true
    · simp only [check, mark, torn, idle, Bool.false_eq_true, if_true, if_false, Except.map]
    · simp only [check, mark, torn, idle, Bool.false_eq_true, if_false, Except.map]

namespace Progress

/-- The progress with this marker. -/
def mark (v : String) (p : Progress) : Progress := { p with arguments := p.arguments.mark v }

/-- Marking with the marker that is there changes nothing. -/
theorem mark_self {p : Progress} {v : String} (given : p.arguments.excludeMarker = some v) : p.mark v = p := by
  simp [mark, Arguments.mark, ← given]

/-- Settling the arguments does not look at the marker. -/
theorem settle_mark {p : Progress} (given : p.arguments.excludeMarker.isSome) (v : String) :
    (p.mark v).settle = p.settle.map (Arguments.mark v) := by
  obtain ⟨a, _ | ⟨option, _ | value⟩⟩ := p
  · rfl
  · rfl
  · exact give_mark given v option value

/-- A step that treats a marker that was given as an unknown text. -/
def IsBlind (step : Progress → Except ArgumentError Progress) : Prop :=
  ∀ p v, p.arguments.excludeMarker.isSome → step (p.mark v) = (step p).map (mark v)

/-- Progress that a marker does not change has that marker. -/
theorem excludeMarker_of_map {outcome : Except ArgumentError Progress} {q : Progress} {v : String}
    (marked : outcome = outcome.map (mark v)) (done : outcome = .ok q) :
    q.arguments.excludeMarker = some v := by
  rw [done] at marked
  rw [Except.ok.inj marked]
  rfl

/-- A marker that was given stays. -/
theorem IsBlind.excludeMarker_eq {step : Progress → Except ArgumentError Progress} (blind : IsBlind step)
    {p q : Progress} {v : String} (given : p.arguments.excludeMarker = some v) (done : step p = .ok q) :
    q.arguments.excludeMarker = some v := by
  have marked := blind p v (by simp [given])
  rw [mark_self given] at marked
  exact excludeMarker_of_map marked done

/-- Steps that do not look at the marker can be taken one after the other. -/
theorem IsBlind.bind {first second : Progress → Except ArgumentError Progress} (before : IsBlind first)
    (after : IsBlind second) : IsBlind fun p => first p >>= second := by
  intro p v given
  obtain ⟨old, isOld⟩ := Option.isSome_iff_exists.mp given
  simp only [before p v given]
  cases done : first p with
  | error e => rfl
  | ok q => exact after q v (by simp [before.excludeMarker_eq isOld done])

/-! ### Words -/

/-- What follows the settling of a value that waits is blind when it is so for the arguments. -/
theorem isBlind_settle {next : Arguments → Except ArgumentError Progress}
    (blind : ∀ a v, a.excludeMarker.isSome → next (a.mark v) = (next a).map (mark v)) :
    IsBlind fun p => p.settle >>= next := by
  intro p v given
  obtain ⟨old, isOld⟩ := Option.isSome_iff_exists.mp given
  have kept := settle_mark given old
  rw [mark_self isOld] at kept
  simp only [settle_mark given v]
  cases settled : p.settle with
  | error e => rfl
  | ok a =>
    rw [settled] at kept
    refine blind a v ?_
    rw [Except.ok.inj kept]
    rfl

/-- An option with a value does not look at the marker. -/
theorem isBlind_meetValue (option : ValueOption) (attached : Option String) :
    IsBlind fun p => p.meetValue option attached := by
  refine isBlind_settle fun a v given => ?_
  cases attached with
  | none => rfl
  | some value =>
    simp only [give_mark given v option value]
    cases a.give option value <;> rfl

/-- A switch does not look at the marker. -/
theorem isBlind_meetSwitch (option : Switch) : IsBlind fun p => p.meetSwitch option := by
  refine isBlind_settle fun a v _ => ?_
  simp only [turnOn_mark a v option]
  cases a.turnOn option <;> rfl

theorem isBlind_meetLong (name : String) (attached : Option String) :
    IsBlind fun p => p.meetLong name attached := by
  unfold meetLong
  match longNames.lookup name, attached with
  | .none, _ => exact fun _ _ _ => rfl
  | .some (.value option), attached => exact isBlind_meetValue option attached
  | .some (.switch option), .some _ => exact fun _ _ _ => rfl
  | .some (.switch option), .none => exact isBlind_meetSwitch option

/-- Neither do letters that stand together. -/
theorem isBlind_meetLetters (text : List Char) : IsBlind fun p => p.meetLetters text := by
  induction text with
  | nil => exact fun _ _ _ => rfl
  | cons c rest ih =>
    unfold meetLetters
    match letters.lookup c with
    | .none => exact fun _ _ _ => rfl
    | .some (.value option) => exact isBlind_meetValue option (attachedValue rest)
    | .some (.switch option) => exact (isBlind_meetSwitch option).bind ih

theorem isBlind_meetPlain (word : String) : IsBlind fun p => p.meetPlain word := by
  rintro ⟨a, _ | ⟨option, _ | value⟩⟩ v _ <;> rfl

/-- A word is met without a look at the marker. -/
theorem isBlind_meet (word : String) : IsBlind fun p => p.meet word := by
  unfold meet
  split
  · exact isBlind_meetLong _ _
  · exact isBlind_meetPlain word
  · exact isBlind_meetLetters _
  · exact isBlind_meetPlain word

/-- Words are met without a look at the marker. -/
theorem isBlind_meetAll (words : List String) : IsBlind fun p => p.meetAll words := by
  induction words with
  | nil => exact fun _ _ _ => rfl
  | cons word rest ih =>
    unfold meetAll
    split
    · split <;> exact fun _ _ _ => rfl
    · exact (isBlind_meet word).bind ih

end Progress

/-! ### An attached marker -/

/-- The word that gives the marker this text. -/
def attachedMarker (v : String) : String := "--exclude-marker=" ++ v

/-- The marker that is given is the only difference that giving it makes. -/
theorem give_excludeMarker (a : Arguments) (v w : String) :
    a.give .excludeMarker v = (a.give .excludeMarker w).map (mark v) := by
  unfold give
  cases a.isGiven .excludeMarker <;> rfl

theorem attachedMarker_ne_dash (v : String) : attachedMarker v ≠ "--" := by
  unfold attachedMarker
  rw [ne_eq, ← String.toList_inj, String.toList_append]
  simp

namespace Progress

/-- Words are met one by one up to a double dash. -/
theorem meetAll_cons {word : String} (noDash : word ≠ "--") (p : Progress) (rest : List String) :
    p.meetAll (word :: rest) = p.meet word >>= fun q => q.meetAll rest := by
  rw [meetAll, if_neg (by simpa using noDash)]

/-- Words are met one after the other, up to a double dash at the end. -/
theorem meetAll_cons_ok {p q : Progress} {word : String} {rest : List String} :
    p.meetAll (word :: rest) = .ok q ↔
      (word = "--" ∧ rest = [] ∧ p = q) ∨
        (word ≠ "--" ∧ ∃ r, p.meet word = .ok r ∧ r.meetAll rest = .ok q) := by
  by_cases dash : word = "--"
  · subst dash
    cases rest <;> simp [meetAll]
  · rw [meetAll_cons dash]
    cases met : p.meet word <;> simp [bind, Except.bind, dash]

/-- A marker behind an equals sign is the value of its option. -/
theorem meet_attachedMarker (p : Progress) (v : String) :
    p.meet (attachedMarker v) = p.meetValue .excludeMarker (some v) := by
  have shape : (attachedMarker v).toList = '-' :: '-' :: ("exclude-marker".toList ++ '=' :: v.toList) := by
    unfold attachedMarker
    simp
  have span : ("exclude-marker".toList ++ '=' :: v.toList).span (fun c => c != '=') =
      ("exclude-marker".toList, '=' :: v.toList) := rfl
  have split : splitLong ("exclude-marker".toList ++ '=' :: v.toList) = ("exclude-marker", some v) := by
    rw [splitLong, span]
    simp
  rw [meet, shape]
  simp only [split]
  rfl

/-- Two attached markers lead to the same progress, but for the marker. -/
theorem meet_attachedMarker_eq (p : Progress) (v w : String) :
    p.meet (attachedMarker v) = (p.meet (attachedMarker w)).map (mark v) := by
  rw [meet_attachedMarker, meet_attachedMarker, meetValue, meetValue]
  cases p.settle with
  | error e => rfl
  | ok a =>
    simp only [bind, Except.bind, give_excludeMarker a v w]
    cases a.give .excludeMarker w <;> rfl

/-- Once the marker has been met, it is the only thing that its text changes. -/
theorem meetAll_attachedMarker (p : Progress) (before after : List String) (v w : String) :
    p.meetAll (before ++ attachedMarker v :: after) =
      (p.meetAll (before ++ attachedMarker w :: after)).map (mark v) := by
  induction before generalizing p with
  | nil =>
    rw [List.nil_append, List.nil_append, meetAll_cons (attachedMarker_ne_dash v),
      meetAll_cons (attachedMarker_ne_dash w), meet_attachedMarker_eq p v w]
    cases met : p.meet (attachedMarker w) with
    | error e => rfl
    | ok q =>
      have given := excludeMarker_of_map (meet_attachedMarker_eq p w w) met
      exact isBlind_meetAll after q v (by simp [given])
  | cons word rest ih =>
    simp only [List.cons_append, meetAll]
    split
    · simp [Except.map]
    · cases p.meet word with
      | error e => rfl
      | ok q => exact ih q

/-! ### A marker that stands apart -/

/-- A word is the value that an option waits for, or an option, which comes after that value was given,
or it has no meaning. -/
theorem meet_cases (word : String) :
    (∀ p : Progress, p.meet word = p.meetPlain word) ∨
    (∃ next : Arguments → Except ArgumentError Progress, ∀ p : Progress, p.meet word = p.settle >>= next) ∨
    ∃ e, ∀ p : Progress, p.meet word = .error e := by
  unfold meet
  split
  · next text _ =>
    obtain ⟨name, attached⟩ := splitLong text
    simp only [meetLong]
    match longNames.lookup name, attached with
    | .none, _ => exact .inr (.inr ⟨_, fun _ => rfl⟩)
    | .some (.value option), attached => exact .inr (.inl ⟨_, fun _ => rfl⟩)
    | .some (.switch option), .some _ => exact .inr (.inr ⟨_, fun _ => rfl⟩)
    | .some (.switch option), .none => exact .inr (.inl ⟨_, fun _ => rfl⟩)
  · exact .inl fun _ => rfl
  · next notDash _ =>
    obtain ⟨c, rest, rfl⟩ := List.exists_cons_of_ne_nil notDash
    simp only [meetLetters]
    match letters.lookup c with
    | .none => exact .inr (.inr ⟨_, fun _ => rfl⟩)
    | .some (.value option) => exact .inr (.inl ⟨_, fun _ => rfl⟩)
    | .some (.switch option) => exact .inr (.inl ⟨_, fun p => bind_assoc p.settle _ _⟩)
  · exact .inl fun _ => rfl

/-- An option that waits for its value takes the very next word. -/
theorem meet_waiting {a : Arguments} {option : ValueOption} {word : String} {q : Progress}
    (met : (⟨a, some ⟨option, .none⟩⟩ : Progress).meet word = .ok q) :
    q = ⟨a, some ⟨option, some word⟩⟩ := by
  obtain plain | ⟨next, settles⟩ | ⟨e, fails⟩ := meet_cases word
  · rw [plain] at met
    cases met
    rfl
  · rw [settles] at met
    cases met
  · rw [fails] at met
    cases met

/-- After a value that waits, a word is met only if the value can be given, and then as after that. -/
theorem meet_holding {a : Arguments} {option : ValueOption} {value word : String} {q : Progress}
    (met : (⟨a, some ⟨option, some value⟩⟩ : Progress).meet word = .ok q) :
    ∃ b, a.give option value = .ok b ∧ (⟨b, .none⟩ : Progress).meet word = .ok q := by
  obtain plain | ⟨next, settles⟩ | ⟨e, fails⟩ := meet_cases word
  · rw [plain] at met
    cases met
  · rw [settles] at met
    change a.give option value >>= next = .ok q at met
    cases given : a.give option value with
    | error e =>
      rw [given] at met
      cases met
    | ok b =>
      rw [given] at met
      exact ⟨b, rfl, (settles _).trans met⟩
  · rw [fails] at met
    cases met

/-- After a value that waits, words are met as after it was given. -/
theorem meetAll_holding {a b : Arguments} {option : ValueOption} {value : String} {words : List String}
    {q : Progress} (met : (⟨a, some ⟨option, some value⟩⟩ : Progress).meetAll words = .ok q)
    (settled : q.settle = .ok b) :
    ∃ c r, a.give option value = .ok c ∧ (⟨c, .none⟩ : Progress).meetAll words = .ok r ∧ r.settle = .ok b := by
  cases words with
  | nil =>
    cases met
    exact ⟨b, ⟨b, .none⟩, settled, rfl, rfl⟩
  | cons word rest =>
    obtain ⟨rfl, rfl, rfl⟩ | ⟨noDash, r, first, others⟩ := meetAll_cons_ok.mp met
    · exact ⟨b, ⟨b, .none⟩, settled, meetAll_cons_ok.mpr (.inl ⟨rfl, rfl, rfl⟩), rfl⟩
    · obtain ⟨c, given, same⟩ := meet_holding first
      exact ⟨c, q, given, meetAll_cons_ok.mpr (.inr ⟨noDash, r, same, others⟩), settled⟩

/-- An option that waits for its value has got it from the next word when the line is accepted. -/
theorem meetAll_waiting {a b : Arguments} {option : ValueOption} {word : String} {rest : List String}
    {q : Progress} (met : (⟨a, some ⟨option, .none⟩⟩ : Progress).meetAll (word :: rest) = .ok q)
    (settled : q.settle = .ok b) : (⟨a, some ⟨option, some word⟩⟩ : Progress).meetAll rest = .ok q := by
  obtain ⟨_, _, rfl⟩ | ⟨_, r, first, others⟩ := meetAll_cons_ok.mp met
  · cases settled
  · rwa [meet_waiting first] at others

/-- Words that are accepted with a marker apart from its option are accepted with an attached one. -/
theorem meetAll_apart {p q : Progress} {before after : List String} {v : String} {b : Arguments}
    (met : p.meetAll (before ++ "--exclude-marker" :: v :: after) = .ok q) (settled : q.settle = .ok b) :
    ∃ r, p.meetAll (before ++ attachedMarker v :: after) = .ok r ∧ r.settle = .ok b := by
  induction before generalizing p with
  | nil =>
    obtain ⟨dash, _, _⟩ | ⟨_, r, option, others⟩ := meetAll_cons_ok.mp met
    · exact absurd dash (by decide)
    · cases start : p.settle with
      | error e =>
        change p.settle >>= _ = .ok r at option
        rw [start] at option
        cases option
      | ok a =>
        change p.settle >>= _ = .ok r at option
        rw [start] at option
        cases option
        obtain ⟨c, last, given, rest, same⟩ := meetAll_holding (meetAll_waiting others settled) settled
        refine ⟨last, meetAll_cons_ok.mpr (.inr ⟨attachedMarker_ne_dash v, ⟨c, .none⟩, ?_, rest⟩), same⟩
        rw [meet_attachedMarker, meetValue, start]
        simp only [bind, Except.bind, given]
        rfl
  | cons word rest ih =>
    obtain ⟨_, nothing, _⟩ | ⟨noDash, r, first, others⟩ := meetAll_cons_ok.mp met
    · cases rest <;> cases nothing
    · obtain ⟨last, attached, same⟩ := ih others
      exact ⟨last, meetAll_cons_ok.mpr (.inr ⟨noDash, r, first, attached⟩), same⟩

end Progress

/-! ### Command lines -/

/-- Arguments are read when all words are met, settled and checked. -/
theorem read_ok {words : List String} {a : Arguments} :
    read words = .ok a ↔ ∃ p b, (⟨none, .none⟩ : Progress).meetAll words = .ok p ∧
      p.settle = .ok b ∧ b.check = .ok a := by
  unfold read
  cases (⟨none, .none⟩ : Progress).meetAll words with
  | error e => simp [bind, Except.bind]
  | ok p => cases settled : p.settle <;> simp [bind, Except.bind, settled]

/-- A command line that gives a marker is read as with any other marker, but for the marker itself. -/
theorem read_attachedMarker (before after : List String) (v w : String) :
    read (before ++ attachedMarker v :: after) =
      (read (before ++ attachedMarker w :: after)).map (mark v) := by
  unfold read
  rw [Progress.meetAll_attachedMarker _ before after v w]
  cases met : (⟨none, .none⟩ : Progress).meetAll (before ++ attachedMarker w :: after) with
  | error e => rfl
  | ok p =>
    have given := Progress.excludeMarker_of_map (Progress.meetAll_attachedMarker _ before after w w) met
    have settled := Progress.settle_mark (by simp [given] : p.arguments.excludeMarker.isSome) v
    change ((p.mark v).settle >>= check) = (p.settle >>= check).map (mark v)
    rw [settled]
    cases p.settle with
    | error e => rfl
    | ok a => exact check_mark a v

/-- A marker is read as it is attached. -/
theorem excludeMarker_of_read {before after : List String} {v : String} {a : Arguments}
    (accepted : read (before ++ attachedMarker v :: after) = .ok a) : a.excludeMarker = some v := by
  have marked := read_attachedMarker before after v v
  rw [accepted] at marked
  rw [Except.ok.inj marked]
  rfl

/-- A marker that stands apart from its option is read as an attached one. -/
theorem read_attachedMarker_of_apart {before after : List String} {v : String} {a : Arguments}
    (accepted : read (before ++ "--exclude-marker" :: v :: after) = .ok a) :
    read (before ++ attachedMarker v :: after) = .ok a := by
  obtain ⟨q, b, met, settled, checked⟩ := read_ok.mp accepted
  obtain ⟨r, attached, same⟩ := Progress.meetAll_apart met settled
  exact read_ok.mpr ⟨r, b, attached, same, checked⟩

end DefectGraph.Arguments
