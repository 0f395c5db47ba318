import DefectGraph.Proofs.ConfigDocument
import DefectGraph.Proofs.MarkerOption

/-!
# The layers that give the marker

The file and the command line hand on the text of the marker as it is. An environment variable hands on
what its text stands for, which may be written in another way.

## Main Definitions

* `Config.settingsWith` - the effective settings with a given marker.
* `Config.IsKept` - the texts that an environment variable hands on unchanged.
* `Config.VariableGives` - an environment in which one variable gives the marker.

## Main Statements

* `Config.text?_variableValue` - a variable's text is handed on exactly when it is kept.
* `Config.load_override_of_marker` - the marker of the highest layer counts, and all else is as without it.
* `Config.marker_of_layers` - what the three layers make of a text for the marker.

## Design Notes

What a layer does to the marker is separated from what it does to everything else: `Config.others` drops the
marker from a layer, and `Config.settingsWith` puts a given one into the settings. So the statement about
three layers has one equation for each, with the same right-hand side up to the marker.
-/

namespace DefectGraph.Config

open DefectGraph.Number DefectGraph.Toml

/-! ### The marker among other settings -/

/-- The values without that of the marker. -/
def others (layer : Layer) : Layer := layer.filter fun e => e.1 != "exclude_marker"

/-- The effective settings with this marker, where all others come from the values and the command line. -/
def settingsWith (marker : String) (a : Arguments) (layer : Layer) : Except LoadError Config :=
  match ofLayer? (others layer) with
  | some c => .ok { a.override c with excludeMarker := marker }
  | none => .error .unsuitable

/-- A later layer counts. -/
theorem setting?_append (lower higher : Layer) (name : String) :
    setting? (lower ++ higher) name = (setting? higher name).or (setting? lower name) := by
  rw [setting?, List.reverse_append, List.lookup_append]
  rfl

/-- A setting that a layer gives once is the one that is found. -/
theorem setting?_eq_some {layer : Layer} {name : String} {value : Value} (present : (name, value) ∈ layer)
    (only : ∀ other, (name, other) ∈ layer → other = value) : setting? layer name = some value := by
  cases found : setting? layer name with
  | none =>
    rw [setting?, List.lookup_eq_none_iff] at found
    exact absurd (found _ (List.mem_reverse.mpr present)) (by simp)
  | some other =>
    obtain ⟨before, after, split, _⟩ := List.lookup_eq_some_iff.mp found
    rw [only other (List.mem_reverse.mp (by simp [split]))]

/-- Leaving the marker out changes no other setting. -/
theorem setting?_others (layer : Layer) {name : String} (other : name ≠ "exclude_marker") :
    setting? (others layer) name = setting? layer name := by
  unfold setting? others
  rw [← List.filter_reverse]
  induction layer.reverse with
  | nil => rfl
  | cons e rest ih =>
    obtain ⟨key, value⟩ := e
    by_cases marker : key = "exclude_marker"
    · subst marker
      have skipped : (name == "exclude_marker") = false := by simpa using other
      simp [List.lookup_cons, skipped, ih]
    · simp [List.lookup_cons, marker, ih]

theorem setting?_others_marker (layer : Layer) : setting? (others layer) "exclude_marker" = none := by
  rw [setting?, List.lookup_eq_none_iff]
  intro e present
  have other : e.1 ≠ "exclude_marker" := by
    simpa using (List.mem_filter.mp (List.mem_reverse.mp present)).2
  simpa using other.symm

theorem readSetting_others {α : Type} (layer : Layer) {name : String} (other : name ≠ "exclude_marker")
    (convert : Value → Option α) (fallback : α) :
    readSetting (others layer) name convert fallback = readSetting layer name convert fallback := by
  unfold readSetting
  rw [setting?_others layer other]

/-- The marker changes no other setting. -/
theorem ofLayer?_of_marker {layer : Layer} {value : Value} {marker : String}
    (set : setting? layer "exclude_marker" = some value) (written : text? value = some marker) :
    ofLayer? layer = (ofLayer? (others layer)).map fun c => { c with excludeMarker := marker } := by
  have given : readSetting layer "exclude_marker" text? default.excludeMarker = some marker := by
    rw [readSetting, set]
    exact written
  have left : readSetting (others layer) "exclude_marker" text? default.excludeMarker =
      some default.excludeMarker := by
    rw [readSetting, setting?_others_marker]
  unfold ofLayer?
  rw [given, left, readSetting_others layer (by decide), readSetting_others layer (by decide),
    readSetting_others layer (by decide)]
  cases readSetting layer "workers" unsigned? default.workers with
  | none => rfl
  | some workers =>
    cases readSetting layer "shutdown_grace_secs" unsigned? default.shutdownGraceSecs with
    | none => rfl
    | some grace => cases readSetting layer "keep_isolated" bool? default.keepIsolated <;> rfl

/-- The marker of the highest layer counts, and all other settings are as without it. -/
theorem load_override_of_marker {files : FileStore} {env : List (String × String)} {dir : Path}
    {layer : Layer} {a : Arguments} {value : Value} {marker : String} (file : fileLayer files dir = .ok layer)
    (noOption : a.excludeMarker = none)
    (set : setting? (layer ++ ofEnvironment env) "exclude_marker" = some value)
    (written : text? value = some marker) :
    (load files env dir).map a.override = settingsWith marker a (layer ++ ofEnvironment env) := by
  rw [load, file, settingsWith]
  simp only [bind, Except.bind, ofLayer?_of_marker set written]
  cases ofLayer? (others (layer ++ ofEnvironment env)) with
  | none => rfl
  | some c => simp [Except.map, pure, Except.pure, Arguments.override, noOption]

/-! ### Texts of environment variables -/

/-- The text reads as yes or no. -/
def IsTruthWord (v : String) : Prop :=
  Binary64.lower v.toList = "true".toList ∨ Binary64.lower v.toList = "false".toList

/-- The texts that an environment variable hands on unchanged: the two words, integers of 64 bits and other
numbers in the form in which they are written, and what reads as none of these. -/
inductive IsKept (v : String) : Prop
  | word (isWord : v = "true" ∨ v = "false")
  | integer (n : Int) (least : Bounds.signed64.least ≤ n) (greatest : n ≤ Bounds.signed64.greatest)
      (written : toString n = v)
  | float (x : Binary64) (noWord : ¬ IsTruthWord v)
      (noInteger : ∀ n, Integer.parse 10 .signed64 v.toList ≠ .ok n)
      (read : Binary64.parse? v.toList = some x) (written : x.text = v)
  | text (noWord : ¬ IsTruthWord v) (noInteger : ∀ n, Integer.parse 10 .signed64 v.toList ≠ .ok n)
      (noFloat : Binary64.parse? v.toList = none)

theorem toLower_of_isDigit {c : Char} (digit : c.isDigit = true) : c.toLower = c := by
  unfold Char.toLower
  rw [dif_neg]
  rintro ⟨upper, _⟩
  rw [ge_iff_le, UInt32.le_iff_toNat_le] at upper
  exact absurd (Nat.le_trans upper (Integer.toNat_of_isDigit digit).2) (by decide)

/-- No number is a truth word. -/
theorem not_isTruthWord_toString (n : Int) : ¬ IsTruthWord (toString n) := by
  have digit : ∀ {m : Nat}, 'e' ∉ (Nat.toDigits 10 m).map Char.toLower := by
    intro m present
    obtain ⟨c, among, lowered⟩ := List.mem_map.mp present
    have isDigit := Integer.isDigit_of_mem among
    rw [toLower_of_isDigit isDigit] at lowered
    rw [lowered] at isDigit
    cases isDigit
  have noLetter : 'e' ∉ Binary64.lower (toString n).toList := by
    cases n with
    | ofNat m =>
      rw [Integer.toList_toString_ofNat]
      exact digit
    | negSucc m =>
      rw [Integer.toList_toString_negSucc]
      exact List.not_mem_cons_of_ne_of_not_mem (by decide) digit
  rintro (same | same)
  · exact noLetter (same ▸ by decide)
  · exact noLetter (same ▸ by decide)

/-- The word for yes or no. -/
def truthWord (b : Bool) : String := if b then "true" else "false"

/-- What a variable's text stands for. -/
theorem variableValue_cases (v : String) :
    (∃ b, variableValue v = .bool b ∧ Binary64.lower v.toList = (truthWord b).toList) ∨
    (¬ IsTruthWord v ∧ ∃ n, variableValue v = .integer n ∧ Integer.parse 10 .signed64 v.toList = .ok n) ∨
    (¬ IsTruthWord v ∧ (∀ n, Integer.parse 10 .signed64 v.toList ≠ .ok n) ∧
      ((∃ x, variableValue v = .float x ∧ Binary64.parse? v.toList = some x) ∨
        (variableValue v = .text v ∧ Binary64.parse? v.toList = none))) := by
  have words : ∀ word : String, (String.ofList (Binary64.lower v.toList) == word) = true ↔
      Binary64.lower v.toList = word.toList := by
    intro word
    rw [beq_iff_eq, ← String.toList_inj, String.toList_ofList]
  unfold variableValue
  simp only [words]
  by_cases yes : Binary64.lower v.toList = "true".toList
  · exact .inl ⟨true, if_pos yes, yes⟩
  by_cases no : Binary64.lower v.toList = "false".toList
  · exact .inl ⟨false, by rw [if_neg yes, if_pos no], no⟩
  have noWord : ¬ IsTruthWord v := by
    rintro (same | same)
    · exact yes same
    · exact no same
  rw [if_neg yes, if_neg no]
  cases Integer.parse 10 .signed64 v.toList with
  | ok n => exact .inr (.inl ⟨noWord, n, rfl, rfl⟩)
  | error e =>
    refine .inr (.inr ⟨noWord, by simp, ?_⟩)
    cases Binary64.parse? v.toList with
    | none => exact .inr ⟨rfl, rfl⟩
    | some x => exact .inl ⟨x, rfl, rfl⟩

/-- A truth word is kept when it is in lower case. -/
theorem isKept_iff_of_word {v : String} {b : Bool}
    (lowered : Binary64.lower v.toList = (truthWord b).toList) : truthWord b = v ↔ IsKept v := by
  have isWord : IsTruthWord v := by
    cases b
    · exact .inr lowered
    · exact .inl lowered
  constructor
  · rintro rfl
    cases b
    · exact .word (.inr rfl)
    · exact .word (.inl rfl)
  · intro kept
    cases kept with
    | word same =>
      -- A word is its own lower case, so it is the word that was read.
      rcases same with rfl | rfl <;> cases b <;> first | rfl | exact absurd lowered (by decide)
    | integer n least greatest written =>
      subst written
      exact absurd isWord (not_isTruthWord_toString n)
    | float x noWord => exact absurd isWord noWord
    | text noWord => exact absurd isWord noWord

theorem isTruthWord_of_eq {v : String} (same : v = "true" ∨ v = "false") : IsTruthWord v := by
  rcases same with rfl | rfl
  · exact .inl (by decide)
  · exact .inr (by decide)

/-- An integer is kept when it is spelled as numbers are printed. -/
theorem isKept_iff_of_integer {v : String} {n : Int} (noWord : ¬ IsTruthWord v)
    (parsed : Integer.parse 10 .signed64 v.toList = .ok n) : toString n = v ↔ IsKept v := by
  constructor
  · intro written
    obtain ⟨least, greatest⟩ := Integer.parse_bounds (by decide) (by decide) parsed
    exact .integer n least greatest written
  · intro kept
    cases kept with
    | word same => exact absurd (isTruthWord_of_eq same) noWord
    | integer m least greatest written =>
      rw [← written, Integer.parse_toString least greatest] at parsed
      rw [← Except.ok.inj parsed]
      exact written
    | float x _ noInteger => exact absurd parsed (noInteger n)
    | text _ noInteger => exact absurd parsed (noInteger n)

/-- So is a number with a fraction or an exponent. -/
theorem isKept_iff_of_float {v : String} {x : Binary64} (noWord : ¬ IsTruthWord v)
    (noInteger : ∀ n, Integer.parse 10 .signed64 v.toList ≠ .ok n)
    (read : Binary64.parse? v.toList = some x) : x.text = v ↔ IsKept v := by
  constructor
  · exact .float x noWord noInteger read
  · intro kept
    cases kept with
    | word same => exact absurd (isTruthWord_of_eq same) noWord
    | integer m least greatest written =>
      rw [← written] at noInteger
      exact absurd (Integer.parse_toString least greatest) (noInteger m)
    | float y _ _ same written =>
      rw [read] at same
      rw [Option.some.inj same]
      exact written
    | text _ _ noFloat =>
      rw [read] at noFloat
      cases noFloat

/-- A variable's text is handed on exactly when it is kept. -/
theorem text?_variableValue (v : String) :
    ∃ marker, text? (variableValue v) = some marker ∧ (marker = v ↔ IsKept v) := by
  obtain ⟨b, value, lowered⟩ | ⟨noWord, n, value, parsed⟩ | ⟨noWord, noInteger, guess⟩ :=
    variableValue_cases v
  · exact ⟨truthWord b, by rw [value]; rfl, isKept_iff_of_word lowered⟩
  · exact ⟨toString n, by rw [value]; rfl, isKept_iff_of_integer noWord parsed⟩
  · obtain ⟨x, value, read⟩ | ⟨value, noFloat⟩ := guess
    · exact ⟨x.text, by rw [value]; rfl, isKept_iff_of_float noWord noInteger read⟩
    · exact ⟨v, by rw [value]; rfl, fun _ => .text noWord noInteger noFloat, fun _ => rfl⟩

/-! ### The variable of the marker -/

/-- The variable gives the marker this text, and no other variable gives it a value. -/
structure VariableGives (env : List (String × String)) (v : String) : Prop where
  present : ("SDPGRAPH_EXCLUDE_MARKER", v) ∈ env
  only : ∀ e ∈ env, ∀ value, fromVariable? e.1 e.2 = some ("exclude_marker", value) →
    e = ("SDPGRAPH_EXCLUDE_MARKER", v)

/-- The variable of the marker sets the marker. -/
theorem fromVariable?_marker (v : String) :
    fromVariable? "SDPGRAPH_EXCLUDE_MARKER" v = some ("exclude_marker", variableValue v) := by
  have start : variableStart.toList.isPrefixOf (lowerName "SDPGRAPH_EXCLUDE_MARKER".toList) = true := by
    decide
  have name : String.ofList ((lowerName "SDPGRAPH_EXCLUDE_MARKER".toList).drop variableStart.toList.length) =
      "exclude_marker" := by
    decide
  rw [fromVariable?, if_pos start, name, named_plain ⟨by decide, by decide⟩]

/-- The environment gives the marker the value of its variable. -/
theorem setting?_ofEnvironment {env : List (String × String)} {v : String} (gives : VariableGives env v) :
    setting? (ofEnvironment env) "exclude_marker" = some (variableValue v) := by
  refine setting?_eq_some (List.mem_filterMap.mpr ⟨_, gives.present, fromVariable?_marker v⟩) ?_
  intro value among
  obtain ⟨e, present, isMarker⟩ := List.mem_filterMap.mp among
  obtain rfl := gives.only e present value isMarker
  cases (fromVariable?_marker v).symm.trans isMarker
  rfl

/-! ### The three layers -/

/-- What the layers make of a text for the marker, whatever the other settings are. From the file the
text comes unchanged, and so it does from the command line, where no text is refused. From the environment
comes what it stands for, which is the text itself exactly when that is kept. -/
theorem marker_of_layers (v : String) :
    (∀ (files : FileStore) (env : List (String × String)) (dir : Path) (layer : Layer) (a : Arguments),
      fileLayer files dir = .ok layer → a.excludeMarker = none →
        (setting? layer "exclude_marker" = some (.text v) →
          setting? (ofEnvironment env) "exclude_marker" = none →
          (load files env dir).map a.override = settingsWith v a (layer ++ ofEnvironment env)) ∧
        (VariableGives env v → ∃ marker, text? (variableValue v) = some marker ∧
          (load files env dir).map a.override = settingsWith marker a (layer ++ ofEnvironment env) ∧
          (marker = v ↔ IsKept v))) ∧
    (∀ before after : List String,
      (∀ w, Arguments.read (before ++ Arguments.attachedMarker v :: after) =
        (Arguments.read (before ++ Arguments.attachedMarker w :: after)).map (Arguments.mark v)) ∧
      ∀ a, (Arguments.read (before ++ Arguments.attachedMarker v :: after) = .ok a ∨
          Arguments.read (before ++ "--exclude-marker" :: v :: after) = .ok a) →
        ∀ c, (a.override c).excludeMarker = v) := by
  refine ⟨fun files env dir layer a file noOption => ⟨fun set unset => ?_, fun gives => ?_⟩,
    fun before after => ⟨Arguments.read_attachedMarker before after v, fun a accepted c => ?_⟩⟩
  · have both : setting? (layer ++ ofEnvironment env) "exclude_marker" = some (.text v) := by
      rw [setting?_append, unset, set]
      rfl
    exact load_override_of_marker file noOption both rfl
  · obtain ⟨marker, written, kept⟩ := text?_variableValue v
    refine ⟨marker, written, load_override_of_marker file noOption ?_ written, kept⟩
    rw [setting?_append, setting?_ofEnvironment gives]
    rfl
  · have given : a.excludeMarker = some v := by
      rcases accepted with attached | apart
      · exact Arguments.excludeMarker_of_read attached
      · exact Arguments.excludeMarker_of_read (Arguments.read_attachedMarker_of_apart apart)
    simp [Arguments.override, given]

/-- A file that sets the marker and the number of workers. -/
def zerosFile : FileStore :=
  ⟨[(["sdpgraph.toml"], .file (Text.Utf8.encode "exclude_marker = '007'\nworkers = 3\n"))]⟩

/-- A number with zeros in front comes unchanged from the file and the command line, and without its zeros
from the environment. -/
theorem variable_drops_zeros :
    load zerosFile [] "." = .ok ⟨3, "007", 60, false⟩ ∧
    (Arguments.read ["--exclude-marker=007", "-i", "x"]).map Arguments.excludeMarker = .ok (some "007") ∧
    load zerosFile [("SDPGRAPH_EXCLUDE_MARKER", "007")] "." = .ok ⟨3, "7", 60, false⟩ := by
  decide +kernel

/-- A marker of digits is kept in a file and on the command line, and loses its zeros in the
environment. -/
theorem marker_of_layers_of_zeros :
    (load zerosFile [] ".").map Arguments.none.override = .ok ⟨3, "007", 60, false⟩ ∧
    ((load zerosFile [("SDPGRAPH_EXCLUDE_MARKER", "007")] ".").map Arguments.none.override =
      .ok ⟨3, "7", 60, false⟩ ∧ ¬ IsKept "007") ∧
    ∃ a, Arguments.read ["-i", "x", "--exclude-marker", "007"] = .ok a ∧
      ∀ c, (a.override c).excludeMarker = "007" := by
  have file : fileLayer zerosFile "." =
      .ok [("exclude_marker", .text "007"), ("workers", .integer 3)] := by
    decide +kernel
  obtain ⟨layers, words⟩ := marker_of_layers "007"
  refine ⟨?_, ?_, ?_⟩
  · rw [(layers _ [] _ _ _ file rfl).1 (by decide) (by decide)]
    decide
  · have gives : VariableGives [("SDPGRAPH_EXCLUDE_MARKER", "007")] "007" :=
      ⟨List.mem_singleton.mpr rfl, fun e present _ _ => List.mem_singleton.mp present⟩
    obtain ⟨marker, written, loaded, kept⟩ :=
      (layers _ _ _ _ Arguments.none file rfl).2 gives
    obtain rfl : "7" = marker := by
      have printed : text? (variableValue "007") = some "7" := by decide
      exact Option.some.inj (printed.symm.trans written)
    refine ⟨?_, fun isKept => absurd (kept.mpr isKept) (by decide)⟩
    rw [loaded]
    decide +kernel
  · have accepted : Arguments.read ["-i", "x", "--exclude-marker", "007"] =
        .ok { Arguments.none with input := some "x", excludeMarker := some "007" } := by
      decide
    exact ⟨_, accepted, (words ["-i", "x"] []).2 _ (.inr accepted)⟩

end DefectGraph.Config
