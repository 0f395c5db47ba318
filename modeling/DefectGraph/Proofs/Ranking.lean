import DefectGraph.LongName
import DefectGraph.Source.Reader
import Mathlib.Data.List.Induction

/-!
# Which candidate a long name means

Candidates are replaced by the outermost members around them before they are ranked, and of several for
one member the first stays. So a candidate on the named path counts only when it is the first one in its
member: a weak candidate before it hides it.

## Main Definitions

* `Fresh` - no earlier candidate lies in the same member.
* `Leading` - a candidate on the named path that is the first one in its member.

## Main Statements

* `mem_members_iff` - the members are those of the candidates that are the first ones there.
* `find_ranking` - which member is found, and when it is that of the first candidate on the named path.
* `find_hides_named_path` - a name whose first candidate on the named path is hidden.

## Design Notes

Members are collected from the front, and a member that is there already keeps its first place. `Fresh` is
the one fact about that loop which is needed: what is added is what no earlier candidate lies in. Both
predicates are decidable, so that a concrete name can be shown to be ranked in an unexpected way.
-/

namespace DefectGraph.LongName

open DefectGraph.Source

/-- The candidate as the outermost member around it. -/
def Candidate.member (t : Tree) (c : Candidate) : Candidate := ⟨t.outermost c.decl, c.weak⟩

/-- None of the earlier candidates lies in the same member. -/
def Fresh (t : Tree) (earlier : List Candidate) (c : Candidate) : Prop :=
  ∀ other ∈ earlier, t.outermost other.decl ≠ t.outermost c.decl

/-- The candidate is on the named path and is the first one in its member. -/
def Leading (t : Tree) (candidates : List Candidate) (c : Candidate) : Prop :=
  c.weak = false ∧ ∃ before after, candidates = before ++ c :: after ∧ Fresh t before c

/-! ### Members -/

/-- Adds the member of a candidate unless it is there. -/
def addMember (t : Tree) (found : List Candidate) (c : Candidate) : List Candidate :=
  if found.any fun f => f.decl == t.outermost c.decl then found else found ++ [c.member t]

theorem members_eq_foldl (t : Tree) (candidates : List Candidate) :
    members t candidates = candidates.foldl (addMember t) [] := rfl

/-- A further candidate is ranked behind the others. -/
theorem members_concat (t : Tree) (candidates : List Candidate) (c : Candidate) :
    members t (candidates ++ [c]) = addMember t (members t candidates) c := by
  rw [members_eq_foldl, List.foldl_append]
  rfl

/-- A place in a longer list is a place in the list, or the new one at its end. -/
theorem exists_place_concat {α : Type} {P : List α → α → Prop} (xs : List α) (x : α) :
    (∃ before y after, xs ++ [x] = before ++ y :: after ∧ P before y) ↔
      (∃ before y after, xs = before ++ y :: after ∧ P before y) ∨ P xs x := by
  constructor
  · rintro ⟨before, y, after, split, holds⟩
    rcases List.eq_nil_or_concat after with rfl | ⟨others, last, rfl⟩
    · obtain ⟨rfl, same⟩ := List.append_inj' split rfl
      cases same
      exact Or.inr holds
    · have parts : xs ++ [x] = (before ++ y :: others) ++ [last] := by simpa using split
      obtain ⟨rfl, _⟩ := List.append_inj' parts rfl
      exact Or.inl ⟨before, y, others, rfl, holds⟩
  · rintro (⟨before, y, after, rfl, holds⟩ | holds)
    · exact ⟨before, y, after ++ [x], by simp, holds⟩
    · exact ⟨xs, x, [], rfl, holds⟩

/-- A member is there as soon as a candidate lies in it. -/
theorem any_members_iff (t : Tree) (candidates : List Candidate) (root : DeclId) :
    (members t candidates).any (fun f => f.decl == root) = true ↔
      ∃ c ∈ candidates, t.outermost c.decl = root := by
  induction candidates using List.reverseRecOn generalizing root with
  | nil => simp [members]
  | append_singleton candidates c ih =>
    rw [members_concat, addMember]
    split
    · rename_i present
      rw [ih] at present
      rw [ih]
      constructor
      · rintro ⟨other, among, here⟩
        exact ⟨other, List.mem_append_left _ among, here⟩
      · rintro ⟨other, among, rfl⟩
        rcases List.mem_append.mp among with old | new
        · exact ⟨other, old, rfl⟩
        · cases List.mem_singleton.mp new
          exact present
    · rw [List.any_append, Bool.or_eq_true, ih]
      simp [Candidate.member, or_and_right, exists_or]

/-- A candidate is fresh when its outermost member is not among those found. -/
theorem fresh_iff (t : Tree) (earlier : List Candidate) (c : Candidate) :
    Fresh t earlier c ↔
      (members t earlier).any (fun f => f.decl == t.outermost c.decl) = false := by
  rw [← Bool.not_eq_true, any_members_iff]
  simp [Fresh]

/-- A fresh candidate adds its outermost member. -/
theorem addMember_of_fresh {t : Tree} {earlier : List Candidate} {c : Candidate}
    (fresh : Fresh t earlier c) :
    addMember t (members t earlier) c = members t earlier ++ [c.member t] := by
  simp [addMember, (fresh_iff t earlier c).mp fresh]

/-- Any other adds nothing. -/
theorem addMember_of_not_fresh {t : Tree} {earlier : List Candidate} {c : Candidate}
    (known : ¬ Fresh t earlier c) : addMember t (members t earlier) c = members t earlier := by
  rw [fresh_iff, Bool.not_eq_false] at known
  simp [addMember, known]

/-- The members are those of the candidates that are the first ones there. -/
theorem mem_members_iff (t : Tree) (candidates : List Candidate) (m : Candidate) :
    m ∈ members t candidates ↔
      ∃ before c after, candidates = before ++ c :: after ∧ Fresh t before c ∧ m = c.member t := by
  induction candidates using List.reverseRecOn with
  | nil => simp [members]
  | append_singleton candidates c ih =>
    rw [members_concat, exists_place_concat, ← ih]
    by_cases fresh : Fresh t candidates c
    · simp [addMember_of_fresh fresh, fresh]
    · simp [addMember_of_not_fresh fresh, fresh]

/-- Later candidates only add members behind those that are there. -/
theorem members_append (t : Tree) (first second : List Candidate) :
    ∃ more, members t (first ++ second) = members t first ++ more := by
  induction second using List.reverseRecOn with
  | nil => exact ⟨[], by simp⟩
  | append_singleton second c ih =>
    obtain ⟨more, split⟩ := ih
    rw [← List.append_assoc, members_concat, addMember, split]
    split
    · exact ⟨more, rfl⟩
    · exact ⟨more ++ [c.member t], by rw [List.append_assoc]⟩

/-- The first member is that of the first candidate. -/
theorem head?_members (t : Tree) (first : Candidate) (others : List Candidate) :
    (members t (first :: others)).head? = some (first.member t) := by
  obtain ⟨more, split⟩ := members_append t [first] others
  have one : members t [first] = [first.member t] := rfl
  rw [List.singleton_append, one] at split
  rw [split]
  rfl

/-! ### Choosing -/

/-- Without a leading candidate the member of the first one is chosen. -/
theorem choose_of_not_leading {t : Tree} {first : Candidate} {others : List Candidate}
    (none : ∀ c, ¬ Leading t (first :: others) c) :
    choose (members t (first :: others)) = some (t.outermost first.decl) := by
  have weak : (members t (first :: others)).find? (fun m => !m.weak) = Option.none := by
    rw [List.find?_eq_none]
    intro m present strong
    obtain ⟨before, c, after, split, fresh, rfl⟩ := (mem_members_iff t _ m).mp present
    exact none c ⟨by simpa [Candidate.member] using strong, before, after, split, fresh⟩
  rw [choose, weak, head?_members]
  rfl

/-- With a leading candidate the member of such a one is chosen. -/
theorem choose_of_leading {t : Tree} {candidates : List Candidate} {c : Candidate}
    (leading : Leading t candidates c) :
    ∃ d, Leading t candidates d ∧ choose (members t candidates) = some (t.outermost d.decl) := by
  obtain ⟨strong, before, after, split, fresh⟩ := leading
  have present : c.member t ∈ members t candidates :=
    (mem_members_iff t _ _).mpr ⟨before, c, after, split, fresh, rfl⟩
  cases found : (members t candidates).find? (fun m => !m.weak) with
  | none =>
    have missing := List.find?_eq_none.mp found _ present
    simp [Candidate.member, strong] at missing
  | some m =>
    obtain ⟨before, d, after, split, fresh, rfl⟩ :=
      (mem_members_iff t _ m).mp (List.mem_of_find?_eq_some found)
    have named : d.weak = false := by simpa [Candidate.member] using List.find?_some found
    refine ⟨d, ⟨named, before, after, split, fresh⟩, ?_⟩
    rw [choose, found]
    rfl

/-- When the first candidate on the named path is not fresh, no leading candidate lies in its member. -/
theorem outermost_ne_of_leading {t : Tree} {before after : List Candidate} {d c : Candidate}
    (weak : ∀ other ∈ before, other.weak = true) (hidden : ¬ Fresh t before d)
    (leading : Leading t (before ++ d :: after) c) : t.outermost c.decl ≠ t.outermost d.decl := by
  obtain ⟨strong, earlier, later, split, fresh⟩ := leading
  -- The leading candidate stands after the first one on the named path, at its place, or before it.
  rcases List.append_eq_append_iff.mp split with ⟨between, rfl, rest⟩ | ⟨between, rfl, rest⟩
  · cases between with
    | nil =>
      cases rest
      rw [List.append_nil] at fresh
      exact absurd fresh hidden
    | cons first others =>
      cases rest
      exact fun same => fresh d (by simp) same.symm
  · cases between with
    | nil =>
      cases rest
      rw [List.append_nil] at hidden
      exact absurd fresh hidden
    | cons first others =>
      cases rest
      have contradiction := weak c (by simp)
      rw [strong] at contradiction
      cases contradiction

/-- The first candidate on the named path is chosen when it is fresh. -/
theorem choose_of_fresh {t : Tree} {before after : List Candidate} {d : Candidate}
    (weak : ∀ other ∈ before, other.weak = true) (named : d.weak = false)
    (fresh : Fresh t before d) :
    choose (members t (before ++ d :: after)) = some (t.outermost d.decl) := by
  have upTo : members t (before ++ [d]) = members t before ++ [d.member t] := by
    rw [members_concat, addMember_of_fresh fresh]
  obtain ⟨more, split⟩ := members_append t (before ++ [d]) after
  have weakMembers : (members t before).find? (fun m => !m.weak) = none := by
    rw [List.find?_eq_none]
    intro m present strong
    obtain ⟨_, c, _, place, _, rfl⟩ := (mem_members_iff t _ m).mp present
    have weakMember := weak c (by simp [place])
    simp [Candidate.member, weakMember] at strong
  have whole : members t (before ++ d :: after) = members t before ++ d.member t :: more := by
    simpa [upTo] using split
  rw [choose, whole, List.find?_append, weakMembers]
  simp [Candidate.member, named]

/-- The member of the first candidate on the named path is chosen exactly when that candidate is fresh,
or when no candidate leads and the very first one lies in that member. -/
theorem choose_of_named {t : Tree} {before after : List Candidate} {d : Candidate}
    (weak : ∀ c ∈ before, c.weak = true) (named : d.weak = false) :
    ∃ decl, choose (members t (before ++ d :: after)) = some decl ∧
      (decl = t.outermost d.decl ↔ Fresh t before d ∨
        (∀ c, ¬ Leading t (before ++ d :: after) c) ∧
          ∃ first others, before = first :: others ∧
            t.outermost first.decl = t.outermost d.decl) := by
  by_cases fresh : Fresh t before d
  · exact ⟨_, choose_of_fresh weak named fresh, by simp [fresh]⟩
  · by_cases leads : ∃ c, Leading t (before ++ d :: after) c
    · obtain ⟨c, leading⟩ := leads
      obtain ⟨other, otherLeading, chosen⟩ := choose_of_leading leading
      refine ⟨_, chosen, ?_⟩
      constructor
      · exact fun same => absurd same (outermost_ne_of_leading weak fresh otherLeading)
      · rintro (now | ⟨none, _⟩)
        · exact absurd now fresh
        · exact absurd leading (none c)
    · have none : ∀ c, ¬ Leading t (before ++ d :: after) c := fun c leading => leads ⟨c, leading⟩
      -- A candidate that is not fresh has another one before it, so there is a first one.
      cases before with
      | nil => exact absurd (fun _ missing => absurd missing List.not_mem_nil) fresh
      | cons first others =>
        refine ⟨_, choose_of_not_leading none, ?_⟩
        constructor
        · exact fun same => Or.inr ⟨none, first, others, rfl, same⟩
        · rintro (now | ⟨_, _, _, start, same⟩)
          · exact absurd now fresh
          · cases start
            exact same

/-! ### Finding -/

/-- A name that belongs to the package and whose descriptor decodes means what is chosen among the
members of the candidates. -/
theorem find_eq {t : Tree} {longName : String} {rest : List Char} {params : Option (List ParamType)}
    (inPackage : afterPackage t.package longName = .ok rest)
    (decoded : LongName.params longName = .ok params) :
    find t longName =
      let found := members t (acceptedAll ⟨t, params⟩ rest false 1 t.items).1
      match choose found with
      | some decl => .ok ⟨decl, (found.map Candidate.decl).filter fun d => d != decl⟩
      | none => .error (.notFound longName) := by
  simp only [find, inPackage, decoded, bind, Except.bind]
  rfl

/-- The declaration that is chosen among the members is the one found. -/
theorem find_of_choose {t : Tree} {longName : String} {rest : List Char}
    {params : Option (List ParamType)} (inPackage : afterPackage t.package longName = .ok rest)
    (decoded : LongName.params longName = .ok params) {decl : DeclId}
    (chosen : choose (members t (acceptedAll ⟨t, params⟩ rest false 1 t.items).1) = some decl) :
    ∃ m, find t longName = .ok m ∧ m.decl = decl := by
  rw [find_eq inPackage decoded]
  simp only [chosen]
  exact ⟨_, rfl, rfl⟩

/-- What a name means that belongs to the package and whose descriptor decodes. Without candidates it
means nothing, and with weak ones alone the member of the first. Otherwise it means the member of the
first candidate on the named path exactly when no earlier, weak candidate lies in that member, or when
every candidate on the named path is hidden like that and the very first candidate lies in that member. -/
theorem find_ranking (t : Tree) (longName : String) (rest : List Char)
    (params : Option (List ParamType)) (inPackage : afterPackage t.package longName = .ok rest)
    (decoded : LongName.params longName = .ok params) :
    let candidates := (acceptedAll ⟨t, params⟩ rest false 1 t.items).1
    (candidates = [] → find t longName = .error (.notFound longName)) ∧
    (∀ first others, candidates = first :: others → (∀ c ∈ candidates, c.weak = true) →
      ∃ m, find t longName = .ok m ∧ m.decl = t.outermost first.decl) ∧
    ∀ before d after, candidates = before ++ d :: after → (∀ c ∈ before, c.weak = true) →
      d.weak = false → ∃ m, find t longName = .ok m ∧
        (m.decl = t.outermost d.decl ↔ Fresh t before d ∨
          (∀ c, ¬ Leading t candidates c) ∧
            ∃ first others, before = first :: others ∧
              t.outermost first.decl = t.outermost d.decl) := by
  intro candidates
  refine ⟨fun none => ?_, fun first others split weak => ?_, fun before d after split weak named => ?_⟩
  · have nothing : choose (members t candidates) = Option.none := by
      rw [none]
      rfl
    rw [find_eq inPackage decoded]
    simp only [candidates] at nothing
    simp only [nothing]
  · apply find_of_choose inPackage decoded
    change choose (members t candidates) = _
    rw [split]
    refine choose_of_not_leading fun c leading => ?_
    obtain ⟨named, before, after, place, _⟩ := leading
    have contradiction := weak c (by simp [split, place])
    rw [named] at contradiction
    cases contradiction
  · obtain ⟨decl, chosen, ranked⟩ := choose_of_named weak named
    rw [← split] at chosen ranked
    obtain ⟨m, found, rfl⟩ := find_of_choose inPackage decoded chosen
    exact ⟨m, found, ranked⟩

instance (t : Tree) (earlier : List Candidate) (c : Candidate) : Decidable (Fresh t earlier c) :=
  inferInstanceAs (Decidable (∀ other ∈ earlier, t.outermost other.decl ≠ t.outermost c.decl))

/-- A weak candidate in another member does not hide the one on the named path. -/
theorem find_ranking_of_other_member :
    ∃ t, Tree.ofSource?
        "class A { void f() { class X { class B { void m() {} } } } class B { void m() {} } }" = some t ∧
      afterPackage t.package "A$B.m()V" = .ok ".A$B.m()V".toList ∧
      LongName.params "A$B.m()V" = .ok (some []) ∧
      (acceptedAll ⟨t, some []⟩ ".A$B.m()V".toList false 1 t.items).1 = [⟨1, true⟩, ⟨2, false⟩] ∧
      Fresh t [⟨1, true⟩] ⟨2, false⟩ ∧ ∃ m, find t "A$B.m()V" = .ok m ∧ m.decl = t.outermost 2 := by
  have evaluated : (Tree.ofSource?
      "class A { void f() { class X { class B { void m() {} } } } class B { void m() {} } }").any (fun t =>
        afterPackage t.package "A$B.m()V" = .ok ".A$B.m()V".toList ∧
        (acceptedAll ⟨t, some []⟩ ".A$B.m()V".toList false 1 t.items).1 = [⟨1, true⟩, ⟨2, false⟩] ∧
        Fresh t [⟨1, true⟩] ⟨2, false⟩) = true := by decide +kernel
  obtain ⟨t, parsed, facts⟩ := (Option.any_eq_true _ _).mp evaluated
  obtain ⟨inPackage, candidates, fresh⟩ := of_decide_eq_true facts
  have decoded : LongName.params "A$B.m()V" = .ok (some []) := by decide +kernel
  refine ⟨t, parsed, inPackage, decoded, candidates, fresh, ?_⟩
  obtain ⟨m, found, ranked⟩ := (find_ranking t "A$B.m()V" _ _ inPackage decoded).2.2
    [⟨1, true⟩] ⟨2, false⟩ [] candidates (by decide) rfl
  exact ⟨m, found, ranked.mpr (Or.inl fresh)⟩

/-- A weak candidate in the member of the first candidate on the named path hides it: the method of the
local class `B` in `f` is the first candidate on the named path, but the method of the member class `B`
is found. -/
theorem find_hides_named_path :
    ∃ t, Tree.ofSource?
        "class A { void f() { class X { class B { void m() {} } } class B { void m() {} } } class B { void m() {} } }" =
          some t ∧
      afterPackage t.package "A$B.m()V" = .ok ".A$B.m()V".toList ∧
      LongName.params "A$B.m()V" = .ok (some []) ∧
      (acceptedAll ⟨t, some []⟩ ".A$B.m()V".toList false 1 t.items).1 =
        [⟨1, true⟩, ⟨2, false⟩, ⟨3, false⟩] ∧
      t.outermost 2 = 0 ∧ find t "A$B.m()V" = .ok ⟨3, [0]⟩ := by
  have evaluated : (Tree.ofSource?
      "class A { void f() { class X { class B { void m() {} } } class B { void m() {} } } class B { void m() {} } }"
      ).any (fun t =>
      afterPackage t.package "A$B.m()V" = .ok ".A$B.m()V".toList ∧
      LongName.params "A$B.m()V" = .ok (some []) ∧
      (acceptedAll ⟨t, some []⟩ ".A$B.m()V".toList false 1 t.items).1 =
        [⟨1, true⟩, ⟨2, false⟩, ⟨3, false⟩] ∧
      t.outermost 2 = 0 ∧ find t "A$B.m()V" = .ok ⟨3, [0]⟩) = true := by decide +kernel
  obtain ⟨t, parsed, facts⟩ := (Option.any_eq_true _ _).mp evaluated
  exact ⟨t, parsed, of_decide_eq_true facts⟩

end DefectGraph.LongName
