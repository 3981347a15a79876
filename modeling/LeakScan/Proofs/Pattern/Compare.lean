import LeakScan.Proofs.Pattern.LineSearch

/-!
# Two searches in step

What a search with a greedy pattern reports depends on the matches of the pattern alone. So two
searches, of two texts or with two patterns, can be compared match by match. Where the matches of
the one are those of the other that pass a test, and a reported match that fails the test stands in
the way of none, the one reports what the other reports and the test lets pass
(`occurrences_eq_filter`): the two stay in step although they stop at different places. Where the
matches are the same, so are the reports (`occurrences_congr`). In particular characters that the
pattern avoids do not count at the end of a text (`occurrences_append`).
-/

namespace LeakScan.Pattern
set_option autoImplicit false

variable {p q : Pattern} {cs ds found : List Char} {i j low : Nat} {os : List Occurrence}
  {keep : List Char → Bool}

/-- The matches of `q` in `ds` are those of `p` in `cs` that pass a test, and none of them begins
inside a match of `p` that fails it. -/
structure Selects (p q : Pattern) (cs ds : List Char) (keep : List Char → Bool) : Prop where
  kept : ∀ i found, q.MatchesAt ds i found ↔ p.MatchesAt cs i found ∧ keep found = true
  clear : ∀ i found, p.MatchesAt cs i found → keep found = false →
    ∀ j other, i ≤ j → j < i + found.length → ¬ q.MatchesAt ds j other

theorem Selects.longestAt (selects : Selects p q cs ds keep) (longest : p.LongestAt cs i found)
    (passes : keep found = true) : q.LongestAt ds i found := by
  constructor
  · exact (selects.kept i found).mpr ⟨longest.isMatch, passes⟩
  · intro other isMatch
    have wider := (selects.kept i other).mp isMatch
    exact longest.longest other wider.1

/-- The step and the run of two searches: behind an occurrence that passes both go on at its end,
and behind one that fails the second search finds nothing until there. -/
theorem Selects.leftmostLongest (selects : Selects p q cs ds keep)
    (reported : LeftmostLongest p cs low os) :
    LeftmostLongest q ds low (os.filter fun o => keep o.text) := by
  induction reported with
  | done clear =>
    refine .done fun i found reached isMatch => ?_
    have wider := (selects.kept i found).mp isMatch
    exact clear i found reached wider.1
  | @next low o os reached clear nonempty longest rest ih =>
    have nothing (i : Nat) (found : List Char) (low_le : low ≤ i) (less : i < o.start) :
        ¬ q.MatchesAt ds i found := by
      intro isMatch
      have wider := (selects.kept i found).mp isMatch
      exact clear i found low_le less wider.1
    cases passes : keep o.text with
    | true =>
      rw [List.filter_cons_of_pos (by exact passes)]
      exact .next reached nothing nonempty (selects.longestAt longest passes) ih
    | false =>
      rw [List.filter_cons_of_neg (by simp [passes])]
      apply ih.lower
      · omega
      · intro i found low_le less
        by_cases before : i < o.start
        · exact nothing i found low_le before
        · have inside : o.start ≤ i := by omega
          exact selects.clear o.start o.text longest.isMatch passes i found inside less

/-! ## A choice between two patterns -/

theorem matchesAt_orElse_iff :
    (p.orElse q).MatchesAt cs i found ↔ p.MatchesAt cs i found ∨ q.MatchesAt cs i found := by
  constructor
  · rintro ⟨before, after, split, size, first | second⟩
    · exact Or.inl ⟨before, after, split, size, first⟩
    · exact Or.inr ⟨before, after, split, size, second⟩
  · rintro (⟨before, after, split, size, first⟩ | ⟨before, after, split, size, second⟩)
    · exact ⟨before, after, split, size, Or.inl first⟩
    · exact ⟨before, after, split, size, Or.inr second⟩

/-- What begins with a literal text has it at the start of every match. -/
theorem MatchesAt.literal_prefix {text : List Char}
    (isMatch : ((literal text).andThen q).MatchesAt cs i found) : text <+: found := by
  obtain ⟨before, after, -, -, u, v, rfl, same, -⟩ := isMatch
  have first : u = text := same
  exact first ▸ List.prefix_append u v

/-- The first character of a match that begins inside another is a character of that one. -/
theorem MatchesAt.mem_of_inside {c : Char} {rest : List Char} (isMatch : p.MatchesAt cs i found)
    (isMatch' : q.MatchesAt cs j (c :: rest)) (low : i ≤ j) (high : j < i + found.length) :
    c ∈ found := by
  obtain ⟨before, after, rfl, rfl, -⟩ := isMatch
  obtain ⟨k, rfl⟩ := Nat.exists_eq_add_of_le low
  have inside : k < found.length := by omega
  have first : c :: rest <+: found.drop k ++ after := by
    have place := isMatch'.isPrefix
    rw [List.append_assoc, List.drop_length_add_append,
      List.drop_append_of_le_length (Nat.le_of_lt inside)] at place
    exact place
  rw [List.drop_eq_getElem_cons inside, List.cons_append, List.cons_prefix_cons] at first
  exact first.1 ▸ List.getElem_mem inside

/-- A choice between two patterns finds the matches of the second beside others. If the second
begins with a text whose first character the first pattern avoids, the text tells them apart, and
none of them begins inside a match of the first. -/
theorem selects_orElse {c : Char} (avoided : p.avoids c = true) (text : List Char) :
    Selects (p.orElse ((literal (c :: text)).andThen q)) ((literal (c :: text)).andThen q) cs cs
      (c :: text).isPrefixOf := by
  constructor
  · intro i found
    rw [matchesAt_orElse_iff, List.isPrefixOf_iff_prefix]
    constructor
    · intro isMatch
      exact ⟨Or.inr isMatch, isMatch.literal_prefix⟩
    · rintro ⟨first | second, starts⟩
      · have member : c ∈ found := starts.mem List.mem_cons_self
        exact absurd member (first.notMem avoided)
      · exact second
  · intro i found isMatch other j inner low high isMatch'
    have first : p.MatchesAt cs i found := by
      rcases matchesAt_orElse_iff.mp isMatch with first | second
      · exact first
      · have starts := List.isPrefixOf_iff_prefix.mpr second.literal_prefix
        rw [starts] at other
        cases other
    obtain ⟨rest, rfl⟩ := isMatch'.literal_prefix
    have member : c ∈ found := first.mem_of_inside isMatch' low high
    exact absurd member (first.notMem avoided)

/-! ## The end of a text -/

/-- Behind the end of a text, characters that the pattern avoids bring no match and stop none. -/
theorem matchesAt_append_iff (positive : 0 < p.least) {c : Char} (avoided : p.avoids c = true)
    {tail : List Char} (made : ∀ x ∈ tail, x = c) :
    p.MatchesAt (cs ++ tail) i found ↔ p.MatchesAt cs i found := by
  by_cases inside : i ≤ cs.length
  · have ends : ∀ x ∈ tail.head?, x = c := fun x first => made x (List.mem_of_mem_head? first)
    have bounded := @matchesAt_iff_of_bounded p c avoided [] cs tail found i (by simp) ends inside
    simpa using bounded
  · constructor
    · intro isMatch
      obtain ⟨d, rest, rfl⟩ := List.exists_cons_of_ne_nil (isMatch.ne_nil positive)
      -- The match begins behind the text, where only the avoided character stands.
      have place : d ∈ (cs ++ tail).drop i := isMatch.isPrefix.mem List.mem_cons_self
      rw [List.drop_append, List.drop_eq_nil_of_le (by omega), List.nil_append] at place
      have same : d = c := made d (List.mem_of_mem_drop place)
      have other : c ∉ d :: rest := isMatch.notMem avoided
      exact absurd (same ▸ List.mem_cons_self) other
    · intro isMatch
      have within := isMatch.le_length
      omega

/-! ## Comparing what is reported -/

section Greedy

variable (greedy : p.isGreedy = true) (positive : 0 < p.least)

include greedy positive

/-- **A search for some of the matches** reports those of the reported ones. -/
theorem occurrences_eq_filter (greedy' : q.isGreedy = true) (positive' : 0 < q.least)
    (selects : Selects p q cs ds keep) :
    q.occurrences ds = (p.occurrences cs).filter fun o => keep o.text := by
  have reported := leftmostLongest_occurrences greedy positive cs
  have reported' := leftmostLongest_occurrences greedy' positive' ds
  exact reported'.unique (selects.leftmostLongest reported)

/-- Two texts with the same matches have the same occurrences. -/
theorem occurrences_congr (same : ∀ i found, p.MatchesAt ds i found ↔ p.MatchesAt cs i found) :
    p.occurrences ds = p.occurrences cs := by
  have selects : Selects p p cs ds fun _ => true := by
    constructor
    · intro i found
      simpa using same i found
    · intro i found _ fails
      cases fails
  rw [occurrences_eq_filter greedy positive greedy positive selects]
  exact List.filter_eq_self.mpr fun _ _ => rfl

/-- **Characters that a pattern avoids do not count at the end of a text.** -/
theorem occurrences_append {c : Char} (avoided : p.avoids c = true) (cs : List Char)
    {tail : List Char} (made : ∀ x ∈ tail, x = c) :
    p.occurrences (cs ++ tail) = p.occurrences cs := by
  apply occurrences_congr greedy positive
  intro i found
  exact matchesAt_append_iff positive avoided made

end Greedy

end LeakScan.Pattern
