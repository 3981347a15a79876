import LeakScan.Proofs.Finding.Coverage
import LeakScan.Proofs.Finding.Reference
import LeakScan.Proofs.Pattern.LineSearch

/-!
# Whole tokens

The patterns of the known signatures are greedy, match no empty text and avoid the newline. So the
occurrences of a signature are the longest tokens at the first places that have one
(`tokens_leftmost_longest`), a search of the whole content finds what the lines hold, and the line
of a finding counts the newlines before the token's first occurrence (`tokens_by_line`).
-/

namespace LeakScan
set_option autoImplicit false

namespace Pattern

variable {p : Pattern} {cs : List Char} {low : Nat} {os : List Occurrence} {o : Occurrence}

theorem LeftmostLongest.longestAt_of_mem (reported : LeftmostLongest p cs low os)
    (member : o ∈ os) : o.text ≠ [] ∧ p.LongestAt cs o.start o.text := by
  induction reported with
  | done => cases member
  | next _ _ nonempty longest _ ih =>
    rcases List.mem_cons.mp member with rfl | member
    · exact ⟨nonempty, longest⟩
    · exact ih member

end Pattern

namespace Signature

theorem isGreedy_pattern : ∀ s ∈ known, s.pattern.isGreedy = true := by decide +kernel

/-- **Tokens are leftmost and longest.** Of every text, what the search for a known signature
reports is the one list in which each occurrence is the longest match at the first place, behind the
occurrence before it, that has a match at all, and behind the last one there is none. So occurrences
are not empty, come in order and do not overlap, and at the place of each no match is longer. -/
theorem tokens_leftmost_longest (s : Signature) (isKnown : s ∈ known) (cs : List Char) :
    (∀ os, s.pattern.occurrences cs = os ↔ s.pattern.LeftmostLongest cs 0 os) ∧
    (∀ o ∈ s.pattern.occurrences cs, o.text ≠ [] ∧ s.pattern.LongestAt cs o.start o.text) ∧
    (s.pattern.occurrences cs).Pairwise
      fun a b => a.start < b.start ∧ a.start + a.text.length ≤ b.start := by
  have reported := Pattern.leftmostLongest_occurrences (isGreedy_pattern s isKnown)
    (least_pos s isKnown) cs
  refine ⟨fun os => ⟨?_, reported.unique⟩, fun o => reported.longestAt_of_mem,
    Pattern.pairwise_occurrences _ cs⟩
  rintro rfl
  exact reported

/-- Two addresses with credentials, the second directly behind the first: the `s` after `http` may
be there or not, and both names go as far as they can. -/
theorem tokens_leftmost_longest_basicAuth :
    ∃ s ∈ known, s.name = "BasicAuth" ∧
      let cs := "http://a:b@https://c-d:e_f@:g@".toList
      let found : List Occurrence :=
        [⟨0, "http://a:b@".toList⟩, ⟨11, "https://c-d:e_f@".toList⟩]
      s.pattern.occurrences cs = found ∧ s.pattern.LeftmostLongest cs 0 found ∧
        s.pattern.LongestAt cs 11 "https://c-d:e_f@".toList := by
  obtain ⟨s, isKnown, named, found⟩ : ∃ s ∈ known, s.name = "BasicAuth" ∧
      s.pattern.occurrences "http://a:b@https://c-d:e_f@:g@".toList =
        [⟨0, "http://a:b@".toList⟩, ⟨11, "https://c-d:e_f@".toList⟩] := by decide +kernel
  obtain ⟨one, longest, -⟩ :=
    tokens_leftmost_longest s isKnown "http://a:b@https://c-d:e_f@:g@".toList
  have second := longest ⟨11, "https://c-d:e_f@".toList⟩ (by rw [found]; simp)
  exact ⟨s, isKnown, named, found, (one _).mp found, second.2⟩

variable {s : Signature} {cs : List Char} {o : Occurrence}

theorem occurrences_eq_flatMap_lines (isKnown : s ∈ known) (cs : List Char) :
    s.pattern.occurrences cs = (Text.placed 0 (Text.lines cs)).flatMap fun l =>
      (s.pattern.occurrences l.2).map (.shift l.1) :=
  Pattern.occurrences_eq_flatMap_lines (isGreedy_pattern s isKnown) (least_pos s isKnown)
    (avoids_newline s isKnown) cs

/-- The occurrences in a text are those in its lines, where the lines stand. -/
theorem mem_occurrences_iff (isKnown : s ∈ known) :
    o ∈ s.pattern.occurrences cs ↔ ∃ n above line below, Text.IsLine cs n above line below ∧
      ∃ o' ∈ s.pattern.occurrences line, o = o'.shift above.length := by
  rw [occurrences_eq_flatMap_lines isKnown, List.mem_flatMap]
  constructor
  · rintro ⟨⟨k, line⟩, placed, member⟩
    obtain ⟨n, above, below, isLine, rfl⟩ := Text.mem_placed_iff.mp placed
    obtain ⟨o', occurs, rfl⟩ := List.mem_map.mp member
    exact ⟨n, above, line, below, isLine, o', occurs, rfl⟩
  · rintro ⟨n, above, line, below, isLine, o', occurs, rfl⟩
    exact ⟨(above.length, line), Text.mem_placed_iff.mpr ⟨n, above, below, isLine, rfl⟩,
      List.mem_map.mpr ⟨o', occurs, rfl⟩⟩

end Signature

/-- A place inside a line has as many newlines before it as stand above the line. -/
theorem Text.IsLine.count_take {cs above line below : List Char} {n i : Nat}
    (isLine : Text.IsLine cs n above line below) (inside : i ≤ line.length) :
    (cs.take (above.length + i)).count '\n' = n := by
  have cut : cs.take (above.length + i) = above ++ line.take i := by
    rw [isLine.text, List.append_assoc, List.take_length_add_append,
      List.take_append_of_le_length inside]
  have unbroken : '\n' ∉ line.take i := fun member => isLine.unbroken (List.mem_of_mem_take member)
  rw [cut, List.count_append, List.count_eq_zero_of_not_mem unbroken, isLine.number]
  rfl

/-- A hit that is kept begins before all that have its kind and its text. -/
theorem Hit.start_le_of_kept {content : String} {g : Hit} {n : Nat} {o : Occurrence}
    {above line below above' line' below' : List Char}
    (kept : g ∈ firsts Hit.pair (Hit.all content))
    (isLine : Text.IsLine content.toList (g.line - 1) above line below)
    (isLine' : Text.IsLine content.toList n above' line' below')
    (occurs : o ∈ g.signature.pattern.occurrences line') (text : o.text = g.occurrence.text) :
    (g.occurrence.shift above.length).start ≤ (o.shift above'.length).start := by
  obtain ⟨low, place, line, here, occursHere⟩ :=
    Hit.mem_all_iff.mp ((firsts_sublist _ _).subset kept)
  obtain rfl := Option.some.inj (isLine.getElem?_lines.symm.trans here)
  have inLine := (Pattern.matchesAt_of_mem_occurrences occursHere).le_length
  -- The other occurrence is a hit too, and the one that is kept comes first.
  let h : Hit := ⟨n + 1, g.place, g.signature, o⟩
  have hit : h ∈ Hit.all content :=
    Hit.mem_all_iff.mpr ⟨Nat.le_add_left 1 n, place, line', isLine'.getElem?_lines, occurs⟩
  have same : h.pair = g.pair := by rw [Hit.pair, Hit.pair, text]
  simp only [Occurrence.shift]
  rcases (Hit.eq_or_before_of_kept kept hit same).1 with itself | earlier | ⟨sameLine, order⟩
  · obtain rfl : g.line - 1 = n := congrArg (·.line - 1) itself.symm
    obtain rfl : g.occurrence = o := congrArg Hit.occurrence itself.symm
    rw [isLine.above_eq isLine']
  · have ends := isLine.length_le_of_lt isLine' (by simp only [h] at earlier; omega)
    omega
  · have number : g.line - 1 = n := by
      simp only [h] at sameLine
      omega
    subst number
    rcases order with less | ⟨-, less⟩
    · exact absurd less (Nat.lt_irrefl _)
    · rw [isLine.above_eq isLine']
      exact Nat.add_le_add_left (Nat.le_of_lt less) _

/-- **Cutting a content into lines loses no token.** The occurrences of a known signature in a text
are, in the same order, those in its lines, each moved by what stands above its line. So a finding
that is no sensitive name has the text of an occurrence in the whole content, and its line is one
more than the newlines before the first occurrence of this text. -/
theorem tokens_by_line :
    (∀ s ∈ Signature.known, ∀ cs : List Char,
      (s.pattern.occurrences cs = (Text.placed 0 (Text.lines cs)).flatMap fun l =>
        (s.pattern.occurrences l.2).map (.shift l.1)) ∧
      ∀ o, o ∈ s.pattern.occurrences cs ↔ ∃ n above line below,
        Text.IsLine cs n above line below ∧
          ∃ o' ∈ s.pattern.occurrences line, o = o'.shift above.length) ∧
    ∀ (file content : String), ∀ f ∈ scanContent file content, f.kind ≠ Finding.sensitiveKind →
      ∃ s o, Signature.ofName? f.kind = some s ∧ o ∈ s.pattern.occurrences content.toList ∧
        o.text = f.text.toList ∧
        (∀ o' ∈ s.pattern.occurrences content.toList, o'.text = f.text.toList →
          o.start ≤ o'.start) ∧
        f.line = 1 + (content.toList.take o.start).count '\n' := by
  refine ⟨fun s isKnown cs => ⟨Signature.occurrences_eq_flatMap_lines isKnown cs,
    fun o => Signature.mem_occurrences_iff isKnown⟩, ?_⟩
  intro file content f reported other
  obtain ⟨g, kept, rfl⟩ := exists_hit_of_mem_scanContent reported other
  obtain ⟨low, place, line, here, occurs⟩ :=
    Hit.mem_all_iff.mp ((firsts_sublist _ _).subset kept)
  have isKnown : g.signature ∈ Signature.known := List.mem_of_getElem? place
  obtain ⟨above, below, isLine⟩ := Text.getElem?_lines_iff.mp here
  have inLine := (Pattern.matchesAt_of_mem_occurrences occurs).le_length
  refine ⟨g.signature, g.occurrence.shift above.length,
    Signature.ofName?_name_of_known _ isKnown, ?_, ?_, ?_, ?_⟩
  · exact (Signature.mem_occurrences_iff isKnown).mpr
      ⟨_, above, line, below, isLine, _, occurs, rfl⟩
  · simp [Hit.toFinding, Occurrence.shift]
  · intro o' member text
    obtain ⟨n', above', line', below', isLine', o', occurs', rfl⟩ :=
      (Signature.mem_occurrences_iff isKnown).mp member
    refine Hit.start_le_of_kept kept isLine isLine' occurs' ?_
    simpa [Hit.toFinding, Occurrence.shift] using text
  · simp only [Occurrence.shift, Hit.toFinding]
    rw [isLine.count_take (by omega)]
    omega

/-- A token that stands on the second and on the third line: the finding has the line of the first,
which has one newline before it. -/
theorem tokens_by_line_twice :
    ∃ s ∈ Signature.known, s.name = "JWT" ∧
      let content := "a\nb eyJa.b.c\neyJa.b.c"
      let token := "eyJa.b.c"
      let found : List Occurrence := [⟨4, token.toList⟩, ⟨13, token.toList⟩]
      s.pattern.occurrences content.toList = found ∧
        ((Text.placed 0 (Text.lines content.toList)).flatMap fun l =>
          (s.pattern.occurrences l.2).map (Occurrence.shift l.1)) = found ∧
        ∃ f ∈ scanContent "a.txt" content, f.kind ≠ Finding.sensitiveKind ∧ f.text = token ∧
          f.line = 2 ∧ ∃ o ∈ s.pattern.occurrences content.toList,
            (∀ o' ∈ s.pattern.occurrences content.toList, o'.text = f.text.toList →
              o.start ≤ o'.start) ∧
            f.line = 1 + (content.toList.take o.start).count '\n' := by
  obtain ⟨byLine, lineOf⟩ := tokens_by_line
  obtain ⟨s, isKnown, named, found⟩ : ∃ s ∈ Signature.known, s.name = "JWT" ∧
      s.pattern.occurrences "a\nb eyJa.b.c\neyJa.b.c".toList =
        [⟨4, "eyJa.b.c".toList⟩, ⟨13, "eyJa.b.c".toList⟩] := by decide +kernel
  obtain ⟨f, reported, kind, text, line⟩ :
      ∃ f ∈ scanContent "a.txt" "a\nb eyJa.b.c\neyJa.b.c", f.kind = "JWT" ∧ f.text = "eyJa.b.c" ∧
        f.line = 2 := by
    rw [scanContent_eq]
    decide +kernel
  have other : f.kind ≠ Finding.sensitiveKind := by
    rw [kind]
    decide +kernel
  obtain ⟨s', o, same, occurs, -, first, number⟩ := lineOf "a.txt" _ f reported other
  obtain rfl : s = s' := by
    rw [kind, ← named, Signature.ofName?_name_of_known s isKnown] at same
    exact Option.some.inj same
  exact ⟨s, isKnown, named, found, (byLine s isKnown _).1.symm.trans found, f, reported, other,
    text, line, o, occurs, first, number⟩

end LeakScan
