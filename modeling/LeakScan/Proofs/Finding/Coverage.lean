import LeakScan.Proofs.Finding.Scan
import LeakScan.Proofs.Pattern.Line
import LeakScan.Proofs.Pattern.Search

/-!
# Coverage

No leak is missed and none is invented. A match of a known signature anywhere in a content lies in
one line, since no signature reads a newline; on that line a reported occurrence reaches over its
start; and of the findings with this occurrence's kind and text one is kept. In the other
direction every finding on a line is an occurrence there, and occurrences are matches.
-/

namespace LeakScan
set_option autoImplicit false

namespace Signature

theorem avoids_newline : ∀ s ∈ known, s.pattern.avoids '\n' = true := by decide +kernel

theorem least_pos : ∀ s ∈ known, 0 < s.pattern.least := by decide +kernel

end Signature

variable {file content : String} {f : Finding}

/-- What is found on a line is reported with its kind and text, if not on this line then on one
above. -/
theorem exists_mem_scanContent_of_inContent (found : f ∈ Finding.inContent file content) :
    ∃ g ∈ scanContent file content, g.kind = f.kind ∧ g.text = f.text ∧
      g.severity = .ofKind f.kind := by
  obtain ⟨g, kept, same⟩ := exists_mem_firsts Finding.pair found
  obtain ⟨kind, text⟩ := Prod.mk.inj same
  obtain ⟨_, _, _, severity⟩ :=
    Finding.exists_signature_of_mem_inContent ((firsts_sublist _ _).subset kept)
  refine ⟨g, ?_, kind, text, kind ▸ severity⟩
  rw [scanContent_eq]
  exact List.mem_append_right _ kept

/-- A reported finding that is no sensitive name was found on a line. -/
theorem mem_inContent_of_mem_scanContent (reported : f ∈ scanContent file content)
    (other : f.kind ≠ Finding.sensitiveKind) : f ∈ Finding.inContent file content := by
  rw [scanContent_eq] at reported
  rcases List.mem_append.mp reported with named | kept
  · exact absurd (Finding.kind_of_mem_inName named) other
  · exact (firsts_sublist _ _).subset kept

/-- An occurrence of a known signature reaches over the start of any match, and it is found. -/
theorem exists_finding_over (file : String) {s : Signature} (known : s ∈ Signature.known) {i : Nat}
    {found : List Char} (isMatch : s.pattern.MatchesAt content.toList i found) :
    ∃ f ∈ Finding.inContent file content, f.kind = s.name ∧
      ∃ start, s.pattern.MatchesAt content.toList start f.text.toList ∧
        start ≤ i ∧ i < start + f.text.toList.length := by
  have avoided := Signature.avoids_newline s known
  obtain ⟨n, above, line, below, j, isLine, rfl, inLine⟩ := isMatch.exists_line avoided
  obtain ⟨o, occurs, low, high⟩ :=
    Pattern.exists_occurrence_over (Signature.least_pos s known) inLine
  have whole := (Pattern.matchesAt_of_mem_occurrences occurs).of_line avoided isLine
  refine ⟨⟨file, s.name, String.ofList o.text, (n + 1 : Nat), s.severity⟩, ?_, rfl,
    above.length + o.start, ?_⟩
  · apply Finding.mem_inContent_iff.mpr
    exact ⟨n, line, isLine.getElem?_lines, Finding.mem_onLine_iff.mpr ⟨s, known, o, occurs, rfl⟩⟩
  · rw [String.toList_ofList]
    exact ⟨whole, by omega, by omega⟩

/-- **No leak is missed and none is invented.** Where a known signature matches anywhere in the
content, a finding of its kind and severity is reported whose text is a match that reaches over
this place; and a finding that is no sensitive name has the number of a line of the content, and
its text is a match of its signature inside this line. -/
theorem scanContent_covers_matches (file content : String) :
    (∀ s ∈ Signature.known, ∀ i found, s.pattern.MatchesAt content.toList i found →
      ∃ f ∈ scanContent file content, f.kind = s.name ∧ f.severity = .ofKind s.name ∧
        ∃ start, s.pattern.MatchesAt content.toList start f.text.toList ∧
          start ≤ i ∧ i < start + f.text.toList.length) ∧
    ∀ f ∈ scanContent file content, f.kind ≠ Finding.sensitiveKind →
      ∃ s n line, Signature.ofName? f.kind = some s ∧ f.line = (n : Nat) ∧
        1 ≤ n ∧ n ≤ (Text.lines content.toList).length ∧
        (Text.lines content.toList)[n - 1]? = some line ∧
        ∃ start, s.pattern.MatchesAt line start f.text.toList := by
  constructor
  · intro s known i found isMatch
    obtain ⟨f, onLine, kind, start, whole, low, high⟩ := exists_finding_over file known isMatch
    obtain ⟨g, reported, kind', text, severity⟩ := exists_mem_scanContent_of_inContent onLine
    refine ⟨g, reported, kind'.trans kind, kind ▸ severity, start, ?_⟩
    rw [text]
    exact ⟨whole, low, high⟩
  · intro f reported other
    obtain ⟨n, line, here, found⟩ :=
      Finding.mem_inContent_iff.mp (mem_inContent_of_mem_scanContent reported other)
    obtain ⟨s, known, o, occurs, rfl⟩ := Finding.mem_onLine_iff.mp found
    have bound := (List.getElem?_eq_some_iff.mp here).1
    refine ⟨s, n + 1, line, Signature.ofName?_name_of_known s known, rfl, by omega, bound, here,
      o.start, ?_⟩
    rw [String.toList_ofList]
    exact Pattern.matchesAt_of_mem_occurrences occurs

/-- A match that starts inside another: the token at offset 5 goes unreported, and one that starts
earlier reaches over its start. -/
theorem scanContent_covers_inner_match :
    ∃ s ∈ Signature.known, s.name = "JWT" ∧
      s.pattern.MatchesAt "k\neyJeyJa.b.c".toList 5 "eyJa.b.c".toList ∧
      ∃ f ∈ scanContent "a.txt" "k\neyJeyJa.b.c", f.kind ≠ Finding.sensitiveKind ∧
        f.kind = "JWT" ∧ f.severity = .medium ∧
        (∃ start, s.pattern.MatchesAt "k\neyJeyJa.b.c".toList start f.text.toList ∧
          start ≤ 5 ∧ 5 < start + f.text.toList.length) ∧
        ∃ n line, f.line = (n : Nat) ∧ 1 ≤ n ∧ n ≤ 2 ∧
          (Text.lines "k\neyJeyJa.b.c".toList)[n - 1]? = some line ∧
          ∃ start, s.pattern.MatchesAt line start f.text.toList := by
  obtain ⟨covers, reports⟩ := scanContent_covers_matches "a.txt" "k\neyJeyJa.b.c"
  obtain ⟨s, known, jwt, isMatch⟩ : ∃ s ∈ Signature.known, s.name = "JWT" ∧
      s.pattern.MatchesAt "k\neyJeyJa.b.c".toList 5 "eyJa.b.c".toList := by decide +kernel
  obtain ⟨f, reported, kind, severity, reaches⟩ := covers s known 5 _ isMatch
  have other : f.kind ≠ Finding.sensitiveKind := by
    rw [kind, jwt]
    decide +kernel
  obtain ⟨s', n, line, same, number, low, high, here, inLine⟩ := reports f reported other
  have signature : s' = s := by
    rw [kind, Signature.ofName?_name_of_known s known] at same
    exact (Option.some.inj same).symm
  have two : (Text.lines "k\neyJeyJa.b.c".toList).length = 2 := by decide +kernel
  subst signature
  have medium : f.severity = .medium := by
    rw [severity, jwt]
    decide +kernel
  exact ⟨s', known, jwt, isMatch, f, reported, other, kind.trans jwt, medium, reaches, n, line,
    number, low, two ▸ high, here, inLine⟩

end LeakScan
