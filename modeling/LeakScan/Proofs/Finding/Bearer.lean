import LeakScan.Proofs.Finding.Token
import LeakScan.Proofs.Pattern.Compare

/-!
# Bearer tokens

Two signatures read the token of an authorization header: for one it is the whole pattern, for the
other the second of two alternatives, whose first never holds a capital letter. So the two searches
stay in step on every text, although the second also stops at tokens of its own
(`occurrences_netlify`), a line shows a bearer token under both names or under none, and a scan
reports it under both, on the same line (`bearer_tokens_under_both`).
-/

namespace LeakScan
set_option autoImplicit false

namespace Signature

/-- How the token of an authorization header begins. -/
def bearerStart : List Char := "Bearer ".toList

section Bearer

variable {netlify cloudflare : Signature} (named : ofName? "Netlify" = some netlify)
  (named' : ofName? "Cloudflare" = some cloudflare)

include named in
theorem pattern_netlify : netlify.pattern = bearer := by
  cases named
  rfl

include named' in
theorem pattern_cloudflare :
    cloudflare.pattern = (lit "cf-" ++ exactly 32 lowerAlphanumeric).orElse bearer := by
  cases named'
  rfl

include named named'

/-- On every text the first search finds, of what the second finds, the bearer tokens. -/
theorem occurrences_netlify (cs : List Char) :
    netlify.pattern.occurrences cs =
      (cloudflare.pattern.occurrences cs).filter fun o => bearerStart.isPrefixOf o.text := by
  obtain ⟨isKnown, -⟩ := mem_known_of_ofName? named
  obtain ⟨isKnown', -⟩ := mem_known_of_ofName? named'
  have selects : Pattern.Selects cloudflare.pattern netlify.pattern cs cs
      bearerStart.isPrefixOf := by
    have avoided : (lit "cf-" ++ exactly 32 lowerAlphanumeric).avoids 'B' = true := by
      decide +kernel
    rw [pattern_netlify named, pattern_cloudflare named']
    exact Pattern.selects_orElse avoided "earer ".toList
  exact Pattern.occurrences_eq_filter (isGreedy_pattern _ isKnown') (least_pos _ isKnown')
    (isGreedy_pattern _ isKnown) (least_pos _ isKnown) selects

/-- A line shows the one signature's tokens as bearer tokens of the other. -/
theorem shows_netlify_iff {line token : List Char} :
    netlify.Shows line token ↔ cloudflare.Shows line token ∧ bearerStart <+: token := by
  unfold Shows
  rw [occurrences_netlify named named']
  constructor
  · rintro ⟨o, occurs, rfl⟩
    obtain ⟨reported, starts⟩ := List.mem_filter.mp occurs
    exact ⟨⟨o, reported, rfl⟩, List.isPrefixOf_iff_prefix.mp starts⟩
  · rintro ⟨⟨o, reported, rfl⟩, starts⟩
    refine ⟨o, List.mem_filter.mpr ⟨reported, ?_⟩, rfl⟩
    exact List.isPrefixOf_iff_prefix.mpr starts

/-- The first lines on which the two signatures show a bearer token are one. -/
theorem firstOn_netlify_iff {content : String} {n : Nat} {token : List Char} :
    netlify.FirstOn content n token ↔
      cloudflare.FirstOn content n token ∧ bearerStart <+: token := by
  constructor
  · rintro ⟨⟨line, here, shown⟩, above⟩
    obtain ⟨shown', starts⟩ := (shows_netlify_iff named named').mp shown
    refine ⟨⟨⟨line, here, shown'⟩, ?_⟩, starts⟩
    intro m line' here' other
    exact above m line' here' ((shows_netlify_iff named named').mpr ⟨other, starts⟩)
  · rintro ⟨⟨⟨line, here, shown⟩, above⟩, starts⟩
    refine ⟨⟨line, here, (shows_netlify_iff named named').mpr ⟨shown, starts⟩⟩, ?_⟩
    intro m line' here' other
    exact above m line' here' ((shows_netlify_iff named named').mp other).1

end Bearer
end Signature

open Signature in
/-- **Every bearer token is reported under both names.** Of every text, the search for the one
signature finds what the search for the other finds and what begins like a bearer token. So a
finding of the one kind comes with one of the other, of the same text and on the same line, and the
other way round if the text begins like a bearer token. -/
theorem bearer_tokens_under_both :
    ∃ netlify cloudflare, ofName? "Netlify" = some netlify ∧
      ofName? "Cloudflare" = some cloudflare ∧
      (∀ cs : List Char, netlify.pattern.occurrences cs =
        (cloudflare.pattern.occurrences cs).filter fun o => "Bearer ".toList.isPrefixOf o.text) ∧
      ∀ file content : String,
        (∀ f ∈ scanContent file content, f.kind = "Netlify" →
          ∃ g ∈ scanContent file content, g.kind = "Cloudflare" ∧ g.text = f.text ∧
            g.line = f.line) ∧
        ∀ f ∈ scanContent file content, f.kind = "Cloudflare" →
          "Bearer ".toList <+: f.text.toList →
            ∃ g ∈ scanContent file content, g.kind = "Netlify" ∧ g.text = f.text ∧
              g.line = f.line := by
  obtain ⟨netlify, named⟩ : ∃ s, ofName? "Netlify" = some s := ⟨_, rfl⟩
  obtain ⟨cloudflare, named'⟩ : ∃ s, ofName? "Cloudflare" = some s := ⟨_, rfl⟩
  obtain ⟨isKnown, name⟩ := mem_known_of_ofName? named
  obtain ⟨isKnown', name'⟩ := mem_known_of_ofName? named'
  refine ⟨netlify, cloudflare, named, named', occurrences_netlify named named', ?_⟩
  intro file content
  constructor
  · intro f reported kind
    obtain ⟨n, number, first⟩ := firstOn_of_mem_scanContent isKnown reported (kind.trans name.symm)
    have first' := ((firstOn_netlify_iff named named').mp first).1
    obtain ⟨g, reported', kind', text, line⟩ :=
      exists_mem_scanContent_of_firstOn isKnown' file first'
    exact ⟨g, reported', kind'.trans name', text, line.trans number.symm⟩
  · intro f reported kind starts
    obtain ⟨n, number, first⟩ :=
      firstOn_of_mem_scanContent isKnown' reported (kind.trans name'.symm)
    have first' := (firstOn_netlify_iff named named').mpr ⟨first, starts⟩
    obtain ⟨g, reported', kind', text, line⟩ :=
      exists_mem_scanContent_of_firstOn isKnown file first'
    exact ⟨g, reported', kind'.trans name, text, line.trans number.symm⟩

open Signature in
/-- Tokens of both kinds without a space between them: the second search stops at each of them, the
first at every other one, and a scan reports the bearer tokens under both names. -/
theorem bearer_tokens_under_both_adjacent :
    ∃ netlify cloudflare, ofName? "Netlify" = some netlify ∧
      ofName? "Cloudflare" = some cloudflare ∧
      let own := "cf-".toList ++ List.replicate 32 '0'
      let long := "Bearer ".toList ++ List.replicate 60 'a'
      let short := "Bearer ".toList ++ List.replicate 40 'b'
      let cs := own ++ long ++ own ++ short
      cloudflare.pattern.occurrences cs = [⟨0, own⟩, ⟨35, long⟩, ⟨102, own⟩, ⟨137, short⟩] ∧
        netlify.pattern.occurrences cs = [⟨35, long⟩, ⟨137, short⟩] ∧
        (∃ f ∈ scanContent "a.txt" (String.ofList cs), f.kind = "Netlify" ∧
          ∃ g ∈ scanContent "a.txt" (String.ofList cs), g.kind = "Cloudflare" ∧
            g.text = f.text ∧ g.line = f.line) ∧
        ∃ f ∈ scanContent "a.txt" (String.ofList cs), f.kind = "Cloudflare" ∧
          "Bearer ".toList <+: f.text.toList ∧
            ∃ g ∈ scanContent "a.txt" (String.ofList cs), g.kind = "Netlify" ∧
              g.text = f.text ∧ g.line = f.line := by
  obtain ⟨netlify, cloudflare, named, named', inStep, onLines⟩ := bearer_tokens_under_both
  refine ⟨netlify, cloudflare, named, named', ?_⟩
  intro own long short cs
  obtain ⟨alsoCloudflare, alsoNetlify⟩ := onLines "a.txt" (String.ofList cs)
  have found : cloudflare.pattern.occurrences cs =
      [⟨0, own⟩, ⟨35, long⟩, ⟨102, own⟩, ⟨137, short⟩] := by
    cases named'
    decide +kernel
  have found' : netlify.pattern.occurrences cs = [⟨35, long⟩, ⟨137, short⟩] := by
    rw [inStep cs, found]
    decide +kernel
  have oneLine : (Text.lines (String.ofList cs).toList)[0]? = some cs := by
    have unbroken : '\n' ∉ cs := by decide +kernel
    rw [String.toList_ofList, Text.lines, Text.split_of_notMem unbroken, List.getElem?_cons_zero]
  obtain ⟨isKnown, name⟩ := mem_known_of_ofName? named
  obtain ⟨isKnown', name'⟩ := mem_known_of_ofName? named'
  -- On the one line of the content each token is the first of its text.
  have first : netlify.FirstOn (String.ofList cs) 0 (String.ofList long).toList := by
    refine ⟨⟨cs, oneLine, ⟨35, long⟩, ?_, by simp⟩, fun m _ _ _ => Nat.zero_le m⟩
    rw [found']
    exact List.mem_cons_self
  have first' := (firstOn_netlify_iff named named').mp first
  obtain ⟨f, reported, kind, -⟩ := exists_mem_scanContent_of_firstOn isKnown "a.txt" first
  obtain ⟨g, reported', kind', text, -⟩ :=
    exists_mem_scanContent_of_firstOn isKnown' "a.txt" first'.1
  have starts : "Bearer ".toList <+: g.text.toList := by
    rw [text]
    exact first'.2
  have twin := alsoCloudflare f reported (kind.trans name)
  have twin' := alsoNetlify g reported' (kind'.trans name') starts
  exact ⟨found, found', ⟨f, reported, kind.trans name, twin⟩, g, reported', kind'.trans name',
    starts, twin'⟩

end LeakScan
