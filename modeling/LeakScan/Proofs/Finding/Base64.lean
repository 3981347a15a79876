import LeakScan.Proofs.Finding.Coverage
import LeakScan.Proofs.Pattern.Greedy

/-!
# Whole tokens of base 64

The signature for base 64 looks at both neighbours of what it reads. So what it matches is a maximal
run of the characters of base 64 and its padding, and the run has the shape of a token: enough
characters first, the padding behind them (`matchesAt_iff_isMaximalRun`). Two maximal runs that
share a place are one, hence no match begins inside another and a search reports them all
(`base64_tokens_whole`): of a longer run no slice is ever reported.
-/

namespace LeakScan
set_option autoImplicit false

namespace Text

/-! ## Maximal runs -/

/-- A maximal run of the characters that a test accepts: `run` stands in the text between `before`
and `after`, and neither neighbour of it is accepted. -/
structure IsMaximalRun (accepts : Char → Bool) (cs before run after : List Char) : Prop where
  text : cs = before ++ run ++ after
  nonempty : run ≠ []
  accepted : ∀ c ∈ run, accepts c = true
  starts : ∀ c ∈ before.getLast?, accepts c = false
  ends : ∀ c ∈ after.head?, accepts c = false

namespace IsMaximalRun

variable {accepts : Char → Bool} {cs before run after before' run' after' : List Char}

/-- What is accepted behind a start reaches no further than a maximal run that starts there. -/
theorem isPrefix_of_start_eq (isRun : IsMaximalRun accepts cs before run after)
    (isRun' : IsMaximalRun accepts cs before run' after') : run' <+: run := by
  have text := isRun.text
  rw [isRun'.text, List.append_assoc, List.append_assoc] at text
  rcases List.append_eq_append_iff.mp (List.append_cancel_left text) with
    ⟨more, longer, -⟩ | ⟨more, longer, rest⟩
  · exact ⟨more, longer.symm⟩
  · cases more with
    | nil =>
      rw [List.append_nil] at longer
      exact longer ▸ List.prefix_refl _
    | cons c more =>
      have accepted : accepts c = true := isRun'.accepted c (by simp [longer])
      have stops : accepts c = false := isRun.ends c (by rw [rest]; rfl)
      rw [accepted] at stops
      cases stops

/-- No maximal run begins inside another. -/
theorem start_eq_of_inside (isRun : IsMaximalRun accepts cs before run after)
    (isRun' : IsMaximalRun accepts cs before' run' after') (low : before.length ≤ before'.length)
    (high : before'.length < before.length + run.length) : before = before' := by
  have first : before <+: cs := ⟨run ++ after, by rw [isRun.text, List.append_assoc]⟩
  have second : before' <+: cs := ⟨run' ++ after', by rw [isRun'.text, List.append_assoc]⟩
  obtain ⟨more, rfl⟩ := List.prefix_of_prefix_length_le first second low
  rcases List.eq_nil_or_concat more with none | ⟨more, c, rfl⟩
  · rw [none, List.append_nil]
  · -- The character before the second run would be one of the first.
    have text := isRun.text
    rw [isRun'.text, List.append_assoc, List.append_assoc, List.append_assoc] at text
    have tail := List.append_cancel_left text
    have reached : (more.concat c).length ≤ run.length := by
      rw [List.length_append] at high
      omega
    have inside : more.concat c <+: run := by
      have short : more.concat c <+: run ++ after := ⟨run' ++ after', tail⟩
      exact List.prefix_of_prefix_length_le short (List.prefix_append _ _) reached
    have accepted : accepts c = true := isRun.accepted c (inside.mem (by simp))
    have stops : accepts c = false := isRun'.starts c (by simp)
    rw [accepted] at stops
    cases stops

/-- Two maximal runs are one if the second begins inside the first. -/
theorem eq_of_inside (isRun : IsMaximalRun accepts cs before run after)
    (isRun' : IsMaximalRun accepts cs before' run' after') (low : before.length ≤ before'.length)
    (high : before'.length < before.length + run.length) : before = before' ∧ run = run' := by
  obtain rfl := isRun.start_eq_of_inside isRun' low high
  have longer := isRun.isPrefix_of_start_eq isRun'
  have shorter := isRun'.isPrefix_of_start_eq isRun
  have size : run.length = run'.length := Nat.le_antisymm shorter.length_le longer.length_le
  exact ⟨rfl, shorter.eq_of_length size⟩

end IsMaximalRun

/-! ## Tokens -/

/-- A character of base 64: a letter, a digit, a plus or a slash. -/
def isBase64 (c : Char) : Bool :=
  c.isAlphanum || c = '+' || c = '/'

/-- A character of base 64 or the sign that pads it. -/
def isPaddedBase64 (c : Char) : Bool :=
  isBase64 c || c = '='

/-- At least 32 characters of base 64, and behind them at most two signs of padding. -/
def IsBase64Token (token : List Char) : Prop :=
  ∃ body padding, token = body ++ List.replicate padding '=' ∧ 32 ≤ body.length ∧
    (∀ c ∈ body, isBase64 c = true) ∧ padding ≤ 2

variable {token : List Char}

theorem IsBase64Token.ne_nil (isToken : IsBase64Token token) : token ≠ [] := by
  obtain ⟨body, padding, rfl, long, -, -⟩ := isToken
  intro none
  have size := congrArg List.length none
  rw [List.length_append, List.length_nil] at size
  omega

theorem IsBase64Token.accepted (isToken : IsBase64Token token) :
    ∀ c ∈ token, isPaddedBase64 c = true := by
  obtain ⟨body, padding, rfl, -, inBody, -⟩ := isToken
  intro c member
  rcases List.mem_append.mp member with inside | behind
  · simp [isPaddedBase64, inBody c inside]
  · simp [isPaddedBase64, List.eq_of_mem_replicate behind]

theorem not_isBase64_padding : isBase64 '=' = false := by decide

/-- In a token only padding stands behind padding. -/
theorem IsBase64Token.eq_of_behind_padding {a b : List Char} {c : Char}
    (isToken : IsBase64Token (a ++ '=' :: c :: b)) : c = '=' := by
  obtain ⟨body, padding, split, -, inBody, -⟩ := isToken
  rcases List.append_eq_append_iff.mp split with ⟨more, rfl, behind⟩ | ⟨more, rfl, behind⟩
  · cases more with
    | nil =>
      have member : c ∈ List.replicate padding '=' := by
        rw [List.nil_append] at behind
        rw [← behind]
        simp
      exact List.eq_of_mem_replicate member
    | cons d more =>
      obtain ⟨rfl, -⟩ := List.cons.inj behind
      have padded := inBody '=' (by simp)
      rw [not_isBase64_padding] at padded
      cases padded
  · have member : c ∈ List.replicate padding '=' := by
      rw [behind]
      simp
    exact List.eq_of_mem_replicate member

/-- No token ends with more than two signs of padding. -/
theorem IsBase64Token.not_overpadded (isToken : IsBase64Token token) :
    ¬ List.replicate 3 '=' <:+ token := by
  obtain ⟨body, padding, rfl, -, inBody, few⟩ := isToken
  rintro ⟨start, split⟩
  rcases List.append_eq_append_iff.mp split with ⟨more, rfl, behind⟩ | ⟨more, -, behind⟩
  · have size := congrArg List.length behind
    simp only [List.length_append, List.length_replicate] at size
    cases more with
    | nil =>
      rw [List.length_nil] at size
      omega
    | cons c more =>
      have padded : c = '=' := by
        have member : c ∈ List.replicate 3 '=' := by
          rw [behind]
          exact List.mem_cons_self
        exact List.eq_of_mem_replicate member
      have inside := inBody c (by simp)
      rw [padded, not_isBase64_padding] at inside
      cases inside
  · have size := congrArg List.length behind
    simp only [List.length_append, List.length_replicate] at size
    omega

end Text

namespace Signature

open Text

theorem contains_alphanumeric_iff {c : Char} :
    alphanumeric.contains c = true ↔ c.isAlphanum = true := by
  have spelled : c.isAlphanum = (decide ('A' ≤ c ∧ c ≤ 'Z') ||
      (decide ('a' ≤ c) && decide (c ≤ 'z')) || (decide ('0' ≤ c) && decide (c ≤ '9'))) := rfl
  rw [spelled]
  simp only [alphanumeric, digit, lower, upper, CharClass.contains_append, CharClass.contains_iff,
    List.mem_singleton, exists_eq_left, Bool.or_eq_true, Bool.and_eq_true, decide_eq_true_eq]
  grind

theorem contains_base64 (c : Char) : base64.contains c = isBase64 c := by
  have plain : base64.contains c = true ↔ isBase64 c = true := by
    rw [base64, CharClass.contains_append, Bool.or_eq_true, contains_alphanumeric_iff,
      CharClass.contains_ofChars]
    simp [isBase64, or_assoc]
  exact Bool.eq_iff_iff.mpr plain

theorem contains_paddedBase64 (c : Char) : paddedBase64.contains c = isPaddedBase64 c := by
  have padded : (CharClass.ofChars ['=']).contains c = decide (c = '=') := by
    rw [Bool.eq_iff_iff, CharClass.contains_ofChars]
    simp
  rw [paddedBase64, CharClass.contains_append, contains_base64, padded, isPaddedBase64]

section GenericBase64

variable {s : Signature} {cs before found after : List Char} {i : Nat}
  (named : ofName? "Generic Base64" = some s)

include named

theorem pattern_genericBase64 : s.pattern = .notAfter paddedBase64 ++ atLeast 32 base64 ++
    between 0 2 (.ofChars ['=']) ++ .notBefore paddedBase64 := by
  cases named
  rfl

/-- What the signature reads is a token, with no character of the alphabet on either side. -/
theorem reads_genericBase64_iff :
    s.pattern.Reads before found after ↔ IsBase64Token found ∧
      (∀ c ∈ before.getLast?, isPaddedBase64 c = false) ∧
        ∀ c ∈ after.head?, isPaddedBase64 c = false := by
  rw [pattern_genericBase64 named]
  constructor
  · rintro ⟨_, _, rfl, ⟨_, pad, rfl, ⟨_, body, rfl, ⟨rfl, starts⟩, isBody⟩, isPad⟩, rfl, ends⟩
    simp only [contains_paddedBase64] at starts ends
    have allPadding : ∀ c ∈ pad, c = '=' := by
      intro c member
      simpa using CharClass.contains_ofChars.mp (isPad.inClass c member)
    have inBody : ∀ c ∈ body, isBase64 c = true := by
      intro c member
      rw [← contains_base64]
      exact isBody.inClass c member
    refine ⟨⟨body, pad.length, ?_, isBody.long, inBody, isPad.short 2 rfl⟩, starts, ends⟩
    rw [← List.eq_replicate_of_mem allPadding]
    simp
  · rintro ⟨⟨body, padding, rfl, long, inBody, few⟩, starts, ends⟩
    simp only [← contains_paddedBase64] at starts ends
    simp only [← contains_base64] at inBody
    have isBody : Pattern.IsRun base64 32 none body := ⟨long, by simp, inBody⟩
    have isPad : Pattern.IsRun (.ofChars ['=']) 0 (some 2) (List.replicate padding '=') := by
      refine ⟨Nat.zero_le _, by simpa using few, ?_⟩
      intro c member
      rw [List.eq_of_mem_replicate member]
      exact CharClass.contains_ofChars.mpr List.mem_cons_self
    refine ⟨body ++ List.replicate padding '=', [], by simp, ?_, rfl, ends⟩
    refine ⟨body, List.replicate padding '=', rfl, ?_, isPad⟩
    exact ⟨[], body, rfl, ⟨rfl, starts⟩, isBody⟩

/-- The matches are the maximal runs that are tokens. -/
theorem matchesAt_genericBase64_iff :
    s.pattern.MatchesAt cs i found ↔ ∃ before after, i = before.length ∧
      IsMaximalRun isPaddedBase64 cs before found after ∧ IsBase64Token found := by
  constructor
  · rintro ⟨before, after, split, rfl, reads⟩
    obtain ⟨isToken, starts, ends⟩ := (reads_genericBase64_iff named).mp reads
    exact ⟨before, after, rfl, ⟨split, isToken.ne_nil, isToken.accepted, starts, ends⟩, isToken⟩
  · rintro ⟨before, after, rfl, isRun, isToken⟩
    refine ⟨before, after, isRun.text, rfl, ?_⟩
    exact (reads_genericBase64_iff named).mpr ⟨isToken, isRun.starts, isRun.ends⟩

/-- The search reports the maximal runs that are tokens. -/
theorem mem_occurrences_genericBase64_iff {o : Occurrence} :
    o ∈ s.pattern.occurrences cs ↔ ∃ before after, o.start = before.length ∧
      IsMaximalRun isPaddedBase64 cs before o.text after ∧ IsBase64Token o.text := by
  have positive : 0 < s.pattern.least := by
    rw [pattern_genericBase64 named]
    decide
  rw [← matchesAt_genericBase64_iff named]
  apply Pattern.mem_occurrences_iff_of_apart positive
  intro i found j other isMatch isMatch' low high
  obtain ⟨before, after, rfl, isRun, -⟩ := (matchesAt_genericBase64_iff named).mp isMatch
  obtain ⟨before', after', rfl, isRun', -⟩ := (matchesAt_genericBase64_iff named).mp isMatch'
  obtain ⟨rfl, rfl⟩ := isRun.eq_of_inside isRun' low high
  exact ⟨rfl, rfl⟩

/-- Of a maximal run the search reports the whole or nothing. -/
theorem eq_or_apart_of_mem_occurrences {run : List Char} {o : Occurrence}
    (reported : o ∈ s.pattern.occurrences cs)
    (isRun : IsMaximalRun isPaddedBase64 cs before run after) :
    (o = ⟨before.length, run⟩ ∧ IsBase64Token run) ∨ o.start + o.text.length ≤ before.length ∨
      before.length + run.length ≤ o.start := by
  obtain ⟨start, text⟩ := o
  obtain ⟨before', after', place, isRun', isToken⟩ :=
    (mem_occurrences_genericBase64_iff named).mp reported
  simp only at place isRun' isToken ⊢
  subst place
  rcases Nat.le_total before.length before'.length with low | low
  · by_cases high : before'.length < before.length + run.length
    · obtain ⟨rfl, rfl⟩ := isRun.eq_of_inside isRun' low high
      exact Or.inl ⟨rfl, isToken⟩
    · omega
  · by_cases high : before.length < before'.length + text.length
    · obtain ⟨rfl, rfl⟩ := isRun'.eq_of_inside isRun low high
      exact Or.inl ⟨rfl, isToken⟩
    · omega

end GenericBase64

/-- **Base 64 is reported in whole tokens.** Of every text the signature reports, each once and from
left to right, the maximal runs of characters of base 64 and its padding that are tokens. Every
reported occurrence is therefore a whole run or stands apart from it, and none touches a run with
padding inside or with three signs of padding at its end. -/
theorem base64_tokens_whole :
    ∃ s, ofName? "Generic Base64" = some s ∧ ∀ cs : List Char,
      (∀ o, o ∈ s.pattern.occurrences cs ↔ ∃ before after, o.start = before.length ∧
        IsMaximalRun isPaddedBase64 cs before o.text after ∧ IsBase64Token o.text) ∧
      ((s.pattern.occurrences cs).Pairwise
        fun a b => a.start < b.start ∧ a.start + a.text.length ≤ b.start) ∧
      ∀ before run after, IsMaximalRun isPaddedBase64 cs before run after →
        (∀ o ∈ s.pattern.occurrences cs, o = ⟨before.length, run⟩ ∨
          o.start + o.text.length ≤ before.length ∨ before.length + run.length ≤ o.start) ∧
        ((∃ a c b, run = a ++ '=' :: c :: b ∧ c ≠ '=') ∨ List.replicate 3 '=' <:+ run →
          ∀ o ∈ s.pattern.occurrences cs,
            o.start + o.text.length ≤ before.length ∨ before.length + run.length ≤ o.start) := by
  obtain ⟨s, named⟩ : ∃ s, ofName? "Generic Base64" = some s := ⟨_, rfl⟩
  refine ⟨s, named, fun cs => ⟨?_, Pattern.pairwise_occurrences s.pattern cs, ?_⟩⟩
  · intro o
    exact mem_occurrences_genericBase64_iff named
  · intro before run after isRun
    constructor
    · intro o reported
      rcases eq_or_apart_of_mem_occurrences named reported isRun with ⟨whole, -⟩ | apart
      · exact Or.inl whole
      · exact Or.inr apart
    · intro spoiled o reported
      rcases eq_or_apart_of_mem_occurrences named reported isRun with ⟨-, isToken⟩ | apart
      · rcases spoiled with ⟨a, c, b, rfl, other⟩ | overpadded
        · exact absurd isToken.eq_of_behind_padding other
        · exact absurd overpadded isToken.not_overpadded
      · exact apart

/-- A run with padding inside, an overpadded run and a token: only the token is reported. -/
theorem base64_tokens_whole_overpadded :
    ∃ s, ofName? "Generic Base64" = some s ∧
      let inner := List.replicate 32 'A' ++ ['=', 'A']
      let overpadded := List.replicate 40 'x' ++ ['=', '=', '=']
      let token := List.replicate 32 '/' ++ ['=']
      let cs := inner ++ ' ' :: (overpadded ++ ' ' :: token)
      s.pattern.occurrences cs = [⟨79, token⟩] ∧
        IsMaximalRun isPaddedBase64 cs (inner ++ [' ']) overpadded (' ' :: token) ∧
        (∃ before after, 79 = before.length ∧
          IsMaximalRun isPaddedBase64 cs before token after ∧ IsBase64Token token) ∧
        (79 + token.length ≤ 35 ∨ 35 + overpadded.length ≤ 79) := by
  obtain ⟨s, named, whole⟩ := base64_tokens_whole
  refine ⟨s, named, ?_⟩
  intro inner overpadded token cs
  obtain ⟨reports, -, runs⟩ := whole cs
  have found : s.pattern.occurrences cs = [⟨79, token⟩] := by
    cases named
    decide +kernel
  have accepted : overpadded.all isPaddedBase64 = true := by decide +kernel
  have space : isPaddedBase64 ' ' = false := by decide +kernel
  have isRun : IsMaximalRun isPaddedBase64 cs (inner ++ [' ']) overpadded (' ' :: token) := by
    refine ⟨by simp [cs], by simp [overpadded], List.all_eq_true.mp accepted, ?_, ?_⟩
    · intro c last
      rw [List.getLast?_concat] at last
      exact Option.some.inj last ▸ space
    · intro c next
      exact Option.some.inj next ▸ space
  have reported : (⟨79, token⟩ : Occurrence) ∈ s.pattern.occurrences cs := by
    rw [found]
    exact List.mem_cons_self
  have spoiled : List.replicate 3 '=' <:+ overpadded := ⟨List.replicate 40 'x', rfl⟩
  exact ⟨found, isRun, (reports _).mp reported, (runs _ _ _ isRun).2 (Or.inr spoiled) _ reported⟩

end Signature
end LeakScan
