import LeakScan.Proofs.Pattern.Language

/-!
# Greedy patterns

A matcher that prefers longer runs settles for the first way to go on that leads to an end, and in
general this is not the longest match. It is where what comes after a run cannot begin inside the
run: then all ways but the first are stuck, or end where they are. `isGreedy` says so by the shape
of a pattern. The ends that such a pattern lists come in order, the furthest first
(`graded_ends`).
-/

namespace LeakScan
set_option autoImplicit false

/-! ## Classes that share no character -/

namespace CharClass

/-- No range of one class meets a range of the other. -/
def isApart (k l : CharClass) : Bool :=
  k.ranges.all fun r => l.ranges.all fun t => r.2 < t.1 || t.2 < r.1

/-- Every range of a class lies in a range of the other. -/
def isWithin (k l : CharClass) : Bool :=
  k.ranges.all fun r => l.ranges.any fun t => t.1 ≤ r.1 && r.2 ≤ t.2

variable {k l : CharClass} {c : Char}

theorem contains_iff : k.contains c = true ↔ ∃ r ∈ k.ranges, r.1 ≤ c ∧ c ≤ r.2 := by
  simp [contains]

theorem contains_ofChars {cs : List Char} : (ofChars cs).contains c = true ↔ c ∈ cs := by
  rw [contains_iff]
  constructor
  · rintro ⟨r, inClass, low, high⟩
    obtain ⟨d, member, rfl⟩ := List.mem_map.mp inClass
    have same : d = c := Char.le_antisymm low high
    exact same ▸ member
  · intro member
    exact ⟨(c, c), List.mem_map.mpr ⟨c, member, rfl⟩, Char.le_refl c, Char.le_refl c⟩

theorem not_contains_of_isApart (apart : k.isApart l = true) (inClass : l.contains c = true) :
    k.contains c = false := by
  obtain ⟨t, inL, low, high⟩ := contains_iff.mp inClass
  refine Bool.eq_false_iff.mpr fun both => ?_
  obtain ⟨r, inK, low', high'⟩ := contains_iff.mp both
  simp only [isApart, List.all_eq_true, Bool.or_eq_true, decide_eq_true_eq] at apart
  rcases apart r inK t inL with less | less
  · exact Char.not_lt.mpr (Char.le_trans low high') less
  · exact Char.not_lt.mpr (Char.le_trans low' high) less

theorem contains_of_isWithin (within : k.isWithin l = true) (inClass : k.contains c = true) :
    l.contains c = true := by
  obtain ⟨r, inK, low, high⟩ := contains_iff.mp inClass
  simp only [isWithin, List.all_eq_true, List.any_eq_true, Bool.and_eq_true,
    decide_eq_true_eq] at within
  obtain ⟨t, inL, low', high'⟩ := within r inK
  exact contains_iff.mpr ⟨t, inL, Char.le_trans low' low, Char.le_trans high high'⟩

end CharClass

/-- A character of a class comes next. -/
def Place.FollowedBy (k : CharClass) (a : Place) : Prop :=
  ∃ c ∈ a.rest.head?, k.contains c = true

namespace Pattern

/-! ## What a pattern does before a character -/

/-- The pattern matches at most the empty text where a character of the class comes next. -/
def idles (k : CharClass) : Pattern → Bool
  | literal [] => true
  | literal (c :: _) => !k.contains c
  | run l _ _ => l.isApart k
  | notAfter _ => true
  | notBefore _ => true
  | andThen p q => p.idles k && q.idles k
  | orElse p q => p.idles k && q.idles k

/-- The pattern matches nothing where a character of the class comes next. -/
def refuses (k : CharClass) : Pattern → Bool
  | literal [] => false
  | literal (c :: _) => !k.contains c
  | run l least _ => 0 < least && l.isApart k
  | notAfter _ => false
  | notBefore l => k.isWithin l
  | andThen p q => p.refuses k || (p.idles k && q.refuses k)
  | orElse p q => p.refuses k && q.refuses k

/-- The characters that a match begins with, if every match begins with one of a class. -/
def firsts? : Pattern → Option CharClass
  | literal [] => none
  | literal (c :: _) => some (.ofChars [c])
  | run k least _ => if least = 0 then none else some k
  | notAfter _ => none
  | notBefore _ => none
  | andThen p _ => p.firsts?
  | orElse p q => do return (← p.firsts?) ++ (← q.firsts?)

/-- The characters that may come next where a match ends that is not the first choice. -/
def slack : Pattern → CharClass
  | literal _ => ⟨[]⟩
  | run k _ _ => k
  | notAfter _ => ⟨[]⟩
  | notBefore _ => ⟨[]⟩
  | andThen p q => if q.refuses p.slack then q.slack else p.slack ++ q.slack
  | orElse p q => p.slack ++ q.slack

/-- The first choice of a match is the longest: what goes on after a part of the pattern does not
begin where the part could have gone on, and of two alternatives only one begins like the text. -/
def isGreedy : Pattern → Bool
  | literal _ => true
  | run _ _ _ => true
  | notAfter _ => true
  | notBefore _ => true
  | andThen p q => p.isGreedy && q.isGreedy && q.idles p.slack
  | orElse p q => p.isGreedy && q.isGreedy && p.firsts?.any fun k => q.refuses k

variable {p q : Pattern} {k l : CharClass} {a e : Place} {before rest : List Char}

theorem after?_eq_none_of_followedBy {text : List Char} {c : Char} (other : k.contains c = false)
    (followed : a.FollowedBy k) : Place.after? (c :: text) a = none := by
  obtain ⟨offset, before, rest⟩ := a
  obtain ⟨d, next, inClass⟩ := followed
  cases rest with
  | nil => cases next
  | cons d' rest =>
    cases next
    have differ : c ≠ d := by
      rintro rfl
      rw [inClass] at other
      cases other
    rw [Place.after?, if_neg differ]

theorem ends_run_of_followedBy {least : Nat} {most : Option Nat} (apart : l.isApart k = true)
    (followed : a.FollowedBy k) :
    (run l least most).ends a = if least = 0 then [a] else [] := by
  obtain ⟨offset, before, rest⟩ := a
  obtain ⟨c, next, inClass⟩ := followed
  have other := CharClass.not_contains_of_isApart apart inClass
  cases rest with
  | nil => cases next
  | cons d rest =>
    cases next
    simp [ends, Place.runEnds, other]

theorem eq_of_mem_ends_of_idles (idle : p.idles k = true) (followed : a.FollowedBy k)
    (member : e ∈ p.ends a) : e = a := by
  induction p generalizing a e with
  | literal text =>
    cases text with
    | nil => simpa [ends, Place.after?, eq_comm] using member
    | cons c text =>
      have other : k.contains c = false := by simpa [idles] using idle
      simp [ends, after?_eq_none_of_followedBy other followed] at member
  | run l least most =>
    rw [ends_run_of_followedBy idle followed] at member
    split at member <;> simp_all
  | notAfter l | notBefore l =>
    rw [ends] at member
    split at member <;> simp_all
  | andThen p q ihp ihq =>
    simp only [idles, Bool.and_eq_true] at idle
    obtain ⟨m, hm, he⟩ := List.mem_flatMap.mp member
    obtain rfl := ihp idle.1 followed hm
    exact ihq idle.2 followed he
  | orElse p q ihp ihq =>
    simp only [idles, Bool.and_eq_true] at idle
    rcases List.mem_append.mp member with hp | hq
    · exact ihp idle.1 followed hp
    · exact ihq idle.2 followed hq

theorem ends_eq_nil_of_refuses (refuse : p.refuses k = true) (followed : a.FollowedBy k) :
    p.ends a = [] := by
  induction p generalizing a with
  | literal text =>
    cases text with
    | nil => cases refuse
    | cons c text =>
      have other : k.contains c = false := by simpa [refuses] using refuse
      rw [ends, after?_eq_none_of_followedBy other followed, Option.toList_none]
  | run l least most =>
    simp only [refuses, Bool.and_eq_true, decide_eq_true_eq] at refuse
    rw [ends_run_of_followedBy refuse.2 followed, if_neg (Nat.ne_of_gt refuse.1)]
  | notAfter l => cases refuse
  | notBefore l =>
    obtain ⟨c, next, inClass⟩ := followed
    have within := CharClass.contains_of_isWithin refuse inClass
    rw [ends, Option.mem_def.mp next, if_pos (by simpa using within)]
  | andThen p q ihp ihq =>
    simp only [refuses, Bool.or_eq_true, Bool.and_eq_true] at refuse
    rw [ends, List.flatMap_eq_nil_iff]
    intro m hm
    rcases refuse with first | ⟨idle, second⟩
    · rw [ihp first followed] at hm
      cases hm
    · obtain rfl := eq_of_mem_ends_of_idles idle followed hm
      exact ihq second followed
  | orElse p q ihp ihq =>
    simp only [refuses, Bool.and_eq_true] at refuse
    rw [ends, ihp refuse.1 followed, ihq refuse.2 followed, List.append_nil]

theorem followedBy_of_firsts? (first : p.firsts? = some k) (member : e ∈ p.ends a) :
    a.FollowedBy k := by
  induction p generalizing k a e with
  | literal text =>
    cases text with
    | nil => cases first
    | cons c text =>
      cases first
      obtain ⟨offset, before, rest⟩ := a
      cases rest with
      | nil => simp [ends, Place.after?] at member
      | cons d rest =>
        by_cases same : c = d
        · exact ⟨d, rfl, by simp [CharClass.contains_ofChars, same]⟩
        · simp [ends, Place.after?, same] at member
  | run l least most =>
    obtain ⟨offset, before, rest⟩ := a
    simp only [firsts?] at first
    split at first
    · cases first
    · rename_i needed
      cases first
      cases rest with
      | nil => simp [ends, Place.runEnds, needed] at member
      | cons c rest =>
        by_cases inClass : l.contains c = true
        · exact ⟨c, rfl, inClass⟩
        · simp [ends, Place.runEnds, needed, inClass] at member
  | notAfter l | notBefore l => cases first
  | andThen p q ihp ihq =>
    obtain ⟨m, hm, -⟩ := List.mem_flatMap.mp member
    exact ihp first hm
  | orElse p q ihp ihq =>
    simp only [firsts?, Option.bind_eq_bind, Option.bind_eq_some_iff, Option.pure_def,
      Option.some.injEq] at first
    obtain ⟨kp, firstP, kq, firstQ, rfl⟩ := first
    rcases List.mem_append.mp member with hp | hq
    · obtain ⟨c, next, inClass⟩ := ihp firstP hp
      exact ⟨c, next, by simp [inClass]⟩
    · obtain ⟨c, next, inClass⟩ := ihq firstQ hq
      exact ⟨c, next, by simp [inClass]⟩

/-! ## The first choice -/

/-- Ends of matches, the furthest first; behind all but the first comes a character of the class. -/
structure Graded (k : CharClass) (found : List Place) : Prop where
  inOrder : found.Pairwise fun x y => y.offset ≤ x.offset
  followed : ∀ e ∈ found.tail, e.FollowedBy k

theorem Graded.mono {found : List Place} (graded : Graded k found)
    (wider : ∀ c, k.contains c = true → l.contains c = true) : Graded l found where
  inOrder := graded.inOrder
  followed e member := by
    obtain ⟨c, next, inClass⟩ := graded.followed e member
    exact ⟨c, next, wider c inClass⟩

theorem graded_nil : Graded k [] := ⟨.nil, nofun⟩

theorem graded_singleton : Graded k [a] := ⟨List.pairwise_singleton _ _, nofun⟩

/-- A run may stop here, if it is long enough, behind the shorter runs that it has passed. -/
theorem graded_stopping {enough : Prop} [Decidable enough] {here : Place} {acc : List Place}
    (inOrder : acc.Pairwise fun x y => y.offset ≤ x.offset)
    (passed : ∀ e ∈ acc, e.offset ≤ here.offset ∧ e.FollowedBy k) :
    Graded k (if enough then here :: acc else acc) := by
  split
  · exact ⟨List.pairwise_cons.mpr ⟨fun e member => (passed e member).1, inOrder⟩,
      fun e member => (passed e member).2⟩
  · exact ⟨inOrder, fun e member => (passed e (List.mem_of_mem_tail member)).2⟩

/-- Where a run goes on, a character of its class comes next. -/
theorem graded_runEnds {need : Nat} {room : Option Nat} {offset : Nat} {before : Option Char}
    {acc : List Place} {rest : List Char}
    (inOrder : acc.Pairwise fun x y => y.offset ≤ x.offset)
    (passed : ∀ e ∈ acc, e.offset ≤ offset ∧ e.FollowedBy k) :
    Graded k (Place.runEnds k need room offset before acc rest) := by
  induction rest generalizing need room offset before acc with
  | nil => exact graded_stopping inOrder passed
  | cons c rest ih =>
    have here : Graded k (if need = 0 then ⟨offset, before, c :: rest⟩ :: acc else acc) :=
      graded_stopping inOrder passed
    rw [Place.runEnds]
    split
    · rename_i goes
      have inClass : k.contains c = true := (Bool.and_eq_true_iff.mp goes).2
      refine ih here.inOrder fun e member => ?_
      have old (member : e ∈ acc) : e.offset ≤ offset + 1 ∧ e.FollowedBy k :=
        ⟨Nat.le_succ_of_le (passed e member).1, (passed e member).2⟩
      split at member
      · rcases List.mem_cons.mp member with rfl | member
        · exact ⟨Nat.le_succ offset, c, rfl, inClass⟩
        · exact old member
      · exact old member
    · exact here

theorem offset_le_of_mem_ends (member : e ∈ p.ends (.between before rest)) :
    before.length ≤ e.offset := by
  obtain ⟨found, after, -, rfl, -⟩ := mem_ends_iff.mp member
  simp

/-- Where all choices but the first are stuck, the first one goes on alone. -/
theorem Graded.flatMap_of_stuck {found : List Place} {f : Place → List Place}
    (graded : Graded k found) (later : ∀ m ∈ found, Graded l (f m))
    (stuck : ∀ m : Place, m.FollowedBy k → f m = []) : Graded l (found.flatMap f) := by
  cases found with
  | nil => exact graded_nil
  | cons m others =>
    have alone : others.flatMap f = [] :=
      List.flatMap_eq_nil_iff.mpr fun m' member => stuck m' (graded.followed m' member)
    rw [List.flatMap_cons, alone, List.append_nil]
    exact later m List.mem_cons_self

/-- Where all choices but the first stay where they are, the first one leads furthest. -/
theorem Graded.flatMap_of_idle {found : List Place} {f : Place → List Place}
    (graded : Graded k found) (later : ∀ m ∈ found, Graded l (f m))
    (onward : ∀ m ∈ found, ∀ e ∈ f m, m.offset ≤ e.offset)
    (idle : ∀ m : Place, m.FollowedBy k → ∀ e ∈ f m, e = m) :
    Graded (k ++ l) (found.flatMap f) := by
  cases found with
  | nil => exact graded_nil
  | cons m others =>
    have followed := graded.followed
    obtain ⟨least, inOrder⟩ := List.pairwise_cons.mp graded.inOrder
    have stays (m' : Place) (member : m' ∈ others) : ∀ e ∈ f m', e = m' :=
      idle m' (followed m' member)
    constructor
    · refine List.pairwise_flatMap.mpr ⟨fun m' member => (later m' member).inOrder, ?_⟩
      refine List.pairwise_cons.mpr ⟨?_, ?_⟩
      · intro m' member e he e' he'
        have far := onward m List.mem_cons_self e he
        have near := least m' member
        rw [stays m' member e' he']
        omega
      · refine inOrder.imp_of_mem ?_
        intro m₁ m₂ member₁ member₂ le e he e' he'
        rw [stays m₁ member₁ e he, stays m₂ member₂ e' he']
        exact le
    · intro e member
      have split : e ∈ (f m).tail ∨ e ∈ others.flatMap f := by
        rw [List.flatMap_cons] at member
        cases here : f m with
        | nil =>
          rw [here] at member
          exact Or.inr (List.mem_of_mem_tail member)
        | cons e' es =>
          rw [here] at member
          exact List.mem_append.mp member
      rcases split with near | far
      · obtain ⟨c, next, inClass⟩ := (later m List.mem_cons_self).followed e near
        exact ⟨c, next, by simp [inClass]⟩
      · obtain ⟨m', member', he⟩ := List.mem_flatMap.mp far
        obtain ⟨c, next, inClass⟩ := followed m' member'
        rw [stays m' member' e he]
        exact ⟨c, next, by simp [inClass]⟩

/-- **A greedy pattern lists the furthest end first.** -/
theorem graded_ends (greedy : p.isGreedy = true) (before rest : List Char) :
    Graded p.slack (p.ends (.between before rest)) := by
  induction p generalizing before rest with
  | literal text =>
    rw [ends]
    cases Place.after? text (.between before rest) with
    | none => exact graded_nil
    | some e => exact graded_singleton
  | run k least most => exact graded_runEnds .nil (List.forall_mem_nil _)
  | notAfter k | notBefore k =>
    rw [ends]
    split
    · exact graded_nil
    · exact graded_singleton
  | andThen p q ihp ihq =>
    simp only [isGreedy, Bool.and_eq_true] at greedy
    obtain ⟨⟨greedyP, greedyQ⟩, idle⟩ := greedy
    have first := ihp greedyP before rest
    have later : ∀ m ∈ p.ends (.between before rest), Graded q.slack (q.ends m) := by
      intro m member
      obtain ⟨found, after, -, rfl, -⟩ := mem_ends_iff.mp member
      exact ihq greedyQ _ _
    have onward : ∀ m ∈ p.ends (.between before rest), ∀ e ∈ q.ends m, m.offset ≤ e.offset := by
      intro m member e
      obtain ⟨found, after, -, rfl, -⟩ := mem_ends_iff.mp member
      exact offset_le_of_mem_ends
    rw [ends, slack]
    split
    · rename_i refuse
      exact first.flatMap_of_stuck later fun m => ends_eq_nil_of_refuses refuse
    · exact first.flatMap_of_idle later onward fun m followed e =>
        eq_of_mem_ends_of_idles idle followed
  | orElse p q ihp ihq =>
    simp only [isGreedy, Bool.and_eq_true] at greedy
    obtain ⟨⟨greedyP, greedyQ⟩, apart⟩ := greedy
    obtain ⟨k, first, refuse⟩ := (Option.any_eq_true _ _).mp apart
    rw [ends, slack]
    cases choices : p.ends (.between before rest) with
    | nil => exact (ihq greedyQ before rest).mono (by simp +contextual)
    | cons m others =>
      -- The first alternative matches, so the second has no match here.
      have member : m ∈ p.ends (.between before rest) := choices ▸ List.mem_cons_self
      rw [ends_eq_nil_of_refuses refuse (followedBy_of_firsts? first member), List.append_nil,
        ← choices]
      exact (ihp greedyP before rest).mono (by simp +contextual)

end Pattern
end LeakScan
