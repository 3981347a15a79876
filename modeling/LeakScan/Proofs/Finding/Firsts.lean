import LeakScan.Finding.Basic
import Std.Data.HashSet.Lemmas

/-!
# First appearances

`firsts` keeps, of the elements of a list that share a key, the one that comes first. Recording
findings in a ledger does the same for their keys, the keys seen before left out (`fresh_eq`). The
key of a finding is one text, but it tells the kind and the text of the finding apart: no kind that
is ever reported holds a colon, so the first colon of a key ends the kind (`key_eq_iff`).
-/

namespace LeakScan
set_option autoImplicit false

section Firsts

variable {α β : Type} [DecidableEq β] {key : α → β} {a : α} {l m : List α}

/-- The elements of a list, of those that share a key only the first. -/
def firsts (key : α → β) : List α → List α
  | [] => []
  | a :: as => a :: (firsts key as).filter fun b => key b ≠ key a

theorem firsts_sublist (key : α → β) (l : List α) : (firsts key l).Sublist l := by
  induction l with
  | nil => exact List.Sublist.slnil
  | cons a l ih => exact (List.filter_sublist.trans ih).cons_cons a

/-- What is kept stands behind no element of the same key. -/
theorem mem_firsts_iff :
    a ∈ firsts key l ↔ ∃ earlier later, l = earlier ++ a :: later ∧
      ∀ b ∈ earlier, key b ≠ key a := by
  induction l with
  | nil => simp [firsts]
  | cons c l ih =>
    rw [firsts, List.mem_cons, List.mem_filter, ih]
    constructor
    · rintro (rfl | ⟨⟨earlier, later, rfl, new⟩, other⟩)
      · exact ⟨[], l, rfl, by simp⟩
      · refine ⟨c :: earlier, later, rfl, ?_⟩
        intro b member
        rcases List.mem_cons.mp member with rfl | member
        · exact fun same => of_decide_eq_true other same.symm
        · exact new b member
    · rintro ⟨earlier, later, split, new⟩
      rcases List.cons_eq_append_iff.mp split with ⟨rfl, here⟩ | ⟨earlier, rfl, rfl⟩
      · exact Or.inl (List.cons.inj here).1
      · refine Or.inr ⟨⟨earlier, later, rfl, fun b member => new b ?_⟩, ?_⟩
        · exact List.mem_cons_of_mem _ member
        · exact decide_eq_true fun same => new c List.mem_cons_self same.symm

/-- No two kept elements share a key. -/
theorem nodup_map_firsts (key : α → β) (l : List α) : ((firsts key l).map key).Nodup := by
  induction l with
  | nil => exact List.nodup_nil
  | cons a l ih =>
    rw [firsts, List.map_cons, List.nodup_cons]
    constructor
    · intro member
      obtain ⟨b, kept, same⟩ := List.mem_map.mp member
      exact of_decide_eq_true (List.mem_filter.mp kept).2 same
    · exact (List.filter_sublist.map key).nodup ih

/-- Every key of the list is kept. -/
theorem exists_mem_firsts (key : α → β) (member : a ∈ l) : ∃ b ∈ firsts key l, key b = key a := by
  induction l with
  | nil => simp at member
  | cons c l ih =>
    by_cases same : key a = key c
    · exact ⟨c, List.mem_cons_self, same.symm⟩
    · have behind : a ∈ l := by
        rcases List.mem_cons.mp member with rfl | behind
        · exact absurd rfl same
        · exact behind
      obtain ⟨b, kept, hb⟩ := ih behind
      have other : key b ≠ key c := hb ▸ same
      exact ⟨b, List.mem_cons_of_mem _ (List.mem_filter.mpr ⟨kept, decide_eq_true other⟩), hb⟩

/-- In a sorted list, what is kept comes before all others of its key. -/
theorem eq_or_rel_of_mem_firsts {R : α → α → Prop} {b : α} (sorted : l.Pairwise R)
    (kept : a ∈ firsts key l) (member : b ∈ l) (same : key b = key a) : b = a ∨ R a b := by
  obtain ⟨earlier, later, rfl, new⟩ := mem_firsts_iff.mp kept
  rcases List.mem_append.mp member with old | behind
  · exact absurd same (new b old)
  · rcases List.mem_cons.mp behind with here | behind
    · exact Or.inl here
    · exact Or.inr ((List.pairwise_cons.mp (List.pairwise_append.mp sorted).2.1).1 b behind)

/-- A list without a key that comes twice is kept whole. -/
theorem firsts_eq_self (distinct : (l.map key).Nodup) : firsts key l = l := by
  induction l with
  | nil => rfl
  | cons a l ih =>
    rw [List.map_cons, List.nodup_cons] at distinct
    rw [firsts, ih distinct.2]
    congr 1
    apply List.filter_eq_self.mpr
    intro b member
    exact decide_eq_true fun same => distinct.1 (List.mem_map.mpr ⟨b, member, same⟩)

theorem firsts_append (key : α → β) (l m : List α) :
    firsts key (l ++ m) =
      firsts key l ++ (firsts key m).filter fun b => ∀ a ∈ l, key b ≠ key a := by
  induction l with
  | nil =>
    have all : (firsts key m).filter (fun b => ∀ a ∈ ([] : List α), key b ≠ key a) =
        firsts key m := by
      apply List.filter_eq_self.mpr
      intro b _
      exact decide_eq_true fun a absent => absurd absent List.not_mem_nil
    rw [all]
    rfl
  | cons a l ih =>
    rw [List.cons_append, firsts, ih, List.filter_append, List.filter_filter, firsts,
      List.cons_append]
    simp only [List.forall_mem_cons, Bool.decide_and]

theorem firsts_map {γ : Type} (key : α → β) (f : γ → α) (l : List γ) :
    firsts key (l.map f) = (firsts (fun c => key (f c)) l).map f := by
  induction l with
  | nil => rfl
  | cons c l ih =>
    rw [List.map_cons, firsts, ih, firsts, List.map_cons, List.filter_map]
    rfl

/-- Two keys that tell the elements of a list apart in the same way keep the same elements. -/
theorem firsts_congr {γ : Type} [DecidableEq γ] {key' : α → γ}
    (agree : ∀ a ∈ l, ∀ b ∈ l, key a = key b ↔ key' a = key' b) : firsts key l = firsts key' l := by
  induction l with
  | nil => rfl
  | cons c l ih =>
    rw [firsts, firsts, ih fun a ha b hb => agree a (List.mem_cons_of_mem _ ha) b
      (List.mem_cons_of_mem _ hb)]
    congr 1
    apply List.filter_congr
    intro b kept
    have behind := (firsts_sublist key' l).subset kept
    have same := agree b (List.mem_cons_of_mem _ behind) c List.mem_cons_self
    simp only [ne_eq, same]

end Firsts

namespace Finding

/-! ## The ledger -/

theorem record_of_mem {l : Ledger} {f : Finding} (seen : f.key ∈ l.seen) : l.record f = l :=
  if_pos (Std.HashSet.mem_iff_contains.mp seen)

theorem record_of_notMem {l : Ledger} {f : Finding} (new : f.key ∉ l.seen) :
    l.record f = ⟨l.seen.insert f.key, f :: l.reported⟩ :=
  if_neg fun seen => new (Std.HashSet.mem_iff_contains.mpr seen)

theorem record_reported (l : Ledger) (f : Finding) :
    (l.record f).reported.reverse =
      l.reported.reverse ++ [f].filter fun g => decide (g.key ∉ l.seen) := by
  by_cases seen : f.key ∈ l.seen
  · simp [record_of_mem seen, seen]
  · simp [record_of_notMem seen, seen]

theorem mem_record_seen (l : Ledger) (f : Finding) (k : String) :
    k ∈ (l.record f).seen ↔ k ∈ l.seen ∨ k = f.key := by
  by_cases seen : f.key ∈ l.seen
  · rw [record_of_mem seen]
    exact ⟨Or.inl, fun h => h.elim id fun same => same ▸ seen⟩
  · rw [record_of_notMem seen, Std.HashSet.mem_insert, beq_iff_eq, or_comm, eq_comm]

/-- The ledger holds the first appearances of the keys that were not seen before. -/
theorem foldl_record (l : Ledger) (found : List Finding) :
    (found.foldl Ledger.record l).reported.reverse =
      l.reported.reverse ++ (firsts key found).filter fun g => decide (g.key ∉ l.seen) := by
  induction found generalizing l with
  | nil => simp [firsts]
  | cons f found ih =>
    have later : (firsts key found).filter (fun g => decide (g.key ∉ (l.record f).seen)) =
        ((firsts key found).filter fun g => g.key ≠ f.key).filter
          fun g => decide (g.key ∉ l.seen) := by
      rw [List.filter_filter]
      apply List.filter_congr
      intro g _
      simp only [mem_record_seen, not_or, Bool.decide_and, ne_eq]
    rw [List.foldl_cons, ih, record_reported, later, List.append_assoc, ← List.filter_append]
    rfl

theorem mem_foldl_record_seen (l : Ledger) (found : List Finding) (k : String) :
    k ∈ (found.foldl Ledger.record l).seen ↔ k ∈ l.seen ∨ ∃ f ∈ found, k = f.key := by
  induction found generalizing l with
  | nil => simp
  | cons f found ih =>
    rw [List.foldl_cons, ih, mem_record_seen, or_assoc]
    simp

/-- The keys seen in the end are those seen before and those of the findings. -/
theorem mem_fresh_seen (seen : Std.HashSet String) (found : List Finding) (k : String) :
    k ∈ (fresh seen found).2 ↔ k ∈ seen ∨ ∃ f ∈ found, k = f.key :=
  mem_foldl_record_seen _ found k

/-- What is new to a set of keys: the first appearances of the other keys. -/
theorem fresh_eq (seen : Std.HashSet String) (found : List Finding) :
    (fresh seen found).1 = (firsts key found).filter fun g => decide (g.key ∉ seen) := by
  rw [fresh, foldl_record]
  simp

theorem fresh_empty (found : List Finding) : (fresh ∅ found).1 = firsts key found := by
  rw [fresh_eq, List.filter_eq_self]
  exact fun f _ => decide_eq_true Std.HashSet.not_mem_empty

/-! ## Keys -/

theorem append_cons_inj {c : Char} {a b x y : List Char} (ha : c ∉ a) (hb : c ∉ b)
    (h : a ++ c :: x = b ++ c :: y) : a = b ∧ x = y := by
  induction a generalizing b with
  | nil =>
    cases b with
    | nil => exact ⟨rfl, (List.cons.inj h).2⟩
    | cons d b => exact absurd (by simp [(List.cons.inj h).1]) hb
  | cons d a ih =>
    cases b with
    | nil => exact absurd (by simp [(List.cons.inj h).1]) ha
    | cons e b =>
      obtain ⟨rfl, tail⟩ := List.cons.inj h
      obtain ⟨rfl, rest⟩ := ih (fun m => ha (List.mem_cons_of_mem _ m))
        (fun m => hb (List.mem_cons_of_mem _ m)) tail
      exact ⟨rfl, rest⟩

/-- A kind and a text can be read back from a key, whatever the text holds, if the kind holds no
colon. -/
theorem key_eq_iff {f g : Finding} (hf : ':' ∉ f.kind.toList) (hg : ':' ∉ g.kind.toList) :
    f.key = g.key ↔ f.kind = g.kind ∧ f.text = g.text := by
  constructor
  · intro same
    have chars := congrArg String.toList same
    simp only [key, String.toList_append, List.append_assoc] at chars
    obtain ⟨kind, text⟩ := append_cons_inj hf hg chars
    exact ⟨String.toList_inj.mp kind, String.toList_inj.mp text⟩
  · rintro ⟨kind, text⟩
    rw [key, key, kind, text]

end Finding
end LeakScan
