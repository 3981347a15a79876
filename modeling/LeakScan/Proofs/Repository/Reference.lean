import LeakScan.Proofs.Text.Line
import LeakScan.Repository.Reference

/-!
# The grammar of references

What a text refers to is said here without reading it from left to right. A long reference stands
where the text goes on with the mark of the host, an owner, a slash, a segment and nothing more than
the rest of a line (`IsLong`); the first place that has one counts. A text without one is a short
reference if it is an owner, a slash and a name. The reader finds what the grammar says
(`ofText?_eq_iff`).
-/

namespace LeakScan
set_option autoImplicit false

/-! ## The first place of a text -/

section

variable {α β : Type} {f : List Char → Option α} {cs : List Char} {a : α}

/-- What `f` says of the first place of a text of which it says something. -/
def firstPlace? (f : List Char → Option α) : List Char → Option α
  | [] => f []
  | c :: cs => (f (c :: cs)).or (firstPlace? f cs)

theorem firstPlace?_eq_none_iff :
    firstPlace? f cs = none ↔ ∀ before rest, cs = before ++ rest → f rest = none := by
  induction cs with
  | nil =>
    rw [firstPlace?]
    constructor
    · rintro silent before rest split
      obtain ⟨-, rfl⟩ := List.nil_eq_append_iff.mp split
      exact silent
    · intro silent
      exact silent [] [] rfl
  | cons c cs ih =>
    rw [firstPlace?, Option.or_eq_none_iff, ih]
    constructor
    · rintro ⟨here, later⟩ before rest split
      rcases List.cons_eq_append_iff.mp split with ⟨rfl, rfl⟩ | ⟨before, rfl, rfl⟩
      · exact here
      · exact later before rest rfl
    · intro silent
      exact ⟨silent [] _ rfl, fun before rest split =>
        silent (c :: before) rest (by rw [split, List.cons_append])⟩

theorem firstPlace?_eq_some_iff :
    firstPlace? f cs = some a ↔ ∃ before rest, cs = before ++ rest ∧ f rest = some a ∧
      ∀ before' rest', cs = before' ++ rest' → f rest' ≠ none →
        before.length ≤ before'.length := by
  induction cs with
  | nil =>
    rw [firstPlace?]
    constructor
    · intro tells
      exact ⟨[], [], rfl, tells, fun _ _ _ _ => Nat.zero_le _⟩
    · rintro ⟨before, rest, split, tells, -⟩
      obtain ⟨-, rfl⟩ := List.nil_eq_append_iff.mp split
      exact tells
  | cons c cs ih =>
    rw [firstPlace?, Option.or_eq_some_iff, ih]
    constructor
    · rintro (here | ⟨silent, before, rest, rfl, tells, first⟩)
      · exact ⟨[], c :: cs, rfl, here, fun _ _ _ _ => Nat.zero_le _⟩
      · refine ⟨c :: before, rest, rfl, tells, ?_⟩
        intro before' rest' split tells'
        rcases List.cons_eq_append_iff.mp split with ⟨rfl, rfl⟩ | ⟨before', rfl, split⟩
        · exact absurd silent tells'
        · exact Nat.succ_le_succ (first before' rest' (List.cons.inj split).2 tells')
    · rintro ⟨before, rest, split, tells, first⟩
      rcases List.cons_eq_append_iff.mp split with ⟨rfl, rfl⟩ | ⟨before, rfl, rfl⟩
      · exact Or.inl tells
      · refine Or.inr ⟨?_, before, rest, rfl, tells, ?_⟩
        · cases here : f (c :: (before ++ rest)) with
          | none => rfl
          | some b => exact absurd (first [] _ rfl (by rw [here]; nofun)) (by simp)
        · intro before' rest' split' tells'
          have le := first (c :: before') rest' (by rw [split', List.cons_append]) tells'
          exact Nat.le_of_succ_le_succ le

theorem firstPlace?_map {g : List Char → Option β} {h : β → α}
    (same : ∀ before rest, cs = before ++ rest → f rest = (g rest).map h) :
    firstPlace? f cs = (firstPlace? g cs).map h := by
  induction cs with
  | nil => exact same [] [] rfl
  | cons c cs ih =>
    have later := ih fun before rest split => same (c :: before) rest (by rw [split]; rfl)
    rw [firstPlace?, firstPlace?, same [] _ rfl, later]
    cases g (c :: cs) <;> rfl

end

/-! ## The blanks around a text -/

/-- A text is `core` with blanks around it, and `core` neither begins nor ends with a blank. -/
structure Text.Surrounds (cs core : List Char) : Prop where
  text : ∃ front back, cs = front ++ core ++ back ∧ (∀ c ∈ front, isBlank c = true) ∧
    ∀ c ∈ back, isBlank c = true
  first : ∀ c ∈ core.head?, isBlank c = false
  last : ∀ c ∈ core.getLast?, isBlank c = false

theorem Text.surrounds_strip (cs : List Char) : Surrounds cs (strip cs) := by
  have behind (ds : List Char) : ∀ c ∈ (ds.dropWhile isBlank).head?, isBlank c = false := by
    intro c first
    have here := List.head?_dropWhile_not isBlank ds
    rw [Option.mem_def.mp first] at here
    exact here
  have inFront (ds : List Char) : ∀ c ∈ ds.takeWhile isBlank, isBlank c = true :=
    List.all_eq_true.mp List.all_takeWhile
  let middle := cs.dropWhile isBlank
  have split : middle = strip cs ++ (middle.reverse.takeWhile isBlank).reverse := by
    rw [strip, stripWhile, ← List.reverse_append, List.takeWhile_append_dropWhile,
      List.reverse_reverse]
  refine ⟨⟨cs.takeWhile isBlank, (middle.reverse.takeWhile isBlank).reverse, ?_, inFront cs, ?_⟩,
    ?_, ?_⟩
  · rw [List.append_assoc, ← split, List.takeWhile_append_dropWhile]
  · intro c member
    exact inFront _ c (List.mem_reverse.mp member)
  · intro c first
    refine behind cs c ?_
    rw [show cs.dropWhile isBlank = _ from split, List.head?_append, Option.mem_def.mp first]
    rfl
  · intro c last
    rw [strip, stripWhile, List.getLast?_reverse] at last
    exact behind _ c last

namespace RepoRef

/-! ## The grammar -/

/-- A text that is not empty and holds no slash. -/
def IsPart (cs : List Char) : Prop := cs ≠ [] ∧ '/' ∉ cs

/-- Nothing, or a slash and the rest of a line. -/
def IsRest (cs : List Char) : Prop := cs = [] ∨ ∃ line, cs = '/' :: line ∧ '\n' ∉ line

/-- A text that begins with a long reference: the mark of the host, an owner, a slash, a segment
and a rest. -/
structure IsLong (cs owner segment rest : List Char) : Prop where
  text : cs = hostMark ++ (owner ++ '/' :: (segment ++ rest))
  owner : IsPart owner
  segment : IsPart segment
  rest : IsRest rest

/-- A text that is a short reference: an owner, a slash and a name. -/
structure IsShort (cs owner name : List Char) : Prop where
  text : cs = owner ++ '/' :: name
  owner : IsPart owner
  name : IsPart name

/-- The name of a segment: the segment without a final `.git`, if something stands before that, and
the segment itself otherwise. -/
def IsNameOf (name segment : List Char) : Prop :=
  (segment = name ++ gitSuffix ∧ name ≠ []) ∨
    (segment = name ∧ ∀ shorter, segment = shorter ++ gitSuffix → shorter = [])

/-- What a text refers to: the first long reference in it, else the short reference that it is. -/
inductive Denotes (cs : List Char) : Option RepoRef → Prop where
  | long {before tail owner segment rest name : List Char} (text : cs = before ++ tail)
    (isLong : IsLong tail owner segment rest)
    (leftmost : ∀ before' tail' owner' segment' rest', cs = before' ++ tail' →
      IsLong tail' owner' segment' rest' → before.length ≤ before'.length)
    (named : IsNameOf name segment) :
    Denotes cs (some ⟨String.ofList owner, String.ofList name⟩)
  | short {owner name : List Char}
    (noLong : ∀ before tail owner segment rest, cs = before ++ tail →
      ¬ IsLong tail owner segment rest)
    (isShort : IsShort cs owner name) :
    Denotes cs (some ⟨String.ofList owner, String.ofList name⟩)
  | neither
    (noLong : ∀ before tail owner segment rest, cs = before ++ tail →
      ¬ IsLong tail owner segment rest)
    (noShort : ∀ owner name, ¬ IsShort cs owner name) : Denotes cs none

/-! ## Cutting at a slash -/

section

variable {a x cs owner name segment rest : List Char} {r : RepoRef}

theorem notMem_iff_forall_bne {separator : Char} :
    separator ∉ a ↔ ∀ c ∈ a, (c != separator) = true := by
  simp only [bne_iff_ne]
  exact List.forall_mem_ne'.symm

/-- Behind a text without a slash the first slash is where the rest begins. -/
theorem cut_append (unbroken : '/' ∉ a) (bound : ∀ c ∈ x.head?, c = '/') :
    (a ++ x).takeWhile (· != '/') = a ∧ (a ++ x).dropWhile (· != '/') = x := by
  have other := notMem_iff_forall_bne.mp unbroken
  rw [List.takeWhile_append_of_pos other, List.dropWhile_append_of_pos other]
  cases x with
  | nil => simp
  | cons c x =>
    obtain rfl := bound c rfl
    simp

theorem IsRest.bound (isRest : IsRest rest) : ∀ c ∈ rest.head?, c = '/' := by
  rcases isRest with rfl | ⟨line, rfl, -⟩
  · nofun
  · intro c first
    exact (Option.some.inj first).symm

theorem isRest_iff (bound : ∀ c ∈ rest.head?, c = '/') : IsRest rest ↔ '\n' ∉ rest := by
  cases rest with
  | nil => simp [IsRest]
  | cons c line =>
    obtain rfl := bound c rfl
    simp [IsRest]

theorem isPart_iff (unbroken : '/' ∉ a) : IsPart a ↔ a.isEmpty = false := by
  rw [IsPart, List.isEmpty_eq_false_iff]
  exact and_iff_left unbroken

/-! ## The reader -/

theorem isNameOf_iff : IsNameOf name segment ↔ name = withoutGit segment := by
  constructor
  · rintro (⟨rfl, some⟩ | ⟨rfl, bare⟩)
    · have longer : gitSuffix.length < (name ++ gitSuffix).length := by
        have positive := List.length_pos_iff.mpr some
        rw [List.length_append]
        omega
      have ends : gitSuffix.isSuffixOf (name ++ gitSuffix) = true :=
        List.isSuffixOf_iff_suffix.mpr (List.suffix_append _ _)
      rw [withoutGit, ends, decide_eq_true longer, Bool.and_self, if_pos rfl, List.length_append,
        Nat.add_sub_cancel, List.take_left]
    · have kept : ¬ (gitSuffix.isSuffixOf segment && gitSuffix.length < segment.length) = true := by
        rw [Bool.and_eq_true, List.isSuffixOf_iff_suffix, decide_eq_true_eq]
        rintro ⟨⟨shorter, split⟩, longer⟩
        have none_before := bare shorter split.symm
        rw [← split, none_before] at longer
        exact Nat.lt_irrefl _ longer
      rw [withoutGit, if_neg kept]
  · rintro rfl
    rw [withoutGit]
    split
    · rename_i ends
      rw [Bool.and_eq_true, List.isSuffixOf_iff_suffix, decide_eq_true_eq] at ends
      obtain ⟨⟨shorter, rfl⟩, longer⟩ := ends
      rw [List.length_append, Nat.add_sub_cancel, List.take_left]
      refine Or.inl ⟨rfl, ?_⟩
      rintro rfl
      exact Nat.lt_irrefl _ longer
    · rename_i kept
      refine Or.inr ⟨rfl, ?_⟩
      rintro shorter rfl
      rw [Bool.and_eq_true, List.isSuffixOf_iff_suffix, decide_eq_true_eq] at kept
      have short : ¬ gitSuffix.length < (shorter ++ gitSuffix).length :=
        fun longer => kept ⟨List.suffix_append _ _, longer⟩
      rw [List.length_append] at short
      exact List.eq_nil_of_length_eq_zero (by omega)

theorem afterHost?_of_notMem (unbroken : '/' ∉ cs) : afterHost? cs = none := by
  obtain ⟨-, behind⟩ := @cut_append cs [] unbroken nofun
  rw [List.append_nil] at behind
  simp only [afterHost?, behind]

theorem afterHost?_append (ownerFree : '/' ∉ owner) (segmentFree : '/' ∉ segment)
    (bound : ∀ c ∈ rest.head?, c = '/') :
    afterHost? (owner ++ '/' :: (segment ++ rest)) =
      if owner.isEmpty || segment.isEmpty || rest.contains '\n' then none
      else some ⟨String.ofList owner, String.ofList (withoutGit segment)⟩ := by
  obtain ⟨first, behind⟩ := @cut_append owner ('/' :: (segment ++ rest)) ownerFree (by simp)
  obtain ⟨second, last⟩ := cut_append segmentFree bound
  simp only [afterHost?, first, behind, second, last]

theorem afterHost?_eq_some_iff :
    afterHost? cs = some r ↔ ∃ owner segment rest, cs = owner ++ '/' :: (segment ++ rest) ∧
      IsPart owner ∧ IsPart segment ∧ IsRest rest ∧
      r = ⟨String.ofList owner, String.ofList (withoutGit segment)⟩ := by
  constructor
  · intro reads
    rcases Text.eq_or_eq_append_cons '/' cs with unbroken | ⟨owner, tail, rfl, ownerFree⟩
    · rw [afterHost?_of_notMem unbroken] at reads
      cases reads
    · obtain ⟨segment, rest, rfl, segmentFree, bound⟩ := Text.exists_cut '/' tail
      rw [afterHost?_append ownerFree segmentFree bound] at reads
      split at reads
      · cases reads
      · rename_i whole
        cases reads
        simp only [Bool.or_eq_true, not_or, Bool.not_eq_true, List.contains_eq_mem,
          decide_eq_false_iff_not] at whole
        exact ⟨owner, segment, rest, rfl, (isPart_iff ownerFree).mpr whole.1.1,
          (isPart_iff segmentFree).mpr whole.1.2, (isRest_iff bound).mpr whole.2, rfl⟩
  · rintro ⟨owner, segment, rest, rfl, isOwner, isSegment, isRest, rfl⟩
    have unbroken := (isRest_iff isRest.bound).mp isRest
    rw [afterHost?_append isOwner.2 isSegment.2 isRest.bound, if_neg]
    simp [isOwner.1, isSegment.1, unbroken]

/-- Reads a long reference at the beginning of a text. -/
def longHere? (cs : List Char) : Option RepoRef :=
  if hostMark.isPrefixOf cs then afterHost? (cs.drop hostMark.length) else none

theorem longHere?_eq_some_iff :
    longHere? cs = some r ↔ ∃ owner segment rest name, IsLong cs owner segment rest ∧
      IsNameOf name segment ∧ r = ⟨String.ofList owner, String.ofList name⟩ := by
  constructor
  · intro reads
    unfold longHere? at reads
    split at reads
    · rename_i marked
      obtain ⟨tail, rfl⟩ := List.isPrefixOf_iff_prefix.mp marked
      rw [List.drop_left] at reads
      obtain ⟨owner, segment, rest, rfl, isOwner, isSegment, isRest, rfl⟩ :=
        afterHost?_eq_some_iff.mp reads
      exact ⟨owner, segment, rest, _, ⟨rfl, isOwner, isSegment, isRest⟩, isNameOf_iff.mpr rfl, rfl⟩
    · cases reads
  · rintro ⟨owner, segment, rest, name, ⟨rfl, isOwner, isSegment, isRest⟩, named, rfl⟩
    obtain rfl := isNameOf_iff.mp named
    rw [longHere?, if_pos (List.isPrefixOf_iff_prefix.mpr (List.prefix_append _ _)), List.drop_left]
    exact afterHost?_eq_some_iff.mpr
      ⟨owner, segment, rest, rfl, isOwner, isSegment, isRest, rfl⟩

theorem longHere?_eq_none_iff :
    longHere? cs = none ↔ ∀ owner segment rest, ¬ IsLong cs owner segment rest := by
  constructor
  · intro silent owner segment rest isLong
    have reads := longHere?_eq_some_iff.mpr
      ⟨owner, segment, rest, _, isLong, isNameOf_iff.mpr rfl, rfl⟩
    rw [silent] at reads
    cases reads
  · intro noLong
    refine Option.eq_none_iff_forall_ne_some.mpr fun r reads => ?_
    obtain ⟨owner, segment, rest, -, isLong, -⟩ := longHere?_eq_some_iff.mp reads
    exact noLong owner segment rest isLong

theorem long?_eq (cs : List Char) : long? cs = firstPlace? longHere? cs := by
  induction cs with
  | nil => rfl
  | cons c cs ih =>
    rw [long?, firstPlace?, ← ih, ← longHere?]
    cases longHere? (c :: cs) <;> rfl

theorem long?_eq_none_iff :
    long? cs = none ↔ ∀ before tail owner segment rest, cs = before ++ tail →
      ¬ IsLong tail owner segment rest := by
  rw [long?_eq, firstPlace?_eq_none_iff]
  simp only [longHere?_eq_none_iff]
  exact ⟨fun no before tail owner segment rest split => no before tail split owner segment rest,
    fun no before tail split owner segment rest => no before tail owner segment rest split⟩

theorem short?_eq_some_iff :
    short? cs = some r ↔ ∃ owner name, IsShort cs owner name ∧
      r = ⟨String.ofList owner, String.ofList name⟩ := by
  have reads (owner name : List Char) (ownerFree : '/' ∉ owner) :
      short? (owner ++ '/' :: name) =
        if owner.isEmpty || name.isEmpty || name.contains '/' then none
        else some ⟨String.ofList owner, String.ofList name⟩ := by
    obtain ⟨first, behind⟩ := @cut_append owner ('/' :: name) ownerFree (by simp)
    simp only [short?, first, behind]
  constructor
  · intro found
    rcases Text.eq_or_eq_append_cons '/' cs with unbroken | ⟨owner, name, rfl, ownerFree⟩
    · obtain ⟨-, behind⟩ := @cut_append cs [] unbroken nofun
      rw [List.append_nil] at behind
      simp only [short?, behind] at found
      cases found
    · rw [reads owner name ownerFree] at found
      split at found
      · cases found
      · rename_i whole
        cases found
        simp only [Bool.or_eq_true, not_or, Bool.not_eq_true, List.contains_eq_mem,
          decide_eq_false_iff_not] at whole
        exact ⟨owner, name, ⟨rfl, (isPart_iff ownerFree).mpr whole.1.1,
          (isPart_iff whole.2).mpr whole.1.2⟩, rfl⟩
  · rintro ⟨owner, name, ⟨rfl, isOwner, isName⟩, rfl⟩
    rw [reads owner name isOwner.2, if_neg]
    simp [isOwner.1, isName.1, isName.2]

theorem short?_eq_none_iff : short? cs = none ↔ ∀ owner name, ¬ IsShort cs owner name := by
  constructor
  · intro silent owner name isShort
    have reads := short?_eq_some_iff.mpr ⟨owner, name, isShort, rfl⟩
    rw [silent] at reads
    cases reads
  · intro noShort
    refine Option.eq_none_iff_forall_ne_some.mpr fun r reads => ?_
    obtain ⟨owner, name, isShort, -⟩ := short?_eq_some_iff.mp reads
    exact noShort owner name isShort

/-- **The reader finds what the grammar says.** -/
theorem ofText?_eq_iff {u : String} {found : Option RepoRef} :
    ofText? u = found ↔ Denotes (Text.strip u.toList) found := by
  rw [ofText?]
  generalize Text.strip u.toList = cs
  constructor
  · rintro rfl
    cases long : long? cs with
    | some r =>
      rw [long?_eq] at long
      obtain ⟨before, tail, split, reads, leftmost⟩ := firstPlace?_eq_some_iff.mp long
      obtain ⟨owner, segment, rest, name, isLong, named, rfl⟩ := longHere?_eq_some_iff.mp reads
      refine .long split isLong ?_ named
      intro before' tail' owner' segment' rest' split' isLong'
      exact leftmost before' tail' split' fun silent =>
        longHere?_eq_none_iff.mp silent owner' segment' rest' isLong'
    | none =>
      have noLong := long?_eq_none_iff.mp long
      cases short : short? cs with
      | some r =>
        obtain ⟨owner, name, isShort, rfl⟩ := short?_eq_some_iff.mp short
        exact .short noLong isShort
      | none => exact .neither noLong (short?_eq_none_iff.mp short)
  · intro denotes
    cases denotes with
    | @long before tail owner segment rest name split isLong leftmost named =>
      have reads := longHere?_eq_some_iff.mpr ⟨owner, segment, rest, name, isLong, named, rfl⟩
      have long : long? cs = some ⟨String.ofList owner, String.ofList name⟩ := by
        rw [long?_eq, firstPlace?_eq_some_iff]
        refine ⟨before, tail, split, reads, ?_⟩
        intro before' tail' split' tells
        obtain ⟨r, reads'⟩ := Option.ne_none_iff_exists'.mp tells
        obtain ⟨owner', segment', rest', -, isLong', -⟩ := longHere?_eq_some_iff.mp reads'
        exact leftmost before' tail' owner' segment' rest' split' isLong'
      rw [long]
      rfl
    | short noLong isShort =>
      rw [long?_eq_none_iff.mpr noLong, short?_eq_some_iff.mpr ⟨_, _, isShort, rfl⟩]
      rfl
    | neither noLong noShort =>
      rw [long?_eq_none_iff.mpr noLong, short?_eq_none_iff.mpr noShort]
      rfl

theorem IsNameOf.isPart (named : IsNameOf name segment) (isSegment : IsPart segment) :
    IsPart name := by
  rcases named with ⟨rfl, some⟩ | ⟨rfl, -⟩
  · exact ⟨some, fun member => isSegment.2 (List.mem_append_left _ member)⟩
  · exact isSegment

/-- The owner and the name of a repository are no empty texts and hold no slash. -/
theorem Denotes.isPart (denotes : Denotes cs (some r)) :
    IsPart r.owner.toList ∧ IsPart r.name.toList := by
  cases denotes with
  | long _ isLong _ named =>
    simpa only [String.toList_ofList] using And.intro isLong.owner (named.isPart isLong.segment)
  | short _ isShort =>
    simpa only [String.toList_ofList] using And.intro isShort.owner isShort.name

end

end RepoRef
end LeakScan
