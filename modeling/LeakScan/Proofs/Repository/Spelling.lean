import LeakScan.Proofs.Repository.Reference
import Mathlib.Data.List.Basic

/-!
# Two spellings of one repository

A repository may be written as its owner and its name, or as the address of its page. The first is
taken as it stands (`ofText?_toText`); of the second a final `.git` is taken off a longer name, as
it is of every long reference (`ofText?_address`). So the two refer to the same unless the name has
that ending (`spellings_agree_iff`).
-/

namespace LeakScan
set_option autoImplicit false

/-- A text that neither begins nor ends with a blank is left as it is. -/
theorem Text.strip_eq_self {cs : List Char} (first : ∀ c ∈ cs.head?, isBlank c = false)
    (last : ∀ c ∈ cs.getLast?, isBlank c = false) : strip cs = cs := by
  have kept (ds : List Char) (first : ∀ c ∈ ds.head?, isBlank c = false) :
      ds.dropWhile isBlank = ds := by
    cases ds with
    | nil => rfl
    | cons c ds => exact List.dropWhile_cons_of_neg (by simp [first c rfl])
  have backward : ∀ c ∈ cs.reverse.head?, isBlank c = false := by
    rw [List.head?_reverse]
    exact last
  rw [strip, stripWhile, kept cs first, kept cs.reverse backward, List.reverse_reverse]

namespace RepoRef

instance (cs : List Char) : Decidable (IsPart cs) := inferInstanceAs (Decidable (_ ∧ _))

/-- What stands before the host in an address. -/
def scheme : List Char := "https://".toList

/-- Where the pages of repositories stand. -/
def page : String := "https://github.com/"

/-- The address of a repository's page. -/
def address (r : RepoRef) : String := page ++ r.toText

/-- An owner and a name without a slash, of which the one does not begin with a blank and the other
does not end with one. -/
structure IsPlain (r : RepoRef) : Prop where
  owner : IsPart r.owner.toList
  name : IsPart r.name.toList
  first : ∀ c ∈ r.owner.toList.head?, Text.isBlank c = false
  last : ∀ c ∈ r.name.toList.getLast?, Text.isBlank c = false

theorem all_not_isBlank_iff {c? : Option Char} :
    c?.all (!Text.isBlank ·) = true ↔ ∀ c ∈ c?, Text.isBlank c = false := by
  simp only [Option.all_eq_true, Option.mem_def, Bool.not_eq_true']

instance (r : RepoRef) : Decidable r.IsPlain :=
  decidable_of_iff (IsPart r.owner.toList ∧ IsPart r.name.toList ∧
      r.owner.toList.head?.all (!Text.isBlank ·) = true ∧
      r.name.toList.getLast?.all (!Text.isBlank ·) = true)
    ⟨fun ⟨owner, name, first, last⟩ =>
        ⟨owner, name, all_not_isBlank_iff.mp first, all_not_isBlank_iff.mp last⟩,
      fun ⟨owner, name, first, last⟩ =>
        ⟨owner, name, all_not_isBlank_iff.mpr first, all_not_isBlank_iff.mpr last⟩⟩

section

variable {cs before tail front owner name segment rest : List Char} {r : RepoRef}

/-- A text with one slash holds no long reference, since that has two. -/
theorem not_isLong_of_isShort (isShort : IsShort cs owner name) (split : cs = before ++ tail)
    {owner' segment' rest' : List Char} : ¬ IsLong tail owner' segment' rest' := by
  intro isLong
  have one : cs.count '/' = 1 := by
    rw [isShort.text, List.count_append, List.count_cons_self,
      List.count_eq_zero_of_not_mem isShort.owner.2, List.count_eq_zero_of_not_mem isShort.name.2]
  have fewer : tail.count '/' ≤ cs.count '/' := by
    rw [split]
    exact (List.sublist_append_right before tail).count_le '/'
  have mark : hostMark.count '/' = 1 := by decide
  rw [one, isLong.text, List.count_append, List.count_append, List.count_cons_self, mark] at fewer
  omega

/-- A text that begins with a long reference begins as the mark of the host does. -/
theorem IsLong.head?_eq (isLong : IsLong tail owner segment rest) : tail.head? = some 'g' := by
  rw [isLong.text]
  rfl

/-- A long reference counts if nothing in front of it could begin one. -/
theorem denotes_of_front (idle : 'g' ∉ front) (isLong : IsLong tail owner segment rest)
    (named : IsNameOf name segment) :
    Denotes (front ++ tail) (some ⟨String.ofList owner, String.ofList name⟩) := by
  refine .long rfl isLong ?_ named
  intro before' tail' owner' segment' rest' split isLong'
  rcases List.append_eq_append_iff.mp split with ⟨more, rfl, -⟩ | ⟨more, rfl, behind⟩
  · rw [List.length_append]
    exact Nat.le_add_right _ _
  · cases more with
    | nil => exact Nat.le_of_eq (congrArg List.length (List.append_nil before'))
    | cons c more =>
      -- The other reference would begin inside the front.
      have begins := isLong'.head?_eq
      rw [behind, List.cons_append, List.head?_cons] at begins
      obtain rfl := Option.some.inj begins
      exact absurd (List.mem_append_right before' List.mem_cons_self) idle

theorem toList_toText (r : RepoRef) : r.toText.toList = r.owner.toList ++ '/' :: r.name.toList := by
  have slash : "/".toList = ['/'] := by decide
  rw [toText, String.toList_append, String.toList_append, slash, List.append_assoc,
    List.singleton_append]

theorem toList_page : page.toList = scheme ++ hostMark := by decide +kernel

theorem toList_address (r : RepoRef) :
    r.address.toList = scheme ++ (hostMark ++ r.toText.toList) := by
  rw [address, String.toList_append, toList_page, List.append_assoc]

/-- A repository ends, in either spelling, with the last character of its name. -/
theorem IsPlain.getLast?_eq (plain : r.IsPlain) (front : List Char) :
    (front ++ r.toText.toList).getLast? = r.name.toList.getLast? := by
  rw [toList_toText, ← List.append_assoc,
    List.getLast?_append_of_ne_nil _ (List.cons_ne_nil _ _),
    List.getLast?_cons_of_ne_nil plain.name.1]

/-- The owner and the name of a repository are taken as they stand. -/
theorem ofText?_toText (plain : r.IsPlain) : ofText? r.toText = some r := by
  have isShort : IsShort r.toText.toList r.owner.toList r.name.toList :=
    ⟨toList_toText r, plain.owner, plain.name⟩
  have bare : Text.strip r.toText.toList = r.toText.toList := by
    refine Text.strip_eq_self ?_ ?_
    · rw [toList_toText, List.head?_append_of_ne_nil _ plain.owner.1]
      exact plain.first
    · have ends := plain.getLast?_eq []
      rw [List.nil_append] at ends
      rw [ends]
      exact plain.last
  rw [ofText?_eq_iff, bare]
  have denotes := Denotes.short (fun _ _ _ _ _ split => not_isLong_of_isShort isShort split) isShort
  rwa [String.ofList_toList, String.ofList_toList] at denotes

/-- Of the name in an address a final `.git` is taken off. -/
theorem ofText?_address (plain : r.IsPlain) {name : String}
    (named : IsNameOf name.toList r.name.toList) :
    ofText? r.address = some ⟨r.owner, name⟩ := by
  have isLong : IsLong (hostMark ++ r.toText.toList) r.owner.toList r.name.toList [] :=
    ⟨by rw [toList_toText, List.append_nil], plain.owner, plain.name, Or.inl rfl⟩
  have bare : Text.strip r.address.toList = r.address.toList := by
    refine Text.strip_eq_self ?_ ?_
    · rw [toList_address]
      intro c first
      obtain rfl : 'h' = c := Option.some.inj first
      decide
    · rw [toList_address, ← List.append_assoc, plain.getLast?_eq]
      exact plain.last
  have idle : 'g' ∉ scheme := by decide
  rw [ofText?_eq_iff, bare, toList_address]
  have denotes := denotes_of_front idle isLong named
  rwa [String.ofList_toList, String.ofList_toList] at denotes

/-- Some text before a final `.git` is what is left of the name that has it. -/
theorem isNameOf_of_eq_append {shorter : String} (ends : r.name = shorter ++ ".git")
    (some : shorter ≠ "") : IsNameOf shorter.toList r.name.toList := by
  refine Or.inl ⟨?_, fun none => some (String.toList_eq_nil_iff.mp none)⟩
  rw [ends, String.toList_append]
  rfl

/-- A name without a final `.git`, or with nothing before it, is left as it is. -/
theorem isNameOf_self (bare : ∀ shorter, r.name = shorter ++ ".git" → shorter = "") :
    IsNameOf r.name.toList r.name.toList := by
  refine Or.inr ⟨rfl, fun shorter ends => ?_⟩
  have none : String.ofList shorter = "" := by
    refine bare _ (String.toList_inj.mp ?_)
    rw [ends, String.toList_append, String.toList_ofList]
    rfl
  rw [← String.toList_ofList (l := shorter), none]
  rfl

end

/-- **The two spellings of a repository agree unless its name ends with `.git` and with something
before that.** Then the shorter spelling means the name as it is and the address the name without
that ending. -/
theorem spellings_agree_iff (r : RepoRef) (plain : r.IsPlain) :
    ofText? r.toText = some r ∧
      (∀ shorter, r.name = shorter ++ ".git" → shorter ≠ "" →
        ofText? r.address = some ⟨r.owner, shorter⟩) ∧
      ((∀ shorter, r.name = shorter ++ ".git" → shorter = "") → ofText? r.address = some r) ∧
      (ofText? r.toText = ofText? r.address ↔
        ∀ shorter, r.name = shorter ++ ".git" → shorter = "") := by
  have asItStands := ofText?_toText plain
  have cut (shorter : String) (ends : r.name = shorter ++ ".git") (some : shorter ≠ "") :=
    ofText?_address plain (isNameOf_of_eq_append ends some)
  have whole (bare : ∀ shorter, r.name = shorter ++ ".git" → shorter = "") :=
    ofText?_address plain (isNameOf_self bare)
  refine ⟨asItStands, cut, whole, ?_, fun bare => asItStands.trans (whole bare).symm⟩
  intro agree shorter ends
  by_contra some
  rw [asItStands, cut shorter ends some] at agree
  -- The names would be equal, although the one is longer by the ending.
  have same : r.name = shorter := congrArg RepoRef.name (Option.some.inj agree)
  have longer := congrArg String.length (same.symm.trans ends)
  rw [String.length_append] at longer
  have ending : ".git".length = 4 := by decide
  omega

/-- An owner that is named like the host, and a name that is nothing but the ending. -/
theorem spellings_agree_iff_hostlike :
    let r : RepoRef := ⟨"www.github.com", ".git"⟩
    r.IsPlain ∧ (∀ shorter, r.name = shorter ++ ".git" → shorter = "") ∧
      r.toText = "www.github.com/.git" ∧
      r.address = "https://github.com/www.github.com/.git" ∧
      ofText? "www.github.com/.git" = ofText? "https://github.com/www.github.com/.git" := by
  intro r
  have plain : r.IsPlain := by decide +kernel
  have bare (shorter : String) (ends : r.name = shorter ++ ".git") : shorter = "" := by
    have longer := congrArg String.length ends
    rw [String.length_append] at longer
    have name : r.name.length = ".git".length := rfl
    exact String.length_eq_zero_iff.mp (by omega)
  have toText : r.toText = "www.github.com/.git" := by decide +kernel
  have address : r.address = "https://github.com/www.github.com/.git" := by decide +kernel
  refine ⟨plain, bare, toText, address, ?_⟩
  have agree := (spellings_agree_iff r plain).2.2.2.mpr bare
  rwa [toText, address] at agree

/-- The address of a page gives up the ending of the name, and the shorter spelling keeps it. -/
theorem spellings_differ_git :
    let r : RepoRef := ⟨"o", "r.git"⟩
    r.IsPlain ∧ r.toText = "o/r.git" ∧ r.address = "https://github.com/o/r.git" ∧
      ofText? "o/r.git" = some ⟨"o", "r.git"⟩ ∧
      ofText? "https://github.com/o/r.git" = some ⟨"o", "r"⟩ ∧
      ofText? "o/r.git" ≠ ofText? "https://github.com/o/r.git" := by
  decide +kernel

end RepoRef
end LeakScan
