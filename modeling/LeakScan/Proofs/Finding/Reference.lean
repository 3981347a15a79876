import LeakScan.Proofs.Finding.Scan
import LeakScan.Proofs.Pattern.Search
import Mathlib.Data.List.Infix

/-!
# Scanning by definition

What a scan should report is said here without a ledger: list every match of every signature on
every line, by line, then in the order of the signatures, then from left to right (`Hit.all`, whose
members and order are stated on their own), and keep of the hits that share a kind and a text the
first. A scan reports this, behind the sensitive names that the path holds (`IsReferenceScan`). So a
token of a signature is reported on the first line that shows it, and there only (`FirstOn`).
-/

namespace LeakScan
set_option autoImplicit false

/-- A match of a signature on a line: the number of the line, the signature and its place among the
known ones, and the occurrence. -/
structure Hit where
  line : Nat
  place : Nat
  signature : Signature
  occurrence : Occurrence

namespace Hit

/-- The order of hits: by line, then by signature, then by where they start. -/
def Before (a b : Hit) : Prop :=
  a.line < b.line ∨ a.line = b.line ∧
    (a.place < b.place ∨ a.place = b.place ∧ a.occurrence.start < b.occurrence.start)

/-- Every match of every signature on every line of a content. -/
def all (content : String) : List Hit :=
  ((Text.lines content.toList).zipIdx 1).flatMap fun l =>
    Signature.known.zipIdx.flatMap fun s =>
      (s.1.pattern.occurrences l.1).map fun o => ⟨l.2, s.2, s.1, o⟩

/-- The kind and the text of a hit. -/
def pair (h : Hit) : String × List Char := (h.signature.name, h.occurrence.text)

/-- A hit as a finding in a file. -/
def toFinding (file : String) (h : Hit) : Finding :=
  ⟨file, h.signature.name, String.ofList h.occurrence.text, h.line, .ofKind h.signature.name⟩

variable {content : String} {h : Hit}

theorem mem_all_iff :
    h ∈ all content ↔ 1 ≤ h.line ∧ Signature.known[h.place]? = some h.signature ∧
      ∃ line, (Text.lines content.toList)[h.line - 1]? = some line ∧
        h.occurrence ∈ h.signature.pattern.occurrences line := by
  simp only [all, List.mem_flatMap, List.mem_map, List.mem_zipIdx_iff_le_and_getElem?_sub,
    Nat.sub_zero]
  constructor
  · rintro ⟨⟨line, number⟩, ⟨low, here⟩, ⟨s, place⟩, ⟨-, known⟩, o, occurs, rfl⟩
    exact ⟨low, known, line, here, occurs⟩
  · rintro ⟨low, known, line, here, occurs⟩
    exact ⟨(line, h.line), ⟨low, here⟩, (h.signature, h.place), ⟨Nat.zero_le _, known⟩,
      h.occurrence, occurs, rfl⟩

theorem pairwise_zipIdx {α : Type} (l : List α) (start : Nat) :
    (l.zipIdx start).Pairwise fun a b => a.2 < b.2 := by
  rw [← List.pairwise_map, List.zipIdx_map_snd]
  exact List.pairwise_lt_range'

/-- The hits come in order, none of them twice. -/
theorem pairwise_all (content : String) : (all content).Pairwise Before := by
  refine List.pairwise_flatMap.mpr ⟨fun l _ => List.pairwise_flatMap.mpr ⟨fun s _ => ?_, ?_⟩, ?_⟩
  · refine (Pattern.pairwise_occurrences s.1.pattern l.1).map _ fun a b inOrder => ?_
    exact Or.inr ⟨rfl, Or.inr ⟨rfl, inOrder.1⟩⟩
  · refine (pairwise_zipIdx Signature.known 0).imp fun {s t} less x hx y hy => ?_
    obtain ⟨o, -, rfl⟩ := List.mem_map.mp hx
    obtain ⟨o', -, rfl⟩ := List.mem_map.mp hy
    exact Or.inr ⟨rfl, Or.inl less⟩
  · refine (pairwise_zipIdx (Text.lines content.toList) 1).imp fun {l m} less x hx y hy => ?_
    obtain ⟨s, -, hx⟩ := List.mem_flatMap.mp hx
    obtain ⟨t, -, hy⟩ := List.mem_flatMap.mp hy
    obtain ⟨o, -, rfl⟩ := List.mem_map.mp hx
    obtain ⟨o', -, rfl⟩ := List.mem_map.mp hy
    exact Or.inl less

theorem map_toFinding_all (file content : String) :
    (all content).map (toFinding file) = Finding.inContent file content := by
  have numbered : ∀ found : Signature → List Finding, Signature.known.flatMap found =
      Signature.known.zipIdx.flatMap fun s => found s.1 := by
    intro found
    rw [← List.flatMap_map Prod.fst found, List.zipIdx_map_fst]
  simp only [all, Finding.inContent, Finding.onLine, numbered, List.map_flatMap, List.map_map]
  rfl

theorem pair_toFinding_eq_iff {file : String} {g : Hit} :
    (h.toFinding file).pair = (g.toFinding file).pair ↔ h.pair = g.pair := by
  simp [Finding.pair, toFinding, pair, String.ofList_inj]

end Hit

/-- A hit that is kept comes before all others of its kind and text, and so on the smallest line. -/
theorem Hit.eq_or_before_of_kept {content : String} {g h : Hit}
    (kept : g ∈ firsts Hit.pair (Hit.all content)) (hit : h ∈ Hit.all content)
    (same : h.pair = g.pair) : (h = g ∨ g.Before h) ∧ g.line ≤ h.line := by
  have order := eq_or_rel_of_mem_firsts (Hit.pairwise_all content) kept hit same
  refine ⟨order, ?_⟩
  rcases order with rfl | less | ⟨same, -⟩
  · exact Nat.le_refl _
  · exact Nat.le_of_lt less
  · exact Nat.le_of_eq same

/-- A scan reports the sensitive names of the path and then the hits that are kept. -/
theorem scanContent_eq_hits (file content : String) :
    scanContent file content =
      Finding.inName file ++ (firsts Hit.pair (Hit.all content)).map (Hit.toFinding file) := by
  have telling : firsts (fun h => (Hit.toFinding file h).pair) (Hit.all content) =
      firsts Hit.pair (Hit.all content) := firsts_congr fun a _ b _ => Hit.pair_toFinding_eq_iff
  rw [scanContent_eq, ← Hit.map_toFinding_all, firsts_map, telling]

/-- A reported finding that is no sensitive name is the first hit of its kind and text. -/
theorem exists_hit_of_mem_scanContent {file content : String} {f : Finding}
    (reported : f ∈ scanContent file content) (other : f.kind ≠ Finding.sensitiveKind) :
    ∃ g ∈ firsts Hit.pair (Hit.all content), f = g.toFinding file := by
  rw [scanContent_eq_hits] at reported
  rcases List.mem_append.mp reported with named | found
  · exact absurd (Finding.kind_of_mem_inName named) other
  · obtain ⟨g, kept, here⟩ := List.mem_map.mp found
    exact ⟨g, kept, here.symm⟩

/-- What a scan of a content reports, by definition. -/
structure IsReferenceScan (file content : String) (found : List Finding) : Prop where
  /-- The sensitive names of the path come first, in their order; then, for every kind and text on
  the lines, the hit that shows it first. -/
  reported : found =
    (sensitiveNames.filter fun name => name.toList <:+: file.toList).map
        (fun name => ⟨file, Finding.sensitiveKind, name, 1, .high⟩) ++
      (firsts Hit.pair (Hit.all content)).map (Hit.toFinding file)
  /-- The hits are the matches that a search finds on the lines. -/
  hits : ∀ h, h ∈ Hit.all content ↔ 1 ≤ h.line ∧ Signature.known[h.place]? = some h.signature ∧
    ∃ line, (Text.lines content.toList)[h.line - 1]? = some line ∧
      h.occurrence ∈ h.signature.pattern.occurrences line
  inOrder : (Hit.all content).Pairwise Hit.Before
  once : ((firsts Hit.pair (Hit.all content)).map Hit.pair).Nodup
  covered : ∀ h ∈ Hit.all content, ∃ g ∈ firsts Hit.pair (Hit.all content), g.pair = h.pair
  /-- The hit that is kept is the first of its kind and text, and so on the smallest line. -/
  first : ∀ g ∈ firsts Hit.pair (Hit.all content), ∀ h ∈ Hit.all content, h.pair = g.pair →
    (h = g ∨ g.Before h) ∧ g.line ≤ h.line
  /-- The keys of the ledger tell kinds and texts apart, whatever a text holds. -/
  keys : ∀ f g : Finding, (∃ s ∈ Signature.known, s.name = f.kind) →
    (∃ s ∈ Signature.known, s.name = g.kind) → (f.key = g.key ↔ f.kind = g.kind ∧ f.text = g.text)
  /-- No sensitive name has the key of a hit. -/
  apart : ∀ f ∈ Finding.inName file, ∀ g : Finding,
    (∃ s ∈ Signature.known, s.name = g.kind) → f.key ≠ g.key

/-- **A scan reports the first hit of every kind and text**, behind the sensitive names of the
path. -/
theorem scanContent_isReferenceScan (file content : String) :
    IsReferenceScan file content (scanContent file content) where
  reported := by
    rw [scanContent_eq_hits]
    simp only [Finding.inName, ← Text.holds_iff_infix, Bool.decide_eq_true]
  hits _ := Hit.mem_all_iff
  inOrder := Hit.pairwise_all content
  once := nodup_map_firsts _ _
  covered _ member := exists_mem_firsts _ member
  first _ kept _ member same := Hit.eq_or_before_of_kept kept member same
  keys f g := by
    rintro ⟨s, hs, sameF⟩ ⟨t, ht, sameG⟩
    apply Finding.key_eq_iff
    · exact sameF ▸ Signature.colon_notMem_name s hs
    · exact sameG ▸ Signature.colon_notMem_name t ht
  apart f named g := by
    rintro ⟨s, hs, sameG⟩ same
    have kind := Finding.kind_of_mem_inName named
    have free : ':' ∉ f.kind.toList := kind ▸ by decide +kernel
    have free' : ':' ∉ g.kind.toList := sameG ▸ Signature.colon_notMem_name s hs
    have sameKind := ((Finding.key_eq_iff free free').mp same).1
    exact Signature.name_ne_sensitiveKind s hs (by rw [sameG, ← sameKind, kind])

/-! ## The line of a finding -/

/-- The search for a signature finds a token on a line. -/
def Signature.Shows (s : Signature) (line token : List Char) : Prop :=
  ∃ o ∈ s.pattern.occurrences line, o.text = token

/-- The line number `n` of a content, counted from zero, is the first on which the search for a
signature finds a token. -/
structure Signature.FirstOn (s : Signature) (content : String) (n : Nat) (token : List Char) :
    Prop where
  here : ∃ line, (Text.lines content.toList)[n]? = some line ∧ s.Shows line token
  above : ∀ m line, (Text.lines content.toList)[m]? = some line → s.Shows line token → n ≤ m

namespace Hit

variable {content : String} {h : Hit} {s : Signature} {line token : List Char} {n : Nat}

theorem shows_of_mem_all (hit : h ∈ all content) :
    1 ≤ h.line ∧ h.signature ∈ Signature.known ∧ ∃ line,
      (Text.lines content.toList)[h.line - 1]? = some line ∧
        h.signature.Shows line h.occurrence.text := by
  obtain ⟨low, place, line, here, occurs⟩ := mem_all_iff.mp hit
  exact ⟨low, List.mem_of_getElem? place, line, here, h.occurrence, occurs, rfl⟩

theorem exists_mem_all_of_shows (isKnown : s ∈ Signature.known)
    (here : (Text.lines content.toList)[n]? = some line) (shown : s.Shows line token) :
    ∃ h ∈ all content, h.line = n + 1 ∧ h.pair = (s.name, token) := by
  obtain ⟨o, occurs, rfl⟩ := shown
  obtain ⟨place, placed⟩ := List.mem_iff_getElem?.mp isKnown
  refine ⟨⟨n + 1, place, s, o⟩, ?_, rfl, rfl⟩
  exact mem_all_iff.mpr ⟨Nat.le_add_left 1 n, placed, line, here, occurs⟩

/-- The hit of a kind and a text that is kept is on the first line that shows the text. -/
theorem firstOn_of_kept (isKnown : s ∈ Signature.known) (kept : h ∈ firsts pair (all content))
    (same : h.pair = (s.name, token)) : s.FirstOn content (h.line - 1) token := by
  obtain ⟨name, rfl⟩ := Prod.mk.inj same
  obtain ⟨low, isKnown', line, here, shown⟩ := shows_of_mem_all ((firsts_sublist _ _).subset kept)
  obtain rfl := Signature.eq_of_name_eq isKnown' isKnown name
  refine ⟨⟨line, here, shown⟩, ?_⟩
  intro m line' here' shown'
  obtain ⟨g, hit, number, same'⟩ := exists_mem_all_of_shows isKnown here' shown'
  have first := (eq_or_before_of_kept kept hit (same'.trans same.symm)).2
  omega

end Hit

theorem Signature.FirstOn.unique {s : Signature} {content : String} {n m : Nat}
    {token : List Char} (first : s.FirstOn content n token) (first' : s.FirstOn content m token) :
    n = m := by
  obtain ⟨line, here, shown⟩ := first.here
  obtain ⟨line', here', shown'⟩ := first'.here
  have le := first.above m line' here' shown'
  have ge := first'.above n line here shown
  omega

/-- A finding of a signature's kind is on the first line that shows its text. -/
theorem firstOn_of_mem_scanContent {s : Signature} (isKnown : s ∈ Signature.known)
    {file content : String} {f : Finding} (reported : f ∈ scanContent file content)
    (kind : f.kind = s.name) :
    ∃ n : Nat, f.line = (n + 1 : Nat) ∧ s.FirstOn content n f.text.toList := by
  have other : f.kind ≠ Finding.sensitiveKind := by
    rw [kind]
    exact Signature.name_ne_sensitiveKind s isKnown
  obtain ⟨g, kept, rfl⟩ := exists_hit_of_mem_scanContent reported other
  have same : g.pair = (s.name, g.occurrence.text) := Prod.ext kind rfl
  have first := Hit.firstOn_of_kept isKnown kept same
  obtain ⟨low, -⟩ := Hit.shows_of_mem_all ((firsts_sublist _ _).subset kept)
  refine ⟨g.line - 1, ?_, by simpa [Hit.toFinding] using first⟩
  rw [Nat.sub_add_cancel low]
  rfl

/-- What a line is the first to show is reported there. -/
theorem exists_mem_scanContent_of_firstOn {s : Signature} (isKnown : s ∈ Signature.known)
    (file : String) {content text : String} {n : Nat}
    (first : s.FirstOn content n text.toList) :
    ∃ f ∈ scanContent file content, f.kind = s.name ∧ f.text = text ∧ f.line = (n + 1 : Nat) := by
  obtain ⟨line, here, shown⟩ := first.here
  obtain ⟨h, hit, -, samePair⟩ := Hit.exists_mem_all_of_shows isKnown here shown
  obtain ⟨g, kept, same⟩ := exists_mem_firsts Hit.pair hit
  have pair : g.pair = (s.name, text.toList) := same.trans samePair
  have number : n = g.line - 1 := first.unique (Hit.firstOn_of_kept isKnown kept pair)
  obtain ⟨low, -⟩ := Hit.shows_of_mem_all ((firsts_sublist _ _).subset kept)
  obtain ⟨name, occurrence⟩ := Prod.mk.inj pair
  refine ⟨g.toFinding file, ?_, name, ?_, ?_⟩
  · rw [scanContent_eq_hits]
    exact List.mem_append_right _ (List.mem_map_of_mem kept)
  · simp only [Hit.toFinding, occurrence, String.ofList_toList]
  · have line : g.line = n + 1 := by omega
    simp only [Hit.toFinding, line]

end LeakScan
