import LeakScan.Proofs.Finding.Firsts

/-!
# The findings of a scan

A scan reports the sensitive names that the path holds and then, of the occurrences on the lines,
those whose kind and text come for the first time (`scanContent_eq`). The keys of the ledger do
not show in this, nor does the order in which names and lines share one ledger: kinds hold no
colon, and no signature has the kind of a sensitive name.
-/

namespace LeakScan
set_option autoImplicit false

theorem Text.holds_iff_infix {part cs : List Char} : Text.holds part cs = true ↔ part <:+: cs := by
  induction cs with
  | nil => simp [Text.holds]
  | cons c cs ih =>
    rw [Text.holds, Bool.or_eq_true, ih, List.infix_cons_iff, List.isPrefixOf_iff_prefix]

namespace Signature

theorem colon_notMem_name : ∀ s ∈ known, ':' ∉ s.name.toList := by decide +kernel

theorem name_ne_sensitiveKind : ∀ s ∈ known, s.name ≠ Finding.sensitiveKind := by decide +kernel

theorem ofName?_name_of_known : ∀ s ∈ known, ofName? s.name = some s := by decide +kernel

/-- No two known signatures share a name. -/
theorem eq_of_name_eq {s t : Signature} (isKnown : s ∈ known) (isKnown' : t ∈ known)
    (same : s.name = t.name) : s = t := by
  have named := ofName?_name_of_known s isKnown
  rw [same, ofName?_name_of_known t isKnown'] at named
  exact (Option.some.inj named).symm

theorem mem_known_of_ofName? {s : Signature} {name : String} (named : ofName? name = some s) :
    s ∈ known ∧ s.name = name := by
  refine ⟨List.mem_of_find?_eq_some named, ?_⟩
  simpa using List.find?_some named

end Signature

namespace Finding

/-- What two findings of one file share when they are reported once, as the two texts it is. -/
def pair (f : Finding) : String × String := (f.kind, f.text)

variable {file content : String} {f : Finding}

theorem mem_inName_iff :
    f ∈ inName file ↔ ∃ name ∈ sensitiveNames, name.toList <:+: file.toList ∧
      f = ⟨file, sensitiveKind, name, 1, .high⟩ := by
  simp only [inName, List.mem_map, List.mem_filter, Text.holds_iff_infix, and_assoc]
  simp only [eq_comm]

theorem mem_onLine_iff {number : Nat} {line : List Char} :
    f ∈ onLine file number line ↔ ∃ s ∈ Signature.known, ∃ o ∈ s.pattern.occurrences line,
      f = ⟨file, s.name, String.ofList o.text, number, s.severity⟩ := by
  simp only [onLine, ofSignature, List.mem_flatMap, List.mem_map, eq_comm]

theorem mem_inContent_iff :
    f ∈ inContent file content ↔ ∃ (n : Nat) (line : List Char),
      (Text.lines content.toList)[n]? = some line ∧ f ∈ onLine file (n + 1) line := by
  rw [inContent, List.mem_flatMap]
  constructor
  · rintro ⟨⟨line, number⟩, numbered, member⟩
    obtain ⟨low, here⟩ := List.mk_mem_zipIdx_iff_le_and_getElem?_sub.mp numbered
    refine ⟨number - 1, line, here, ?_⟩
    rwa [Nat.sub_add_cancel low]
  · rintro ⟨n, line, here, member⟩
    refine ⟨(line, n + 1), List.mk_mem_zipIdx_iff_le_and_getElem?_sub.mpr ⟨by omega, ?_⟩, member⟩
    rwa [Nat.add_sub_cancel]

/-- The occurrences of the known signatures on some lines that are numbered from `start`. -/
def onLines (file : String) (start : Nat) (lines : List (List Char)) : List Finding :=
  (lines.zipIdx start).flatMap fun l => onLine file l.2 l.1

theorem inContent_eq_onLines (file content : String) :
    inContent file content = onLines file 1 (Text.lines content.toList) := rfl

theorem onLines_cons (file : String) (start : Nat) (line : List Char) (lines : List (List Char)) :
    onLines file start (line :: lines) =
      onLine file start line ++ onLines file (start + 1) lines := by
  unfold onLines
  rw [List.zipIdx_cons, List.flatMap_cons]

theorem onLines_append (file : String) (start : Nat) (lines lines' : List (List Char)) :
    onLines file start (lines ++ lines') =
      onLines file start lines ++ onLines file (start + lines.length) lines' := by
  unfold onLines
  rw [List.zipIdx_append, List.flatMap_append]

theorem exists_signature_of_mem_inContent (member : f ∈ inContent file content) :
    ∃ s ∈ Signature.known, s.name = f.kind ∧ f.severity = .ofKind f.kind := by
  obtain ⟨_, _, _, member⟩ := mem_inContent_iff.mp member
  obtain ⟨s, known, _, _, rfl⟩ := mem_onLine_iff.mp member
  exact ⟨s, known, rfl, rfl⟩

theorem kind_of_mem_inName (member : f ∈ inName file) : f.kind = sensitiveKind := by
  obtain ⟨_, _, _, rfl⟩ := mem_inName_iff.mp member
  rfl

theorem kind_ne_of_mem_inContent (member : f ∈ inContent file content) :
    f.kind ≠ sensitiveKind := by
  obtain ⟨s, known, same, -⟩ := exists_signature_of_mem_inContent member
  exact same ▸ Signature.name_ne_sensitiveKind s known

/-- No kind that is reported holds a colon. -/
theorem colon_notMem_kind (member : f ∈ inName file ++ inContent file content) :
    ':' ∉ f.kind.toList := by
  rcases List.mem_append.mp member with named | found
  · rw [kind_of_mem_inName named]
    decide +kernel
  · obtain ⟨s, known, same, -⟩ := exists_signature_of_mem_inContent found
    exact same ▸ Signature.colon_notMem_name s known

theorem nodup_map_pair_inName (file : String) : ((inName file).map pair).Nodup := by
  have names : ((inName file).map pair) =
      (sensitiveNames.filter fun name => Text.holds name.toList file.toList).map
        fun name => (sensitiveKind, name) := by
    simp only [inName, List.map_map]
    rfl
  have distinct : sensitiveNames.Nodup := by decide +kernel
  rw [names]
  apply List.Pairwise.map _ _ (distinct.filter _)
  exact fun a b other same => other (Prod.mk.inj same).2

end Finding

open Finding in
/-- A scan reports the sensitive names of the path and the first appearance of every kind and text
on the lines. -/
theorem scanContent_eq (file content : String) :
    scanContent file content = inName file ++ firsts pair (inContent file content) := by
  have telling : firsts key (inName file ++ inContent file content) =
      firsts pair (inName file ++ inContent file content) := by
    apply firsts_congr
    intro a ha b hb
    rw [key_eq_iff (colon_notMem_kind ha) (colon_notMem_kind hb)]
    simp [pair]
  have apart : (firsts pair (inContent file content)).filter
      (fun b => ∀ a ∈ inName file, pair b ≠ pair a) = firsts pair (inContent file content) := by
    apply List.filter_eq_self.mpr
    intro b kept
    refine decide_eq_true fun a named same => ?_
    have found := (firsts_sublist pair _).subset kept
    apply kind_ne_of_mem_inContent found
    rw [← kind_of_mem_inName named]
    exact (Prod.mk.inj same).1
  rw [scanContent, fresh_empty, telling, firsts_append, firsts_eq_self (nodup_map_pair_inName file),
    apart]

end LeakScan
