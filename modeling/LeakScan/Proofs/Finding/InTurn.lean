import LeakScan.Proofs.Finding.Scan
import Mathlib.Data.List.Infix

/-!
# Sensitive names over many files

The paths of some files are looked at in turn, and the keys of what was found are handed on from one
to the next (`detectInTurn`). What one path adds to them (`mem_detectSensitiveName`) keeps the later
ones from reporting it again. So a sensitive name is reported once at most, with the first path that
holds it, and a second look at the same paths reports nothing (`detectInTurn_once`).
-/

namespace LeakScan
set_option autoImplicit false

/-- The sensitive names of some paths, each new to the keys seen before it, and the keys then
seen. -/
def detectInTurn : (files : List String) → (seen : Std.HashSet String) →
    List (List Finding) × Std.HashSet String
  | [], seen => ([], seen)
  | file :: files, seen =>
    let (found, seen) := detectSensitiveName file seen
    let (later, seen) := detectInTurn files seen
    (found :: later, seen)

namespace Finding

/-- The finding that a sensitive name in a path is. -/
def ofSensitive (file name : String) : Finding := ⟨file, sensitiveKind, name, 1, .high⟩

/-- The key of a sensitive name, whichever path holds it. -/
def sensitiveKey (name : String) : String := sensitiveKind ++ ":" ++ name

theorem sensitiveKey_inj {a b : String} : sensitiveKey a = sensitiveKey b ↔ a = b :=
  String.append_right_inj _

theorem nodup_sensitiveNames : sensitiveNames.Nodup := by decide +kernel

/-- No two sensitive names of a path have one key. -/
theorem nodup_map_key_inName (file : String) : ((inName file).map key).Nodup := by
  rw [inName, List.map_map]
  refine List.Pairwise.map _ ?_ (nodup_sensitiveNames.filter _)
  intro a b other same
  exact other (sensitiveKey_inj.mp same)

/-- Findings whose keys were all seen leave a ledger as it is. -/
theorem foldl_record_of_seen {l : Ledger} {found : List Finding}
    (known : ∀ f ∈ found, f.key ∈ l.seen) : found.foldl Ledger.record l = l := by
  induction found with
  | nil => rfl
  | cons f found ih =>
    obtain ⟨first, later⟩ := List.forall_mem_cons.mp known
    rw [List.foldl_cons, record_of_mem first, ih later]

end Finding

open Finding

variable {file k : String} {files : List String} {seen : Std.HashSet String}

/-! ## One path -/

/-- A path brings the sensitive names in it whose keys were not seen, in the order of the table. -/
theorem detectSensitiveName_eq (file : String) (seen : Std.HashSet String) :
    (detectSensitiveName file seen).1 =
      (sensitiveNames.filter fun name =>
        name.toList <:+: file.toList ∧ sensitiveKey name ∉ seen).map (ofSensitive file) := by
  rw [detectSensitiveName, fresh_eq, firsts_eq_self (nodup_map_key_inName file), inName,
    List.filter_map, List.filter_filter]
  refine congrArg (List.map (ofSensitive file)) (List.filter_congr ?_)
  intro name _
  rw [Bool.eq_iff_iff, Bool.and_eq_true, Text.holds_iff_infix, decide_eq_true_eq, and_comm]
  exact and_congr_right fun _ => decide_eq_true_iff

theorem mem_detectSensitiveName_fst {f : Finding} :
    f ∈ (detectSensitiveName file seen).1 ↔ ∃ name ∈ sensitiveNames,
      name.toList <:+: file.toList ∧ sensitiveKey name ∉ seen ∧ f = ofSensitive file name := by
  simp only [detectSensitiveName_eq, List.mem_map, List.mem_filter, decide_eq_true_eq, and_assoc]
  simp only [eq_comm]

/-- A path brings no sensitive name twice. -/
theorem nodup_text_detectSensitiveName (file : String) (seen : Std.HashSet String) :
    ((detectSensitiveName file seen).1.map Finding.text).Nodup := by
  have texts (names : List String) : (names.map (ofSensitive file)).map Finding.text = names := by
    rw [List.map_map]
    exact List.map_id names
  rw [detectSensitiveName_eq, texts]
  exact nodup_sensitiveNames.filter _

/-- A path adds the keys of the sensitive names in it to those seen. -/
theorem mem_detectSensitiveName :
    k ∈ (detectSensitiveName file seen).2 ↔ k ∈ seen ∨
      ∃ name ∈ sensitiveNames, name.toList <:+: file.toList ∧ k = sensitiveKey name := by
  rw [detectSensitiveName, mem_fresh_seen]
  apply or_congr_right
  constructor
  · rintro ⟨f, named, rfl⟩
    obtain ⟨name, sensitive, held, rfl⟩ := mem_inName_iff.mp named
    exact ⟨name, sensitive, held, rfl⟩
  · rintro ⟨name, sensitive, held, rfl⟩
    exact ⟨_, mem_inName_iff.mpr ⟨name, sensitive, held, rfl⟩, rfl⟩

/-- The key of a sensitive name is seen once a path holds it, and before that if it was. -/
theorem sensitiveKey_mem_detectSensitiveName {name : String} (sensitive : name ∈ sensitiveNames) :
    sensitiveKey name ∈ (detectSensitiveName file seen).2 ↔
      sensitiveKey name ∈ seen ∨ name.toList <:+: file.toList := by
  rw [mem_detectSensitiveName]
  apply or_congr_right
  constructor
  · rintro ⟨other, -, held, same⟩
    rwa [sensitiveKey_inj.mp same]
  · intro held
    exact ⟨name, sensitive, held, rfl⟩

/-- A path whose sensitive names were all seen brings nothing and adds nothing. -/
theorem detectSensitiveName_of_seen (known : ∀ name ∈ sensitiveNames,
    name.toList <:+: file.toList → sensitiveKey name ∈ seen) :
    detectSensitiveName file seen = ([], seen) := by
  have all : ∀ f ∈ inName file, f.key ∈ seen := by
    intro f named
    obtain ⟨name, sensitive, held, rfl⟩ := mem_inName_iff.mp named
    exact known name sensitive held
  rw [detectSensitiveName, fresh, foldl_record_of_seen all]
  rfl

/-! ## One path after another -/

theorem detectInTurn_cons (file : String) (files : List String) (seen : Std.HashSet String) :
    detectInTurn (file :: files) seen =
      ((detectSensitiveName file seen).1 ::
          (detectInTurn files (detectSensitiveName file seen).2).1,
        (detectInTurn files (detectSensitiveName file seen).2).2) := rfl

/-- Each path brings the sensitive names in it that no path before it holds and whose keys were not
seen at the start, in the order of the table. -/
theorem detectInTurn_eq (files : List String) (seen : Std.HashSet String) :
    (detectInTurn files seen).1 = files.mapIdx fun i file =>
      (sensitiveNames.filter fun name => name.toList <:+: file.toList ∧
        sensitiveKey name ∉ seen ∧
        ∀ earlier ∈ files.take i, ¬ name.toList <:+: earlier.toList).map (ofSensitive file) := by
  induction files generalizing seen with
  | nil => rfl
  | cons first files ih =>
    rw [detectInTurn_cons, ih, detectSensitiveName_eq, List.mapIdx_cons]
    refine List.cons_eq_cons.mpr ⟨?_, ?_⟩
    · simp only [List.take_zero, List.not_mem_nil, false_implies, implies_true, and_true]
    · refine congrArg (List.mapIdx · files) ?_
      funext i file
      refine congrArg (List.map (ofSensitive file)) (List.filter_congr ?_)
      intro name sensitive
      rw [decide_eq_decide, sensitiveKey_mem_detectSensitiveName sensitive, List.take_succ_cons,
        List.forall_mem_cons, not_or, and_assoc]

/-- The keys seen in the end are those seen at the start and those of the sensitive names that some
path holds. -/
theorem mem_detectInTurn :
    k ∈ (detectInTurn files seen).2 ↔ k ∈ seen ∨ ∃ name ∈ sensitiveNames,
      (∃ file ∈ files, name.toList <:+: file.toList) ∧ k = sensitiveKey name := by
  induction files generalizing seen with
  | nil => simp [detectInTurn]
  | cons first files ih =>
    rw [detectInTurn_cons, ih, mem_detectSensitiveName, or_assoc]
    apply or_congr_right
    constructor
    · rintro (⟨name, sensitive, held, rfl⟩ | ⟨name, sensitive, ⟨file, member, held⟩, rfl⟩)
      · exact ⟨name, sensitive, ⟨first, List.mem_cons_self, held⟩, rfl⟩
      · exact ⟨name, sensitive, ⟨file, List.mem_cons_of_mem first member, held⟩, rfl⟩
    · rintro ⟨name, sensitive, ⟨file, member, held⟩, rfl⟩
      rcases List.mem_cons.mp member with rfl | later
      · exact Or.inl ⟨name, sensitive, held, rfl⟩
      · exact Or.inr ⟨name, sensitive, ⟨file, later, held⟩, rfl⟩

/-- Paths whose sensitive names were all seen bring nothing and add nothing. -/
theorem detectInTurn_of_seen (known : ∀ name ∈ sensitiveNames, ∀ file ∈ files,
    name.toList <:+: file.toList → sensitiveKey name ∈ seen) :
    detectInTurn files seen = (files.map fun _ => [], seen) := by
  induction files with
  | nil => rfl
  | cons first files ih =>
    have here : detectSensitiveName first seen = ([], seen) :=
      detectSensitiveName_of_seen fun name sensitive =>
        known name sensitive first List.mem_cons_self
    have later := ih fun name sensitive file member =>
      known name sensitive file (List.mem_cons_of_mem first member)
    rw [detectInTurn_cons, here, later, List.map_cons]

/-- What some paths bring was not seen at the start. -/
theorem sensitiveKey_text_notMem {f : Finding}
    (brought : f ∈ (detectInTurn files seen).1.flatten) : sensitiveKey f.text ∉ seen := by
  induction files generalizing seen with
  | nil => cases brought
  | cons first files ih =>
    rw [detectInTurn_cons, List.flatten_cons, List.mem_append] at brought
    rcases brought with here | later
    · obtain ⟨name, -, -, new, rfl⟩ := mem_detectSensitiveName_fst.mp here
      exact new
    · exact fun known => ih later (mem_detectSensitiveName.mpr (Or.inl known))

/-- No sensitive name is brought twice over all the paths. -/
theorem nodup_text_detectInTurn (files : List String) (seen : Std.HashSet String) :
    ((detectInTurn files seen).1.flatten.map Finding.text).Nodup := by
  induction files generalizing seen with
  | nil => exact List.nodup_nil
  | cons first files ih =>
    rw [detectInTurn_cons, List.flatten_cons, List.map_append, List.nodup_append]
    refine ⟨nodup_text_detectSensitiveName first seen, ih _, ?_⟩
    rintro text here text' later rfl
    obtain ⟨f, named, rfl⟩ := List.mem_map.mp here
    obtain ⟨name, sensitive, held, -, rfl⟩ := mem_detectSensitiveName_fst.mp named
    obtain ⟨g, brought, same⟩ := List.mem_map.mp later
    -- The first path has made its name a known one.
    have known : sensitiveKey name ∈ (detectSensitiveName first seen).2 :=
      (sensitiveKey_mem_detectSensitiveName sensitive).mpr (Or.inr held)
    have new := sensitiveKey_text_notMem brought
    rw [same] at new
    exact new known

/-- **A sensitive name is reported once at most over many paths**, with the first one that holds it,
in the order of the table, and not at all if its key was seen at the start. In the end the keys seen
are those of the start and those of all the sensitive names that some path holds, so the same paths
bring nothing when they are looked at again. -/
theorem detectInTurn_once (files : List String) (seen : Std.HashSet String) :
    ((detectInTurn files seen).1 = files.mapIdx fun i file =>
      (sensitiveNames.filter fun name => name.toList <:+: file.toList ∧
        sensitiveKey name ∉ seen ∧
        ∀ earlier ∈ files.take i, ¬ name.toList <:+: earlier.toList).map (ofSensitive file)) ∧
    ((detectInTurn files seen).1.flatten.map Finding.text).Nodup ∧
    (∀ k, k ∈ (detectInTurn files seen).2 ↔ k ∈ seen ∨ ∃ name ∈ sensitiveNames,
      (∃ file ∈ files, name.toList <:+: file.toList) ∧ k = sensitiveKey name) ∧
    detectInTurn files (detectInTurn files seen).2 =
      (files.map fun _ => [], (detectInTurn files seen).2) := by
  refine ⟨detectInTurn_eq files seen, nodup_text_detectInTurn files seen,
    fun k => mem_detectInTurn, detectInTurn_of_seen ?_⟩
  intro name sensitive file member held
  exact mem_detectInTurn.mpr (Or.inr ⟨name, sensitive, ⟨file, member, held⟩, rfl⟩)

end LeakScan
