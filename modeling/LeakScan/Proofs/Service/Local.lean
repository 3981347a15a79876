import LeakScan.Proofs.Files.Existing
import LeakScan.Proofs.Service.Sensitive

/-!
# Scans of local files

What is collected from folders and files becomes a batch, and the batch a scan. Every sensitive file
that a walk reaches is in the batch, and the scan of the batch completes and reports it
(`local_scan_flags`): it is chosen for its last two steps and reported for its whole path, which
holds what they hold (`FileTree.Reached.holds_text`).
-/

namespace LeakScan
set_option autoImplicit false

/-- A collection brings bytes only. -/
theorem FileTree.bytes_of_upload? {t : FileTree} {p : FilePath} {u : Upload}
    (brought : t.upload? p = some u) : u.content ≠ .absent := by
  rw [upload?] at brought
  split at brought
  · cases brought
    intro absent
    cases absent
  · cases brought

/-- Every sensitive name that the path of an uploaded file holds is found, if the file has a
text. -/
theorem Upload.sensitive_mem_findings {u : Upload} {text name : String}
    (content : u.content.text? = some text) (sensitive : name ∈ sensitiveNames)
    (held : Text.holds name.toList u.name.toList = true) :
    ⟨u.name, Finding.sensitiveKind, name, 1, .high⟩ ∈ u.findings := by
  rw [findings_eq_scanContent content]
  exact Finding.sensitive_mem_scanContent sensitive held text

namespace Service

variable {T : Type}

/-- **A scan of local files flags every sensitive file that a walk reaches.** Whatever else is
given, as long as it can be looked for, a collection brings a batch. A file is in it that a walk of
a given folder reaches through folders that it keeps, that can be read, is not too large, holds
UTF-8, and whose last two steps hold a sensitive name. A service accepts the batch; wherever its job
waits, a run ends complete, with a finding at the path of the file for each such name. -/
theorem local_scan_flags [Time T] (t : FileTree) (tree : (Node.folder t.top).Zeroless)
    (paths : List String)
    (sought : ∀ path ∈ paths,
      (∃ entries, t.folder? (.ofText path) = .ok (some entries)) ∨ t.Sought path) :
    ∃ batch, (t.collect paths).outcome = .ok batch ∧
      ∀ (path : String) (entries : List (String × Node)) (q : FilePath) (text : String),
        path ∈ paths → t.folder? (.ofText path) = .ok (some entries) →
        FileTree.Reached (.ofText path) entries q → t.read q = .ok text.toUTF8 →
        text.toUTF8.size ≤ maxUploadSize →
        (∃ name ∈ sensitiveNames, Text.holds name.toList q.ending.toList = true) →
        ⟨q.text, .bytes text.toUTF8⟩ ∈ batch ∧
        (∀ (s : Service T) (now : T) (id : String), s.nextId now = .ok id →
          ∃ accepted, s.start now (.upload batch) = .ok (accepted, id) ∧
            accepted.Awaits s.queue.length s.sessions.length
              (.create id "upload" (Task.source (.upload batch))) (.upload batch)) ∧
        ∀ (s : Service T) (index place : Nat) (session : Session T),
          s.Awaits index place session (.upload batch) →
          ∀ (host : Host) (now : T) (listings : Nat), ∃ ended,
            s.sessionAfter host now listings index place = some ended ∧
            ended.state = .complete ∧
            ∀ name ∈ sensitiveNames, Text.holds name.toList q.ending.toList = true →
              (q.text, "Sensitive File", name, .high, some 1) ∈
                ended.results.map Result.contents := by
  obtain ⟨batch, collected, brings⟩ := FileTree.collect_outcome tree fun path given =>
    (sought path given).elim (fun ⟨_, folder⟩ => FileTree.sought_of_folder? folder) id
  refine ⟨batch, collected, ?_⟩
  intro path entries q text given folder reached read small ⟨name, sensitive, held⟩
  have member : ⟨q.text, .bytes text.toUTF8⟩ ∈ batch :=
    (brings _).mpr (reached.brings given folder read small sensitive held)
  have scannable : ∀ u ∈ batch, u.content ≠ .absent := by
    intro u among
    obtain ⟨_, _, _, _, _, _, brought⟩ := (brings u).mp among
    exact FileTree.bytes_of_upload? brought
  obtain ⟨starts, runs, -⟩ :=
    @upload_scan_completes T batch _ (List.ne_nil_of_mem member) scannable
  refine ⟨member, starts, ?_⟩
  intro s index place session awaits host now listings
  obtain ⟨ended, left, outcome⟩ := runs s index place session awaits host now listings
  refine ⟨ended, left, outcome.found.complete, ?_⟩
  intro name sensitive held
  have content : (Content.bytes text.toUTF8).text? = some text :=
    Content.text?_eq_some_iff.mpr (.inr rfl)
  have finding := Upload.sensitive_mem_findings (u := ⟨q.text, .bytes text.toUTF8⟩) content
    sensitive (reached.holds_text sensitive held)
  rw [outcome.found.contents]
  exact List.mem_map_of_mem (List.mem_flatMap.mpr ⟨_, member, finding⟩)

/-- A folder with a key in it, one that is hidden and kept, and one that is not walked. -/
def homeFolder : List (String × Node) :=
  [(".aws", .folder [("credentials", .file "k".toUTF8 true), ("config", .file ⟨#[]⟩ true)]),
    ("id_rsa", .file "k".toUTF8 true), (".cache", .folder [("id_rsa", .file "k".toUTF8 true)])]

/-- Such a folder at the top, beside the current one. -/
def homeTree : FileTree := ⟨[("home", .folder homeFolder), ("tmp", .folder [])], ["tmp"]⟩

theorem zeroless_homeTree : (Node.folder homeTree.top).Zeroless := by
  have keys : (Node.folder [("id_rsa", .file "k".toUTF8 true)]).Zeroless :=
    .folder (by decide) (by simpa using .file _ _)
  have secrets : (Node.folder [("credentials", .file "k".toUTF8 true),
      ("config", .file ⟨#[]⟩ true)]).Zeroless := by
    refine .folder (by simp) ?_
    simpa using ⟨.file _ _, .file _ _⟩
  have home : (Node.folder homeFolder).Zeroless := by
    refine .folder (by simp [homeFolder]) ?_
    simpa [homeFolder] using ⟨secrets, .file _ _, keys⟩
  have tmp : (Node.folder []).Zeroless := .folder (by simp) (by simp)
  refine .folder (by simp [homeTree]) ?_
  simpa [homeTree] using ⟨home, tmp⟩

/-- What a text names that leads from the topmost folder into that folder. -/
theorem at?_homeTree {s : String} (names : List String) (isText : FileTree.IsPathText s)
    (rooted : FilePath.rootOf s.toList = "/") (cut : FilePath.pieces s = "" :: "home" :: names) :
    homeTree.at? s = FileTree.follow FileTree.maxLinks ⟨homeFolder, [homeTree.top]⟩ names := by
  have start : homeTree.current.startOf s = ⟨homeTree.top, []⟩ := by
    rw [FileTree.Position.startOf, rooted, if_neg (by decide)]
    rfl
  rw [isText.at?_eq, start, cut, FileTree.follow, if_pos (by decide)]
  exact FileTree.follow_folder (by decide +kernel) rfl

theorem at?_homeTree_home : homeTree.at? "/home" = .ok (.folder homeFolder) := by
  rw [at?_homeTree [] ⟨by decide, by decide, by decide⟩ (by decide) (by decide +kernel),
    FileTree.follow]

theorem at?_homeTree_credentials :
    homeTree.at? "/home/.aws/credentials" = .ok (.file "k".toUTF8 true) := by
  rw [at?_homeTree [".aws", "credentials"] ⟨by decide, by decide, by decide⟩ (by decide)
    (by decide +kernel), FileTree.follow_folder (by decide +kernel) rfl]
  exact FileTree.follow_file (by decide +kernel) rfl

theorem local_scan_flags_home :
    ∃ batch, (homeTree.collect ["/home"]).outcome = .ok batch ∧
      ⟨"/home/.aws/credentials", .bytes "k".toUTF8⟩ ∈ batch ∧
      ∃ accepted, (create 50 publicClient (0 : Rat) none []).start 0 (.upload batch) =
          .ok (accepted, scanId 0 1) ∧
        ∃ ended, accepted.sessionAfter (fun _ _ => .unreachable "") 0 0 0 0 = some ended ∧
          ended.state = .complete ∧
          ("/home/.aws/credentials", "Sensitive File", ".aws/credentials", .high, some 1) ∈
            ended.results.map Result.contents := by
  have folder : homeTree.folder? (.ofText "/home") = .ok (some homeFolder) := by
    have text : (FilePath.ofText "/home").text = "/home" := by decide +kernel
    rw [FileTree.folder?, FileTree.find, text, at?_homeTree_home]
  have text : (FilePath.mk "/" ["home", ".aws", "credentials"]).text =
      "/home/.aws/credentials" := by decide +kernel
  have read : homeTree.read ⟨"/", ["home", ".aws", "credentials"]⟩ = .ok "k".toUTF8 := by
    rw [FileTree.read, FileTree.find, text, at?_homeTree_credentials]
    rfl
  have reached : FileTree.Reached (.ofText "/home") homeFolder
      ⟨"/", ["home", ".aws", "credentials"]⟩ := by
    have root : FilePath.ofText "/home" = ⟨"/", ["home"]⟩ := by decide +kernel
    rw [root]
    exact .through List.mem_cons_self (by decide +kernel)
      (.file List.mem_cons_self (by rintro _ ⟨⟩))
  obtain ⟨batch, collected, flags⟩ := @local_scan_flags Rat _ homeTree zeroless_homeTree ["/home"]
    (by simpa using .inl ⟨_, folder⟩)
  have held : Text.holds ".aws/credentials".toList
      (FilePath.mk "/" ["home", ".aws", "credentials"]).ending.toList = true := by decide +kernel
  have sensitive : ".aws/credentials" ∈ sensitiveNames := by decide
  obtain ⟨member, starts, runs⟩ := flags "/home" homeFolder ⟨"/", ["home", ".aws", "credentials"]⟩
    "k" List.mem_cons_self folder reached read (by decide +kernel) ⟨_, sensitive, held⟩
  rw [text] at member runs
  obtain ⟨accepted, started, awaits⟩ := starts _ _ _ (nextId_zero 50 publicClient)
  obtain ⟨ended, left, complete, flagged⟩ :=
    runs accepted 0 0 _ awaits (fun _ _ => .unreachable "") 0 0
  exact ⟨batch, collected, member, accepted, started, ended, left, complete,
    flagged _ sensitive held⟩

end Service
end LeakScan
