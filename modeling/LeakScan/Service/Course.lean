import LeakScan.Finding.Basic
import LeakScan.Repository.Walk
import LeakScan.Service.Request

/-!
# The course of a scan

The course of a scan is what it does from its start to its end: what it announces, the requests
it makes, the warnings it gives, and how it ends. Files are scanned one after another. A file
that cannot be had or that is no text is passed over with a warning and leaves the others alone.
-/

set_option autoImplicit false

namespace LeakScan

/-- What a scan says it is doing, with its progress in percent and the file at hand. -/
structure Announcement where
  progress : Int
  status : String
  file : Json
deriving Repr

/-- How a scan ends: with what it found in a number of files, with a fault, or not at all within
the listings it was given. -/
inductive Ending where
  | found (findings : List Finding) (files : Nat)
  | failed (fault : HostFault)
  | unfinished

/-- The course of a scan. -/
structure Course where
  announced : List Announcement
  requests : List Request
  warnings : List String
  ending : Ending

namespace Ending

/-- An ending with findings of earlier files put in front. -/
def preceded (earlier : List Finding) : Ending → Ending
  | found fs n => found (earlier ++ fs) n
  | e => e

@[simp] theorem preceded_nil (e : Ending) : e.preceded [] = e := by
  cases e <;> rfl

end Ending

namespace Course

/-- The course of a scan with no file left to scan. -/
def done (files : Nat) : Course := ⟨[], [], [], .found [] files⟩

/-- A course that a fault ends at once. -/
def stopped (fault : HostFault) : Course := ⟨[], [], [], .failed fault⟩

/-- Puts an announcement in front. -/
def announcing (a : Announcement) (c : Course) : Course :=
  { c with announced := a :: c.announced }

/-- Puts requests in front. -/
def requesting (rs : List Request) (c : Course) : Course :=
  { c with requests := rs ++ c.requests }

/-- Puts warnings in front. -/
def warning (ws : List String) (c : Course) : Course :=
  { c with warnings := ws ++ c.warnings }

/-- Puts findings in front. -/
def finding (fs : List Finding) (c : Course) : Course :=
  { c with ending := c.ending.preceded fs }

@[simp] theorem ending_announcing (a : Announcement) (c : Course) :
    (c.announcing a).ending = c.ending := rfl

@[simp] theorem ending_requesting (rs : List Request) (c : Course) :
    (c.requesting rs).ending = c.ending := rfl

@[simp] theorem ending_warning (ws : List String) (c : Course) :
    (c.warning ws).ending = c.ending := rfl

@[simp] theorem ending_finding (fs : List Finding) (c : Course) :
    (c.finding fs).ending = c.ending.preceded fs := rfl

/-- The warning about a file that is passed over. -/
def fileWarning (name message : String) : String :=
  "Failed to scan file " ++ name ++ ": " ++ message

/-! ## Uploads -/

/-- The share of the progress that scanning files has. -/
def scanningShare : Nat := 90

/-- What is announced of the uploaded file number `i` of `total`. -/
def uploadAnnouncement (total i : Nat) (name : String) : Announcement :=
  ⟨(i * scanningShare / total : Nat), "Scanning file: " ++ name, .str name⟩

/-- Scans uploaded files, the first of which is number `i` of `total`. -/
def ofUploadsFrom (total : Nat) : (i : Nat) → List Upload → Course
  | _, [] => done total
  | i, f :: fs =>
    announcing (uploadAnnouncement total i f.name) <|
      match f.content with
      | .text s => (ofUploadsFrom total (i + 1) fs).finding (scanContent f.name s)
      | .bytes b =>
        match Text.Utf8.decode b with
        | .ok s => (ofUploadsFrom total (i + 1) fs).finding (scanContent f.name s)
        | .error e => (ofUploadsFrom total (i + 1) fs).warning [fileWarning f.name e.message]
      | .absent => stopped (.mishap (.notText .null "split"))

/-- The course of a scan of uploaded files. -/
def ofUploads (files : List Upload) : Course := ofUploadsFrom files.length 0 files

/-! ## Repositories -/

/-- The share of the progress that finding the files of a repository has. -/
def discoveryShare : Nat := 10

/-- What is announced of the file number `i` of `total` of a repository. -/
def entryAnnouncement (total i : Nat) (path : Json) : Announcement :=
  ⟨(discoveryShare + i * (scanningShare - discoveryShare) / total : Nat),
    "Scanning: " ++ path.plain, path⟩

/-- Scans files of a repository, the first of which is number `i` of `total`. `past` are the
requests the host got before. -/
def ofEntriesFrom (host : Host) (client : Client) (total : Nat) :
    (past : List Request) → (i : Nat) → List Entry → Course
  | _, _, [] => done total
  | past, i, e :: es =>
    announcing (entryAnnouncement total i e.path) <|
      if !e.downloadUrl.isPresent then ofEntriesFrom host client total past (i + 1) es
      else
        let request := client.fileRequest e.downloadUrl
        let rest := ofEntriesFrom host client total (past ++ [request]) (i + 1) es
        requesting [request] <|
          match Client.contentOf (host past request) with
          | .error (.repository fault) => rest.warning [fileWarning e.path.plain fault.message]
          | .error fault => stopped fault
          | .ok body =>
            if body = "" then rest
            else match e.path with
              | .str path => rest.finding (scanContent path.repaired body)
              | v => stopped (.mishap (.notText v "endswith"))

/-- What is announced while the files of a repository are looked for. -/
def discovery : Announcement := ⟨discoveryShare, "Fetching repository contents...", .null⟩

/-- The course of a scan of a repository, within a number of listings. -/
def ofRepository (host : Host) (client : Client) (past : List Request) (repo : RepoRef)
    (cap : Int) (listings : Nat) : Course :=
  announcing discovery <|
    match client.collect host past repo.owner repo.name cap listings with
    | none => ⟨[], [], [], .unfinished⟩
    | some walk =>
      requesting walk.requests <| warning walk.warnings <|
        match walk.outcome with
        | .error fault => stopped fault
        | .ok [] => stopped (.repository .nothingToScan)
        | .ok (e :: es) =>
          ofEntriesFrom host client (es.length + 1) (past ++ walk.requests) 0 (e :: es)

/-- The course of a task. -/
def ofTask (host : Host) (client : Client) (past : List Request) (listings : Nat) : Task → Course
  | .upload files => ofUploads files
  | .repository repo cap => ofRepository host client past repo cap listings

end Course
end LeakScan
