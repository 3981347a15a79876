import LeakScan.Proofs.Repository.Moment
import LeakScan.Proofs.Service.Repository

/-!
# The cap on the files of a repository

A request for the scan of a repository may say how many files it takes, up to what the service
allows. The cap of the accepted task is within both (`Task.capOf_le`), so it bounds every moment of
the scan and every report of its session, whatever the host replies (`repository_scan_capped`). A
session reports as many files as its course ended with, and none until then
(`Session.totalFiles_follow`).
-/

namespace LeakScan
set_option autoImplicit false

theorem Task.capOf_le {limit cap : Int} {maxFiles : Option Int} (limited : 1 ≤ limit)
    (capped : capOf limit maxFiles = .ok cap) :
    1 ≤ cap ∧ cap ≤ limit ∧ ∀ n ∈ maxFiles, cap = n := by
  cases maxFiles with
  | none =>
    cases capped
    exact ⟨limited, Int.le_refl _, nofun⟩
  | some n =>
    rw [capOf] at capped
    split at capped <;> cases capped
    rename_i inside
    exact ⟨inside.1, inside.2, fun _ same => Option.some.inj same⟩

/-- The number of files that an ending reports. -/
def Ending.files : Ending → Nat
  | found _ n => n
  | _ => 0

theorem Ending.files_preceded (earlier : List Finding) (e : Ending) :
    (e.preceded earlier).files = e.files := by
  cases e <;> rfl

namespace Session

variable {T : Type} {s : Session T}

/-- Until it has ended a session reports no files. -/
theorem totalFiles_of_going (going : s.isTerminal = false) : s.report.stats.totalFiles = 0 := by
  obtain ⟨id, kind, source, phase⟩ := s
  cases phase with
  | pending => rfl
  | running => rfl
  | complete => cases going
  | failed => cases going

theorem totalFiles_announced (going : s.isTerminal = false) (announced : List Announcement) :
    (announced.foldl announce s).report.stats.totalFiles = 0 := by
  obtain ⟨phase, run, goesOn⟩ := foldl_announce going announced
  rw [run]
  exact totalFiles_of_going goesOn

/-- A session reports as many files as its course ended with. -/
theorem totalFiles_follow (going : s.isTerminal = false) (now : T) (c : Course) :
    (s.follow now c).report.stats.totalFiles = c.ending.files := by
  cases ending : c.ending with
  | found fs files => rw [follow_found going now ending]; rfl
  | failed fault => rw [follow_failed going now ending]; rfl
  | unfinished =>
    rw [follow, ending]
    exact totalFiles_announced going c.announced

end Session

namespace Course

variable (host : Host) (client : Client)

/-- A course of fetches ends with all of its files, or reports none. -/
theorem files_ofEntriesFrom (total i : Nat) (past : List Request) (entries : List Entry) :
    (ofEntriesFrom host client total past i entries).ending.files ≤ total := by
  induction entries generalizing i past with
  | nil => exact Nat.le_refl _
  | cons e entries ih =>
    simp only [ofEntriesFrom, ending_announcing]
    split
    · exact ih ..
    · rw [ending_requesting]
      split
      · exact ih ..
      · exact Nat.zero_le _
      · split
        · exact ih ..
        · split
          · rw [ending_finding, Ending.files_preceded]
            exact ih ..
          · exact Nat.zero_le _

/-- A scan of a repository reports no more files than its cap. -/
theorem files_ofRepository (past : List Request) (repo : RepoRef) {cap : Int} (positive : 0 ≤ cap)
    (listings : Nat) :
    (ofRepository host client past repo cap listings).ending.files ≤ cap := by
  cases walked : client.collect host past repo.owner repo.name cap listings with
  | none =>
    simp only [ofRepository, walked]
    exact positive
  | some walk =>
    obtain ⟨m, reaches, -, -, collected⟩ := Moment.reaches_ofRepository walked
    have within := (Moment.within_start positive).reaches reaches
    rw [ofRepository_ending walked]
    rcases outcome : walk.outcome with fault | (_ | ⟨e, es⟩)
    · exact positive
    · exact positive
    · refine Int.le_trans (Int.ofNat_le.mpr (files_ofEntriesFrom ..)) ?_
      have files := within.files
      rw [collected _ outcome] at files
      exact files

end Course

namespace Service

variable {T : Type}

/-- **The file cap holds whatever the host answers.** A service that allows at least one file
accepts a request for the scan of a repository. Its job may run in any later state, with any host,
and its walk need not end: at every moment the files that were collected, the contents that were
asked for and the files that the session reports are no more than the request asks for, if it does,
and no more than the service allows; and nothing is listed after a content was asked for. The
requests of a run whose walk ends are those of such a moment, and a walk that does not end goes
through moments with any number of listings. -/
theorem repository_scan_capped [Time T] (s accepted : Service T) (limited : 1 ≤ s.limit)
    (reference : Text.Loose) (maxFiles : Option Int) (now : T) (id : String)
    (started : s.start now (.repository reference maxFiles) = .ok (accepted, id)) :
    ∃ repo cap,
      accepted.Awaits s.queue.length s.sessions.length (.create id "github" repo.toText)
        (.repository repo cap) ∧
      ∀ (later : Service T) (index place : Nat) (session : Session T) (host : Host),
        later.Awaits index place session (.repository repo cap) →
        (∀ bound, bound = s.limit ∨ maxFiles = some bound →
          (∀ m, Moment.Reaches host later.client repo cap later.requests .start m →
            m.files.length ≤ bound ∧ m.contents ≤ bound) ∧
          ∀ (now : T) (listings : Nat),
            let course := Course.ofRepository host later.client later.requests repo cap listings
            (∀ announced, announced <+: course.announced →
              (announced.foldl Session.announce session).report.stats.totalFiles ≤ bound) ∧
            ∃ ended, later.sessionAfter host now listings index place = some ended ∧
              ended.report.stats.totalFiles ≤ bound) ∧
        (∀ m, Moment.Reaches host later.client repo cap later.requests .start m →
          m.asked.Pairwise fun a b => a.isContent = true → b.isContent = true) ∧
        (∀ (now : T) (listings : Nat) (walk : Walk),
          later.client.collect host later.requests repo.owner repo.name cap listings = some walk →
          ∃ m, Moment.Reaches host later.client repo cap later.requests .start m ∧
            m.todo = .nothing ∧ m.requests = (later.run host now listings index).2.requests ∧
            ∀ entries, walk.outcome = .ok entries → m.files = entries) ∧
        ∀ listings,
          later.client.collect host later.requests repo.owner repo.name cap listings = none →
          ∃ m, Moment.Reaches host later.client repo cap later.requests .start m ∧
            m.todo.isWalk = true ∧ m.requests.length = listings := by
  obtain ⟨task, asked, named, rfl⟩ := start_eq_ok_iff.mp started
  obtain ⟨repo, cap, rfl, capped⟩ : ∃ repo cap, task = .repository repo cap ∧
      Task.capOf s.limit maxFiles = .ok cap := by
    rw [Task.ofRequest] at asked
    split at asked
    · cases asked
    · split at asked <;> cases asked
      exact ⟨_, _, rfl, ‹_›⟩
  obtain ⟨positive, allowed, given⟩ := Task.capOf_le limited capped
  have start : Moment.start.Within cap := Moment.within_start (Int.le_trans (by decide) positive)
  refine ⟨repo, cap, enqueue_awaits s now id _, ?_⟩
  intro later index place session host awaits
  have going : session.isTerminal = false := by
    simp [Session.isTerminal, Session.state, awaits.pending, ScanState.isTerminal]
  refine ⟨fun bound bounds => ?_, fun m reaches => (start.reaches reaches).ordered, ?_,
    fun listings unended => Moment.reaches_of_unended unended⟩
  · have least : cap ≤ bound := by
      rcases bounds with rfl | asked
      · exact allowed
      · exact Int.le_of_eq (given bound asked)
    refine ⟨fun m reaches => ?_, fun now listings => ⟨fun announced _ => ?_, ?_⟩⟩
    · obtain ⟨files, contents, -, -⟩ := start.reaches reaches
      omega
    · rw [Session.totalFiles_announced going]
      omega
    · refine ⟨_, (run_awaiting awaits host now listings).1, ?_⟩
      rw [Session.totalFiles_follow going]
      have few := Course.files_ofRepository host later.client later.requests repo
        (Int.le_trans (by decide) positive) listings
      exact Int.le_trans few least
  · intro now listings walk walked
    obtain ⟨m, reaches, nothing, requests, collected⟩ := Moment.reaches_ofRepository walked
    exact ⟨m, reaches, nothing,
      requests.trans (run_awaiting awaits host now listings).2.1.symm, collected⟩

theorem collect_mixedListing_two :
    let host := serving mixedListing.indented mixedReply
    publicClient.collect host [] "o" "r" 2 1 = some
      ⟨[publicClient.listingRequest "o" "r" (.str "")], [],
        .ok (((Entry.ofListing mixedListing).drop 1).take 2)⟩ := by
  intro host
  have root (past : List Request) : Client.listingOf
      (host past (publicClient.listingRequest "o" "r" (.str ""))) =
        .ok (Entry.ofListing mixedListing) := listingOf_mixedListing
  have taken : Walk.takeEntries 2 [] [] (Entry.ofListing mixedListing) =
      .ok (((Entry.ofListing mixedListing).drop 1).take 2, [.str "src"]) := rfl
  rw [Client.collect, Walk.explore_of_listing (by decide) (root _) taken, Walk.explore,
    if_pos (by decide)]
  rfl

/-- Two files are asked for where the root alone has three. -/
theorem repository_scan_capped_two :
    let host := serving mixedListing.indented mixedReply
    (1 : Int) ≤ 50 ∧
      ∃ accepted, (create 50 publicClient (0 : Rat) none []).start 0
          (.repository "o/r" (some 2)) = .ok (accepted, scanId 0 1) ∧
        (∃ m, Moment.Reaches host accepted.client ⟨"o", "r"⟩ 2 accepted.requests .start m ∧
          m.todo = .nothing ∧ m.files.length = 2 ∧ m.contents ≤ 2) ∧
        ∃ ended, accepted.sessionAfter host 0 1 0 0 = some ended ∧
          ended.report.stats.totalFiles ≤ 2 := by
  intro host
  have asked : Task.ofRequest (create 50 publicClient (0 : Rat) none []).limit
      (.repository "o/r" (some 2)) = .ok (.repository ⟨"o", "r"⟩ 2) := rfl
  have started := start_eq asked (nextId_zero 50 publicClient)
  obtain ⟨repo, cap, awaits, capped⟩ :=
    repository_scan_capped _ _ (by decide) "o/r" (some 2) 0 _ started
  obtain ⟨rfl, rfl⟩ : repo = ⟨"o", "r"⟩ ∧ cap = 2 := by
    have queued := awaits.queued
    cases queued
    exact ⟨rfl, rfl⟩
  obtain ⟨bounds, -, ends, -⟩ := capped _ _ _ _ host awaits
  obtain ⟨moments, reports⟩ := bounds 2 (.inr rfl)
  obtain ⟨m, reaches, nothing, -, collected⟩ := ends 0 1 _ collect_mixedListing_two
  obtain ⟨-, contents⟩ := moments m reaches
  refine ⟨by decide, _, started, ⟨m, reaches, nothing, ?_, ?_⟩, (reports 0 1).2⟩
  · rw [collected _ rfl]
    rfl
  · exact Int.ofNat_le.mp contents

end Service
end LeakScan
