import LeakScan.Proofs.Repository.Fetch

/-!
# Hosts that do not remember

A steady host replies to a request in one way, whatever it was asked before. Then the course of a
task depends on the task alone: not on the requests made before it, and not on the number of
listings it may ask for once that suffices (`Task.exists_course`). A course that suffices ends.
-/

namespace LeakScan
set_option autoImplicit false

/-- A host whose replies do not depend on what it was asked before. -/
def Host.Steady (host : Host) : Prop :=
  ∀ past past' request, host past request = host past' request

namespace Walk

variable {host : Host} {client : Client} {owner repo : String} {cap : Int}
  {past past' made : List Request} {listings more : Nat} {warnings : List String}
  {files : List Entry} {pending : List Json} {walk : Walk}

theorem explore_steady (steady : host.Steady) :
    explore host client owner repo cap past listings made warnings files pending =
      explore host client owner repo cap past' listings made warnings files pending := by
  induction listings generalizing made warnings files pending with
  | zero => cases pending <;> rfl
  | succ listings ih =>
    cases pending with
    | nil => rfl
    | cons path pending =>
      have reply := steady (past ++ made) (past' ++ made) (client.listingRequest owner repo path)
      simp only [explore, reply, ih]

theorem explore_nil :
    explore host client owner repo cap past listings made warnings files [] =
      some ⟨made, warnings, .ok files⟩ := by
  cases listings <;> rfl

theorem explore_enough (enough : cap ≤ files.length) :
    explore host client owner repo cap past listings made warnings files pending =
      some ⟨made, warnings, .ok files⟩ := by
  cases pending with
  | nil => exact explore_nil
  | cons path pending => cases listings <;> rw [explore, if_pos enough]

/-- A walk that ends within some listings ends the same way within more. -/
theorem explore_mono (le : listings ≤ more)
    (ends : explore host client owner repo cap past listings made warnings files pending =
      some walk) :
    explore host client owner repo cap past more made warnings files pending = some walk := by
  induction listings generalizing more made warnings files pending with
  | zero =>
    cases pending with
    | nil => rwa [explore_nil] at ends ⊢
    | cons path pending =>
      rw [explore] at ends
      split at ends
      · rename_i enough
        rwa [explore_enough enough]
      · cases ends
  | succ listings ih =>
    obtain ⟨more, rfl⟩ := Nat.exists_eq_add_of_le' (Nat.le_trans (Nat.le_add_left 1 listings) le)
    have le : listings ≤ more := Nat.le_of_succ_le_succ le
    cases pending with
    | nil => rwa [explore_nil] at ends ⊢
    | cons path pending =>
      rw [explore] at ends ⊢
      split at ends
      · rename_i enough
        rwa [if_pos enough]
      · rename_i few
        rw [if_neg few]
        simp only at ends ⊢
        split at ends
        · split at ends
          · rename_i present
            rw [if_pos present]
            exact ih le ends
          · rename_i absent
            rwa [if_neg absent]
        · exact ends
        · split at ends
          · exact ends
          · exact ih le ends

end Walk

namespace Course

variable {host : Host} {client : Client} {past past' : List Request} {listings more : Nat}

theorem ofEntriesFrom_steady (steady : host.Steady) (total i : Nat) (entries : List Entry) :
    ofEntriesFrom host client total past i entries =
      ofEntriesFrom host client total past' i entries := by
  induction entries generalizing past past' i with
  | nil => rfl
  | cons e entries ih =>
    have reply := steady past past' (client.fileRequest e.downloadUrl)
    simp only [ofEntriesFrom, reply, @ih past past',
      @ih (past ++ [client.fileRequest e.downloadUrl])
        (past' ++ [client.fileRequest e.downloadUrl])]

/-- Once the listings suffice for the walk, the course of a scan of a repository stays the same. -/
theorem ofRepository_steady (steady : host.Steady) {repo : RepoRef} {cap : Int} {walk : Walk}
    (ends : client.collect host past' repo.owner repo.name cap listings = some walk)
    (le : listings ≤ more) :
    ofRepository host client past repo cap more =
      ofRepository host client past' repo cap listings := by
  have walked : client.collect host past repo.owner repo.name cap more = some walk := by
    rw [Client.collect, Walk.explore_steady steady]
    exact Walk.explore_mono le ends
  simp only [ofRepository, walked, ends]
  congr 3
  split
  · rfl
  · rfl
  · exact ofEntriesFrom_steady steady _ _ _

theorem ending_preceded_ne {e : Ending} (ended : e ≠ .unfinished) (earlier : List Finding) :
    e.preceded earlier ≠ .unfinished := by
  cases e with
  | unfinished => exact absurd rfl ended
  | _ => exact nofun

/-- Scanning uploaded files comes to an end. -/
theorem ending_ofUploadsFrom_ne (total i : Nat) (files : List Upload) :
    (ofUploadsFrom total i files).ending ≠ .unfinished := by
  induction files generalizing i with
  | nil => exact nofun
  | cons f files ih =>
    rw [ofUploadsFrom, ending_announcing]
    split
    · exact ending_preceded_ne (ih _) _
    · split
      · exact ending_preceded_ne (ih _) _
      · exact ih _
    · exact nofun

/-- Scanning the files of a repository comes to an end. -/
theorem ending_ofEntriesFrom_ne (total i : Nat) (entries : List Entry) :
    (ofEntriesFrom host client total past i entries).ending ≠ .unfinished := by
  induction entries generalizing past i with
  | nil =>
    intro unfinished
    cases unfinished
  | cons e entries ih =>
    rw [ofEntriesFrom, ending_announcing]
    split
    · exact ih _
    · simp only [ending_requesting]
      split
      · exact ih _
      · intro unfinished
        cases unfinished
      · split
        · exact ih _
        · split
          · exact ending_preceded_ne (ih _) _
          · intro unfinished
            cases unfinished

/-- A scan of a repository comes to an end if its walk does. -/
theorem ending_ofRepository_ne {repo : RepoRef} {cap : Int} {walk : Walk}
    (ends : client.collect host past repo.owner repo.name cap listings = some walk) :
    (ofRepository host client past repo cap listings).ending ≠ .unfinished := by
  rw [ofRepository_ending ends]
  split
  · exact nofun
  · exact nofun
  · exact ending_ofEntriesFrom_ne _ _ _

end Course

/-- The walk of a task ends, if it has one. -/
def Task.Ends (host : Host) (client : Client) : Task → Prop
  | .upload _ => True
  | .repository repo cap =>
    ∃ listings walk, client.collect host [] repo.owner repo.name cap listings = some walk

/-- With a steady host a task whose walk ends has one course, which comes to an end. -/
theorem Task.exists_course {host : Host} {client : Client} (steady : host.Steady) {task : Task}
    (ends : task.Ends host client) :
    ∃ (enough : Nat) (course : Course), course.ending ≠ .unfinished ∧
      ∀ past listings, enough ≤ listings →
        Course.ofTask host client past listings task = course := by
  cases task with
  | upload files =>
    exact ⟨0, .ofUploads files, Course.ending_ofUploadsFrom_ne _ _ _, fun _ _ _ => rfl⟩
  | repository repo cap =>
    obtain ⟨listings, walk, walked⟩ := ends
    exact ⟨listings, .ofRepository host client [] repo cap listings,
      Course.ending_ofRepository_ne walked,
      fun _ _ le => Course.ofRepository_steady steady walked le⟩

end LeakScan
