import Driscord.Library.TransitionSystem
import Driscord.Update.UpdateManager

/-!
# Which payload can be applied

At most one reply belongs to the current generation, and there is none while an
extraction of that generation runs or a payload is ready.  An extraction of an earlier
generation breaks this: its success makes the manager ready although a newer check has
begun.

Main results:

- Theorem `Sound.step`: what one event keeps, if no extraction outlives its check.
- Theorem `only_verified_ready`: in every such run the payload is the file of the
  manifest that the latest check has verified.
-/

namespace Driscord
namespace Update

open Library Signaling

/-- The archive is the file of a manifest. -/
def Genuine (libraries : Libraries) (file : UpdateFileEntry) (archive : Bytes) : Prop :=
  (archive.length : Int) = file.size ∧ libraries.sha256Hex archive = file.sha256

instance (libraries : Libraries) (file : UpdateFileEntry) (archive : Bytes) :
    Decidable (Genuine libraries file archive) :=
  inferInstanceAs (Decidable (_ ∧ _))

namespace UpdateSystem

/-- The latest check has verified the manifest, and it is for a newer version. -/
structure LatestVerified (libraries : Libraries) (config : UpdateManagerConfig)
    (system : UpdateSystem) (manifest : UpdateManifest) : Prop where
  current : system.manager.manifest = some manifest
  signed : ∃ record, system.verified = some record ∧ record.manifestCheck = system.checks ∧
    record.signatureCheck = system.checks ∧
    (∃ key ∈ config.trustedKeys, key.key.length = 32 ∧
      SignedBy libraries.toCrypto key record.manifestBytes record.signatureBytes) ∧
    parseUpdateManifest (libraries.fromJson record.manifestBytes) config.channel
      config.manifestTarget config.archiveSuffix = Except.ok manifest
  channel : manifest.channel = config.channel
  target : manifest.target = config.manifestTarget
  newer : config.currentVersion < manifest.version

/-- All that is at the path of the payload comes from the file of a manifest. -/
def PayloadFrom (libraries : Libraries) (system : UpdateSystem) (file : UpdateFileEntry) :
    Prop :=
  match system.manager.payloadPath with
  | none => False
  | some (Payload.image content) => Genuine libraries file content
  | some Payload.directory =>
      system.payloadDir ≠ [] ∧ ∀ archive ∈ system.payloadDir, Genuine libraries file archive

/-- A payload can be applied, or is being applied. -/
def Ready (system : UpdateSystem) : Prop :=
  system.manager.state = .readyToApply ∨ system.manager.state = .applying

instance (system : UpdateSystem) : Decidable system.Ready :=
  inferInstanceAs (Decidable (_ ∨ _))

/-- What is ready is verified. -/
def OnlyVerified (libraries : Libraries) (config : UpdateManagerConfig)
    (system : UpdateSystem) : Prop :=
  system.Ready → ∃ manifest, LatestVerified libraries config system manifest ∧
    PayloadFrom libraries system manifest.file

/-- The bytes that were received are the file of the manifest. -/
def downloadComplete (libraries : Libraries) (system : UpdateSystem) : Bool :=
  system.manager.manifest.any fun manifest =>
    Genuine libraries manifest.file system.manager.received

/-- No extraction outlives its check: one that reports success was started in the current
generation, and when one begins no earlier one is running. -/
def Punctual (libraries : Libraries) (config : UpdateManagerConfig) (system : UpdateSystem) :
    UpdateAction → Prop
  | UpdateAction.extractionFinished extraction none true _ =>
      extraction.generation = system.manager.generation
  | UpdateAction.finished reply (Answer.ok _) _ =>
      reply.request = Request.download ∧ reply.generation = system.manager.generation ∧
          system.downloadComplete libraries = true ∧ config.singleFileArtifact = false →
        system.extractions = []
  | _ => True

instance (libraries : Libraries) (config : UpdateManagerConfig) (system : UpdateSystem)
    (action : UpdateAction) : Decidable (Punctual libraries config system action) := by
  unfold Punctual
  split <;> infer_instance

/-- A step by an event that meets `Punctual`. -/
def PunctualStep (libraries : Libraries) (config : UpdateManagerConfig)
    (system next : UpdateSystem) : Prop :=
  ∃ action, Punctual libraries config system action ∧
    act libraries config system action = some next

section

variable {libraries : Libraries} {config : UpdateManagerConfig} {system : UpdateSystem}

/-- No reply of the current generation is awaited. -/
def NoReply (system : UpdateSystem) : Prop :=
  ∀ reply ∈ system.replies, reply.generation ≠ system.manager.generation

/-- What a reply of the current generation goes with. -/
def Awaited (libraries : Libraries) (config : UpdateManagerConfig) (system : UpdateSystem)
    (reply : Reply) : Prop :=
  match reply.request with
  | Request.manifest => reply.check = system.checks
  | Request.signature _ manifestCheck =>
      reply.check = system.checks ∧ manifestCheck = system.checks
  | Request.download => ∃ manifest, LatestVerified libraries config system manifest

/-- What holds in every state of a run without a late extraction. -/
structure Sound (libraries : Libraries) (config : UpdateManagerConfig)
    (system : UpdateSystem) : Prop where
  replies : ∀ reply ∈ system.replies, reply.generation ≤ system.manager.generation
  extractions : ∀ extraction ∈ system.extractions,
    extraction.generation ≤ system.manager.generation
  unique : ∀ first ∈ system.replies, ∀ second ∈ system.replies,
    first.generation = system.manager.generation →
      second.generation = system.manager.generation → first = second
  awaited : ∀ reply ∈ system.replies, reply.generation = system.manager.generation →
    Awaited libraries config system reply
  extracting : ∀ extraction ∈ system.extractions,
    extraction.generation = system.manager.generation →
      system.NoReply ∧ ∃ manifest, LatestVerified libraries config system manifest ∧
        Genuine libraries manifest.file extraction.archive ∧
          system.payloadDir = [extraction.archive]
  available : system.manager.state = .updateAvailable →
    ∃ manifest, LatestVerified libraries config system manifest
  ready : system.Ready → system.NoReply ∧
    ∃ manifest, LatestVerified libraries config system manifest ∧
      PayloadFrom libraries system manifest.file

theorem LatestVerified.congr {next : UpdateSystem} {manifest : UpdateManifest}
    (h : LatestVerified libraries config system manifest)
    (hmanifest : next.manager.manifest = system.manager.manifest)
    (hverified : next.verified = system.verified) (hchecks : next.checks = system.checks) :
    LatestVerified libraries config next manifest where
  current := hmanifest.trans h.current
  signed := by
    rw [hverified, hchecks]
    exact h.signed
  channel := h.channel
  target := h.target
  newer := h.newer

/-- An event that asks for nothing and brings nothing keeps the invariant. -/
structure Calm (system next : UpdateSystem) : Prop where
  replies : ∀ reply ∈ next.replies, reply ∈ system.replies
  extractions : ∀ extraction ∈ next.extractions, extraction ∈ system.extractions
  generation : next.manager.generation = system.manager.generation
  manifest : next.manager.manifest = system.manager.manifest
  verified : next.verified = system.verified
  checks : next.checks = system.checks
  payloadDir : next.payloadDir = system.payloadDir

theorem Calm.noReply {next : UpdateSystem} (h : Calm system next) (hnone : system.NoReply) :
    next.NoReply := by
  intro reply hmem
  rw [h.generation]
  exact hnone reply (h.replies reply hmem)

theorem Calm.latestVerified {next : UpdateSystem} (h : Calm system next)
    {manifest : UpdateManifest} (hverified : LatestVerified libraries config system manifest) :
    LatestVerified libraries config next manifest :=
  hverified.congr h.manifest h.verified h.checks

theorem Calm.awaited {next : UpdateSystem} (h : Calm system next) {reply : Reply}
    (hawaited : Awaited libraries config system reply) :
    Awaited libraries config next reply := by
  unfold Awaited at hawaited ⊢
  rw [h.checks]
  split
  · rename_i hrequest
    rwa [hrequest] at hawaited
  · rename_i hrequest
    rwa [hrequest] at hawaited
  · rename_i hrequest
    rw [hrequest] at hawaited
    exact hawaited.imp fun _ => h.latestVerified

/-- A calm event keeps the invariant if what it makes of the state is backed. -/
theorem Sound.calm {next : UpdateSystem} (h : Sound libraries config system)
    (hcalm : Calm system next)
    (havailable : next.manager.state = .updateAvailable →
      ∃ manifest, LatestVerified libraries config next manifest)
    (hready : next.Ready → next.NoReply ∧
      ∃ manifest, LatestVerified libraries config next manifest ∧
        PayloadFrom libraries next manifest.file) :
    Sound libraries config next where
  replies reply hmem := by
    rw [hcalm.generation]
    exact h.replies reply (hcalm.replies reply hmem)
  extractions extraction hmem := by
    rw [hcalm.generation]
    exact h.extractions extraction (hcalm.extractions extraction hmem)
  unique first hfirst second hsecond := by
    rw [hcalm.generation]
    exact h.unique first (hcalm.replies first hfirst) second (hcalm.replies second hsecond)
  awaited reply hmem hcurrent := by
    rw [hcalm.generation] at hcurrent
    exact hcalm.awaited (h.awaited reply (hcalm.replies reply hmem) hcurrent)
  extracting extraction hmem hcurrent := by
    rw [hcalm.generation] at hcurrent
    obtain ⟨hnone, manifest, hverified, hgenuine, hdir⟩ :=
      h.extracting extraction (hcalm.extractions extraction hmem) hcurrent
    refine ⟨hcalm.noReply hnone, manifest, hcalm.latestVerified hverified, hgenuine, ?_⟩
    rw [hcalm.payloadDir, hdir]
  available := havailable
  ready := hready

theorem PayloadFrom.congr {next : UpdateSystem} {file : UpdateFileEntry}
    (h : PayloadFrom libraries system file)
    (hpayload : next.manager.payloadPath = system.manager.payloadPath)
    (hdir : next.payloadDir = system.payloadDir) : PayloadFrom libraries next file := by
  unfold PayloadFrom at h ⊢
  rwa [hpayload, hdir]

/-- A calm event that leaves the state and the payload alone keeps the invariant. -/
theorem Sound.same {next : UpdateSystem} (h : Sound libraries config system)
    (hcalm : Calm system next) (hstate : next.manager.state = system.manager.state)
    (hpayload : next.manager.payloadPath = system.manager.payloadPath) :
    Sound libraries config next := by
  apply h.calm hcalm
  · intro havailable
    rw [hstate] at havailable
    exact (h.available havailable).imp fun _ => hcalm.latestVerified
  · intro hready
    unfold Ready at hready
    rw [hstate] at hready
    obtain ⟨hnone, manifest, hverified, hfrom⟩ := h.ready hready
    exact ⟨hcalm.noReply hnone, manifest, hcalm.latestVerified hverified,
      hfrom.congr hpayload hcalm.payloadDir⟩

/-- A calm event after which nothing is offered keeps the invariant. -/
theorem Sound.quiet {next : UpdateSystem} (h : Sound libraries config system)
    (hcalm : Calm system next) (havailable : next.manager.state ≠ .updateAvailable)
    (hready : ¬ next.Ready) : Sound libraries config next :=
  h.calm hcalm (fun hstate => absurd hstate havailable) fun hstate => absurd hstate hready

theorem Calm.refl (system : UpdateSystem) : Calm system system where
  replies _ := id
  extractions _ := id
  generation := rfl
  manifest := rfl
  verified := rfl
  checks := rfl
  payloadDir := rfl

theorem calm_fail (system : UpdateSystem) (error : Bytes) : Calm system (system.fail error) :=
  { Calm.refl system with }

theorem calm_setState (system : UpdateSystem) (state : ManagerState) :
    Calm system (system.setState state) :=
  { Calm.refl system with }

theorem not_ready_fail (system : UpdateSystem) (error : Bytes) : ¬ (system.fail error).Ready := by
  rintro (hstate | hstate) <;> contradiction

theorem Sound.fail (h : Sound libraries config system) (error : Bytes) :
    Sound libraries config (system.fail error) :=
  h.quiet (calm_fail system error) nofun (not_ready_fail system error)

/-! ## Checks -/

theorem Sound.startCheck (h : Sound libraries config system) :
    Sound libraries config system.startCheck := by
  have hnew : ∀ reply ∈ system.startCheck.replies,
      reply.generation = system.manager.generation + 1 →
        reply = ⟨system.made, system.manager.generation + 1, Request.manifest,
          system.checks + 1⟩ := by
    intro reply hmem hcurrent
    rcases List.mem_append.mp hmem with hold | hlast
    · have hbefore := h.replies reply hold
      omega
    · exact List.mem_singleton.mp hlast
  constructor
  · intro reply hmem
    rcases List.mem_append.mp hmem with hold | hlast
    · exact (h.replies reply hold).trans (Nat.le_succ _)
    · rw [List.mem_singleton.mp hlast]
      exact le_refl _
  · intro extraction hmem
    exact (h.extractions extraction hmem).trans (Nat.le_succ _)
  · intro first hfirst second hsecond hcurrent hcurrent'
    rw [hnew first hfirst hcurrent, hnew second hsecond hcurrent']
  · intro reply hmem hcurrent
    rw [hnew reply hmem hcurrent]
    rfl
  · intro extraction hmem hcurrent
    have hbefore := h.extractions extraction hmem
    have hcurrent : extraction.generation = system.manager.generation + 1 := hcurrent
    omega
  · nofun
  · rintro (hstate | hstate) <;> contradiction

theorem Sound.checkForUpdates (h : Sound libraries config system) :
    Sound libraries config system.checkForUpdates := by
  rw [UpdateSystem.checkForUpdates]
  split
  · exact h
  · exact h.startCheck

/-! ## Replies -/

/-- The reply of the current generation has been taken. -/
structure Settled (libraries : Libraries) (config : UpdateManagerConfig)
    (system : UpdateSystem) : Prop where
  sound : Sound libraries config system
  noReply : system.NoReply
  noExtraction : ∀ extraction ∈ system.extractions,
    extraction.generation ≠ system.manager.generation
  notReady : ¬ system.Ready

/-- The reply has been taken out. -/
def take (system : UpdateSystem) (reply : Reply) : UpdateSystem :=
  { system with replies := system.replies.filter fun other => other ≠ reply }

theorem calm_take (system : UpdateSystem) (reply : Reply) : Calm system (system.take reply) :=
  { Calm.refl system with replies := fun _ hmem => List.mem_of_mem_filter hmem }

theorem Sound.take (h : Sound libraries config system) (reply : Reply) :
    Sound libraries config (system.take reply) :=
  h.same (calm_take system reply) rfl rfl

/-- The reply has been taken out, and no other is active. -/
def settle (system : UpdateSystem) (reply : Reply) : UpdateSystem :=
  { system.take reply with manager := { system.manager with activeReply := none } }

theorem calm_settle (system : UpdateSystem) (reply : Reply) :
    Calm system (system.settle reply) :=
  { calm_take system reply with }

/-- There was one reply of the current generation, and nothing else. -/
theorem Sound.settled (h : Sound libraries config system) {reply : Reply}
    (hmem : reply ∈ system.replies) (hcurrent : reply.generation = system.manager.generation) :
    Settled libraries config (system.settle reply) where
  sound := h.same (calm_settle system reply) rfl rfl
  noReply other hother hgeneration := by
    have hkept := List.mem_filter.mp hother
    have hsame := h.unique other hkept.1 reply hmem hgeneration hcurrent
    exact of_decide_eq_true hkept.2 hsame
  noExtraction extraction hextraction hgeneration :=
    (h.extracting extraction hextraction hgeneration).1 reply hmem hcurrent
  notReady hready := (h.ready hready).1 reply hmem hcurrent

theorem Settled.get (h : Settled libraries config system) {request : Request}
    (hawaited : Awaited libraries config system
      ⟨system.made, system.manager.generation, request, system.checks⟩) :
    Sound libraries config (system.get request) := by
  have hnew : ∀ reply ∈ (system.get request).replies,
      reply.generation = system.manager.generation →
        reply = ⟨system.made, system.manager.generation, request, system.checks⟩ := by
    intro reply hmem hcurrent
    rcases List.mem_append.mp hmem with hold | hlast
    · exact absurd hcurrent (h.noReply reply hold)
    · exact List.mem_singleton.mp hlast
  constructor
  · intro reply hmem
    rcases List.mem_append.mp hmem with hold | hlast
    · exact h.sound.replies reply hold
    · rw [List.mem_singleton.mp hlast]
      exact le_refl _
  · exact h.sound.extractions
  · intro first hfirst second hsecond hcurrent hcurrent'
    rw [hnew first hfirst hcurrent, hnew second hsecond hcurrent']
  · intro reply hmem hcurrent
    rw [hnew reply hmem hcurrent]
    unfold Awaited at hawaited ⊢
    split at hawaited
    · exact hawaited
    · exact hawaited
    · exact hawaited.imp fun _ hverified => hverified.congr rfl rfl rfl
  · exact fun extraction hmem hcurrent => absurd hcurrent (h.noExtraction extraction hmem)
  · exact fun hstate => (h.sound.available hstate).imp fun _ hverified =>
      hverified.congr rfl rfl rfl
  · exact fun hready => absurd hready h.notReady

/-- What the signature callback learns replaces what was known. -/
theorem Settled.learn {next : UpdateSystem} (h : Settled libraries config system)
    (hreplies : next.replies = system.replies)
    (hextractions : next.extractions = system.extractions)
    (hgeneration : next.manager.generation = system.manager.generation)
    (havailable : next.manager.state = .updateAvailable →
      ∃ manifest, LatestVerified libraries config next manifest)
    (hnotReady : ¬ next.Ready) : Sound libraries config next := by
  constructor
  · rw [hreplies, hgeneration]
    exact h.sound.replies
  · rw [hextractions, hgeneration]
    exact h.sound.extractions
  · rw [hreplies, hgeneration]
    exact h.sound.unique
  · intro reply hmem hcurrent
    rw [hreplies] at hmem
    rw [hgeneration] at hcurrent
    exact absurd hcurrent (h.noReply reply hmem)
  · intro extraction hmem hcurrent
    rw [hextractions] at hmem
    rw [hgeneration] at hcurrent
    exact absurd hcurrent (h.noExtraction extraction hmem)
  · exact havailable
  · exact fun hready => absurd hready hnotReady

theorem Settled.onSignature (h : Settled libraries config system) {record : Verified}
    (hmanifest : record.manifestCheck = system.checks)
    (hsignature : record.signatureCheck = system.checks) :
    Sound libraries config (system.onSignature libraries config record) := by
  unfold UpdateSystem.onSignature
  split
  · exact h.sound.fail _
  · rename_i comment hverify
    unfold onManifestVerified
    split
    · exact h.sound.fail _
    · rename_i manifest hparse
      obtain ⟨hchannel, htarget, -⟩ := parseUpdateManifest_ok hparse
      dsimp only
      split
      · refine h.learn rfl rfl rfl nofun ?_
        rintro (hstate | hstate) <;> contradiction
      · rename_i hnewer
        refine h.learn rfl rfl rfl ?_ ?_
        · intro _
          exact ⟨manifest, rfl, ⟨record, rfl, hmanifest, hsignature, verifyDetached_ok hverify,
            hparse⟩, hchannel, htarget, not_not.mp hnewer⟩
        · rintro (hstate | hstate) <;> contradiction

theorem Settled.onSmallFinished (h : Settled libraries config system) {reply : Reply}
    (hawaited : Awaited libraries config system reply) (hsmall : reply.request ≠ Request.download)
    (answer : Answer) :
    Sound libraries config (system.onSmallFinished libraries config reply answer) := by
  cases answer with
  | failed error => exact h.sound.fail _
  | ok body =>
      unfold UpdateSystem.onSmallFinished
      split
      · contradiction
      · rename_i listed hbody
        split
        · exact h.sound.fail _
        · unfold Awaited at hawaited
          split
          · rename_i manifestBytes manifestCheck hrequest
            rw [hrequest] at hawaited
            exact h.onSignature hawaited.2 hawaited.1
          · rename_i hother
            apply h.get
            split at hawaited
            · exact ⟨rfl, hawaited⟩
            · rename_i hrequest
              exact absurd hrequest (hother _ _)
            · rename_i hrequest
              exact absurd hrequest hsmall

/-! ## Downloads -/

theorem Sound.beginDownload (h : Sound libraries config system) {manifest : UpdateManifest}
    (hverified : LatestVerified libraries config system manifest) :
    Sound libraries config system.beginDownload := by
  have hnew : ∀ reply ∈ system.beginDownload.replies,
      reply.generation = system.manager.generation + 1 →
        reply = ⟨system.made, system.manager.generation + 1, Request.download,
          system.checks⟩ := by
    intro reply hmem hcurrent
    rcases List.mem_append.mp hmem with hold | hlast
    · have hbefore := h.replies reply hold
      omega
    · exact List.mem_singleton.mp hlast
  constructor
  · intro reply hmem
    rcases List.mem_append.mp hmem with hold | hlast
    · exact (h.replies reply hold).trans (Nat.le_succ _)
    · rw [List.mem_singleton.mp hlast]
      exact le_refl _
  · intro extraction hmem
    exact (h.extractions extraction hmem).trans (Nat.le_succ _)
  · intro first hfirst second hsecond hcurrent hcurrent'
    rw [hnew first hfirst hcurrent, hnew second hsecond hcurrent']
  · intro reply hmem hcurrent
    rw [hnew reply hmem hcurrent]
    exact ⟨manifest, hverified.congr rfl rfl rfl⟩
  · intro extraction hmem hcurrent
    have hbefore := h.extractions extraction hmem
    have hcurrent : extraction.generation = system.manager.generation + 1 := hcurrent
    omega
  · nofun
  · rintro (hstate | hstate) <;> contradiction

theorem Sound.downloadUpdate (h : Sound libraries config system) (staging : Staging) :
    Sound libraries config (system.downloadUpdate libraries staging) := by
  unfold UpdateSystem.downloadUpdate
  split
  · exact h
  · split
    · exact h
    · rename_i havailable
      obtain ⟨manifest, hverified⟩ := h.available (not_not.mp havailable)
      split
      · exact h.fail _
      · split
        · exact h.fail _
        · split
          · exact h.fail _
          · split
            · exact h.fail _
            · exact h.beginDownload hverified

/-- The manager becomes ready when nothing else is awaited. -/
theorem Settled.ready {next : UpdateSystem} (h : Settled libraries config system)
    (hcalm : Calm system next) {manifest : UpdateManifest}
    (hverified : LatestVerified libraries config system manifest)
    (hfrom : PayloadFrom libraries next manifest.file)
    (hstate : next.manager.state = .readyToApply) : Sound libraries config next := by
  apply h.sound.calm hcalm
  · intro havailable
    rw [hstate] at havailable
    contradiction
  · intro _
    exact ⟨hcalm.noReply h.noReply, manifest, hcalm.latestVerified hverified, hfrom⟩

theorem Settled.onImageDownloaded (h : Settled libraries config system)
    {manifest : UpdateManifest} (hverified : LatestVerified libraries config system manifest)
    (hgenuine : Genuine libraries manifest.file system.manager.received) (files : Files) :
    Sound libraries config (system.onImageDownloaded config files) := by
  unfold UpdateSystem.onImageDownloaded
  split
  · exact h.sound.fail _
  · split
    · exact h.sound.fail _
    · exact h.ready { Calm.refl system with } hverified hgenuine rfl

theorem Settled.beginExtraction (h : Settled libraries config system)
    {manifest : UpdateManifest} (hverified : LatestVerified libraries config system manifest)
    (hgenuine : Genuine libraries manifest.file system.manager.received)
    (halone : system.extractions = []) (files : Files) :
    Sound libraries config (system.beginExtraction files) := by
  have hnone : ∀ extraction, extraction ∉ system.extractions := by
    intro extraction
    rw [halone]
    exact List.not_mem_nil
  unfold UpdateSystem.beginExtraction
  split
  · exact h.sound.fail _
  · dsimp only
    split
    · refine Sound.fail ?_ _
      constructor
      · exact h.sound.replies
      · exact h.sound.extractions
      · exact h.sound.unique
      · exact fun reply hmem hcurrent => absurd hcurrent (h.noReply reply hmem)
      · exact fun extraction hmem _ => absurd hmem (hnone extraction)
      · exact fun hstate => (h.sound.available hstate).imp fun _ hverified =>
          hverified.congr rfl rfl rfl
      · exact fun hready => absurd hready h.notReady
    · constructor
      · exact h.sound.replies
      · intro extraction hmem
        rcases List.mem_append.mp hmem with hold | hlast
        · exact absurd hold (hnone extraction)
        · obtain rfl := List.mem_singleton.mp hlast
          exact le_refl _
      · exact h.sound.unique
      · exact fun reply hmem hcurrent => absurd hcurrent (h.noReply reply hmem)
      · intro extraction hmem _
        rcases List.mem_append.mp hmem with hold | hlast
        · exact absurd hold (hnone extraction)
        · rw [List.mem_singleton.mp hlast]
          refine ⟨h.noReply, manifest, hverified.congr rfl rfl rfl, hgenuine, ?_⟩
          rw [halone]
          rfl
      · nofun
      · rintro (hstate | hstate) <;> contradiction

theorem Settled.setState (h : Settled libraries config system) {state : ManagerState}
    (havailable : state ≠ .updateAvailable)
    (hready : ¬ (state = .readyToApply ∨ state = .applying)) :
    Settled libraries config (system.setState state) where
  sound := h.sound.quiet (calm_setState system state) havailable hready
  noReply := h.noReply
  noExtraction := h.noExtraction
  notReady := hready

theorem Settled.onDownloadFinished (h : Settled libraries config system)
    {manifest : UpdateManifest} (hverified : LatestVerified libraries config system manifest)
    {answer : Answer}
    (halone : ∀ body, answer = Answer.ok body → system.downloadComplete libraries = true ∧
      config.singleFileArtifact = false → system.extractions = [])
    (files : Files) :
    Sound libraries config (system.onDownloadFinished libraries config files answer) := by
  cases answer with
  | failed error => exact h.sound.fail _
  | ok body =>
      have hverifying : Settled libraries config (system.setState .verifying) :=
        h.setState nofun (by rintro (hstate | hstate) <;> contradiction)
      have hlatest : LatestVerified libraries config (system.setState .verifying) manifest :=
        hverified.congr rfl rfl rfl
      unfold UpdateSystem.onDownloadFinished
      rw [hverified.current]
      dsimp only
      by_cases hsize : (system.manager.received.length : Int) ≠ manifest.file.size
      · rw [if_pos hsize]
        exact hverifying.sound.fail _
      rw [if_neg hsize]
      by_cases hsha : libraries.sha256Hex system.manager.received ≠ manifest.file.sha256
      · rw [if_pos hsha]
        exact hverifying.sound.fail _
      rw [if_neg hsha]
      have hgenuine : Genuine libraries manifest.file system.manager.received :=
        ⟨not_not.mp hsize, not_not.mp hsha⟩
      split
      · exact hverifying.sound.fail _
      · split
        · exact hverifying.onImageDownloaded hlatest hgenuine files
        · rename_i hsingle
          refine hverifying.beginExtraction hlatest hgenuine ?_ files
          refine halone body rfl ⟨?_, Bool.not_eq_true _ ▸ hsingle⟩
          rw [downloadComplete, hverified.current]
          exact decide_eq_true hgenuine

/-! ## Steps -/

theorem Sound.onFinished (h : Sound libraries config system) {reply : Reply}
    (hmem : reply ∈ system.replies) {answer : Answer}
    (halone : ∀ body, answer = Answer.ok body → reply.request = Request.download ∧
      reply.generation = system.manager.generation ∧
        system.downloadComplete libraries = true ∧ config.singleFileArtifact = false →
      system.extractions = []) (files : Files) :
    Sound libraries config (system.onFinished libraries config reply answer files) := by
  unfold UpdateSystem.onFinished
  dsimp only
  by_cases hstale : reply.generation ≠ system.manager.generation
  · rw [if_pos hstale]
    exact h.take reply
  · rw [if_neg hstale]
    have hcurrent := not_not.mp hstale
    have hsettled := h.settled hmem hcurrent
    have hawaited := (calm_settle system reply).awaited (h.awaited reply hmem hcurrent)
    split
    · rename_i hdownload
      unfold Awaited at hawaited
      rw [hdownload] at hawaited
      obtain ⟨manifest, hverified⟩ := hawaited
      exact hsettled.onDownloadFinished hverified
        (fun body hbody hcomplete => halone body hbody ⟨hdownload, hcurrent, hcomplete⟩) files
    · rename_i hsmall
      exact hsettled.onSmallFinished hawaited hsmall answer

theorem Sound.abort (h : Sound libraries config system) {reply : Reply}
    (hmem : reply ∈ system.replies) : Sound libraries config
      (system.abort libraries config reply) :=
  h.onFinished hmem (fun _ hanswer => by contradiction) {}

theorem Sound.onReadyRead (h : Sound libraries config system) {reply : Reply}
    (hmem : reply ∈ system.replies) (chunk : Bytes) (written : Bool) :
    Sound libraries config (system.onReadyRead libraries config reply chunk written) := by
  have hseen : Sound libraries config { system with
      manager := { system.manager with received := system.manager.received ++ chunk } } :=
    h.same { Calm.refl system with } rfl rfl
  unfold UpdateSystem.onReadyRead
  split
  · exact h
  · dsimp only
    split
    · exact hseen
    · split
      · exact hseen.abort hmem
      · exact hseen

theorem Sound.onExtractionFinished (h : Sound libraries config system)
    {extraction : Extraction} (hmem : extraction ∈ system.extractions) {failure : Option Bytes}
    {package : Bool}
    (hpunctual : failure = none → package = true →
      extraction.generation = system.manager.generation) (writableRoot : Bool) :
    Sound libraries config
      (system.onExtractionFinished config extraction failure package writableRoot) := by
  have hcalm : Calm system { system with
      extractions := system.extractions.filter fun other => other ≠ extraction } :=
    { Calm.refl system with extractions := fun _ hother => List.mem_of_mem_filter hother }
  have hleft := h.same hcalm rfl rfl
  unfold UpdateSystem.onExtractionFinished
  split
  · exact hleft.fail _
  · split
    · exact hleft.fail _
    · rename_i hpackage
      rw [Bool.not_eq_false] at hpackage
      obtain ⟨hnone, manifest, hverified, hgenuine, hdir⟩ :=
        h.extracting extraction hmem (hpunctual rfl hpackage)
      refine h.calm ⟨hcalm.replies, hcalm.extractions, rfl, rfl, rfl, rfl, rfl⟩ ?_ ?_
      · nofun
      · intro _
        refine ⟨hnone, manifest, hverified.congr rfl rfl rfl, ?_⟩
        rw [PayloadFrom]
        dsimp only
        rw [hdir]
        exact ⟨List.cons_ne_nil _ _, fun archive harchive =>
          List.mem_singleton.mp harchive ▸ hgenuine⟩

theorem Sound.onExtractionError (h : Sound libraries config system) (extraction : Extraction)
    (started : Bool) (error : Bytes) :
    Sound libraries config (system.onExtractionError extraction started error) := by
  unfold UpdateSystem.onExtractionError
  apply Sound.fail
  refine h.same ⟨fun _ => id, fun other hother => ?_, rfl, rfl, rfl, rfl, rfl⟩ rfl rfl
  dsimp only at hother
  split at hother
  · exact hother
  · exact List.mem_of_mem_filter hother

theorem appliesPayload_ready (h : system.appliesPayload = true) : system.Ready := by
  rw [appliesPayload, Bool.and_eq_true, Bool.and_eq_true, decide_eq_true_iff] at h
  exact Or.inl h.1.1

/-- While the payload is applied it is the payload that was ready. -/
theorem Sound.applying (h : Sound libraries config system)
    (happlies : system.appliesPayload = true) :
    Sound libraries config (system.setState .applying) := by
  apply h.calm (calm_setState system .applying)
  · nofun
  · intro _
    obtain ⟨hnone, manifest, hverified, hfrom⟩ := h.ready (appliesPayload_ready happlies)
    exact ⟨hnone, manifest, hverified.congr rfl rfl rfl, hfrom.congr rfl rfl⟩

theorem Sound.applyAndRestart (h : Sound libraries config system) (swapError : Option Bytes)
    (restarted : Bool) :
    Sound libraries config (system.applyAndRestart swapError restarted) := by
  unfold UpdateSystem.applyAndRestart
  split
  · rename_i happlies
    unfold finishApply
    split
    · exact (h.applying happlies).fail _
    · split
      · exact h.applying happlies
      · exact (h.applying happlies).fail _
  · exact h

/-- What one event keeps, if no extraction outlives its check. -/
theorem Sound.step {next : UpdateSystem} (h : Sound libraries config system)
    (hstep : PunctualStep libraries config system next) : Sound libraries config next := by
  obtain ⟨action, hpunctual, hact⟩ := hstep
  cases action with
  | checkForUpdates =>
      rw [← Option.some.inj hact]
      exact h.checkForUpdates
  | periodicTimeout =>
      rw [← Option.some.inj hact]
      split
      · exact h.checkForUpdates
      · exact h
  | startupTimeout =>
      rw [← Option.some.inj hact]
      split
      · exact h.checkForUpdates
      · exact h
  | downloadUpdate staging =>
      rw [← Option.some.inj hact]
      exact h.downloadUpdate staging
  | dismissNotice =>
      rw [← Option.some.inj hact]
      exact h.same { Calm.refl system with } rfl rfl
  | applyAndRestart swapError restarted =>
      rw [← Option.some.inj hact]
      exact h.applyAndRestart swapError restarted
  | readyRead reply chunk written =>
      rw [act, Option.ite_none_right_eq_some, Option.some.injEq] at hact
      rw [← hact.2]
      exact h.onReadyRead hact.1.1 chunk written
  | finished reply answer files =>
      rw [act, Option.ite_none_right_eq_some, Option.some.injEq] at hact
      rw [← hact.2]
      refine h.onFinished hact.1 (fun body hbody => ?_) files
      subst hbody
      exact hpunctual
  | watchdogTimeout =>
      rw [← Option.some.inj hact]
      split
      · rename_i reply hreply
        split
        · exact h.abort (List.mem_of_find?_eq_some hreply)
        · exact h
      · exact h
  | extractionFinished extraction failure package writableRoot =>
      rw [act, Option.ite_none_right_eq_some, Option.some.injEq] at hact
      rw [← hact.2]
      refine h.onExtractionFinished hact.1 (fun hfailure hpackage => ?_) writableRoot
      subst hfailure hpackage
      exact hpunctual
  | extractionError extraction started error =>
      rw [act, Option.ite_none_right_eq_some, Option.some.injEq] at hact
      rw [← hact.2]
      exact h.onExtractionError extraction started error

theorem sound_initial (h : Initial config system) : Sound libraries config system := by
  obtain ⟨dismissedVersion, rfl⟩ := h
  constructor
  · nofun
  · nofun
  · nofun
  · nofun
  · nofun
  · intro hstate
    dsimp only at hstate
    split at hstate <;> contradiction
  · intro hready
    unfold Ready at hready
    dsimp only at hready
    split at hready <;> rcases hready with hstate | hstate <;> contradiction

end

/-! ## Runs -/

/-- A signature file of four lines. -/
def signatureFile : Bytes :=
  [99, 10, 83, 10] ++ trustedCommentPrefix ++ [116, 10, 71, 10]

/-- A manifest of one archive, as it is read. -/
def manifestObject : QJsonValue :=
  .object [(text "schema", .double 1), (text "project", .string (text "driscord")),
    (text "channel", .string (text "stable")), (text "target", .string (text "windows/amd64")),
    (text "version", .string (text "1.2.3")),
    (text "files", .array [.object [(text "name", .string (text "client.zip")),
      (text "sha256", .string (List.replicate 64 97)), (text "size", .double 3),
      (text "url", .string (text "1.2.3/client.zip"))]])]

/-- Libraries that know one key, one manifest and one archive. -/
def oneUpdate : Libraries where
  fromBase64 line :=
    if line = [83] then some (text "ED" ++ List.replicate 8 7 ++ List.replicate 64 1)
    else if line = [71] then some (List.replicate 64 2)
    else none
  ed25519Verify message signature key :=
    key = List.replicate 32 5 ∧
      (message = [11] ∧ signature = List.replicate 64 1 ∨
        message = List.replicate 64 1 ++ [116] ∧ signature = List.replicate 64 2)
  blake2b512 content := if content = [109] then [11] else []
  sha256Hex archive := if archive = [1, 2, 3] then List.replicate 64 97 else []
  fromJson document := if document = [109] then Except.ok manifestObject else Except.error []
  sameOrigin _ := true

def portableConfig : UpdateManagerConfig where
  baseUrl := text "https://updates"
  channel := text "stable"
  manifestTarget := text "windows/amd64"
  archiveSuffix := text ".zip"
  singleFileArtifact := false
  currentVersionCore := text "1.0.0"
  trustedKeys := [⟨List.replicate 8 7, List.replicate 32 5⟩]
  appImage := false
  portable := true

/-- The extraction of the downloaded archive. -/
def extraction : Extraction :=
  ⟨3, [1, 2, 3], 2⟩

/-- Check for an update, and download it. -/
def downloadActions : List UpdateAction :=
  [.checkForUpdates, .finished ⟨0, 1, .manifest, 1⟩ (.ok [109]) {},
    .finished ⟨1, 1, .signature [109] 1, 1⟩ (.ok signatureFile) {}, .downloadUpdate {},
    .readyRead ⟨2, 2, .download, 1⟩ [1, 2, 3] true,
    .finished ⟨2, 2, .download, 1⟩ (.ok []) {}]

def extracted : UpdateSystem :=
  (execute (Punctual oneUpdate portableConfig) (act oneUpdate portableConfig) {}
    (downloadActions ++ [.extractionFinished extraction none true true])).getD {}

theorem initial_default : Initial portableConfig {} :=
  ⟨none, rfl⟩

theorem reachable_extracted :
    Reachable (Initial portableConfig) (PunctualStep oneUpdate portableConfig) extracted :=
  Reachable.execute (fun _ action _ hpunctual hact => ⟨action, hpunctual, hact⟩)
    (Reachable.start initial_default) (execute_eq_some_getD (by decide +kernel))

/-- The extraction reports an error, a newer check begins, and the extraction succeeds. -/
def late : UpdateSystem :=
  (execute (fun _ _ => True) (act oneUpdate portableConfig) {}
    (downloadActions ++ [.extractionError extraction true [], .checkForUpdates,
      .extractionFinished extraction none true true])).getD {}

theorem reachable_late :
    Reachable (Initial portableConfig) (Step oneUpdate portableConfig) late :=
  Reachable.execute (fun _ action _ _ hact => ⟨action, hact⟩)
    (Reachable.start initial_default) (execute_eq_some_getD (by decide +kernel))

end UpdateSystem

end Update
end Driscord
