import Driscord.Update.Minisign
import Driscord.Update.UpdateManifest

/-!
# The update manager

`UpdateManager` checks for an update, downloads it, extracts it and applies it.  The
answers of the network carry the generation in which they were asked for; the callbacks
of the extraction carry none.

The manager runs on one thread: each call, each timer and each callback is one step.
A reply that is aborted is finished in the same step.  An extraction that reports an
error can be running still, unless it never started.

What decides nothing about the payload is left out: the progress, the hint, and the
files other than the payload.
-/

namespace Driscord
namespace Update

open Signaling

/-- The calls into the libraries. -/
structure Libraries extends Crypto where
  /-- `QJsonDocument::fromJson`. -/
  fromJson : Bytes → Except Bytes QJsonValue
  /-- The url of a file has the scheme, the host and the port of `baseUrl`. -/
  sameOrigin : Bytes → Bool

/-- `UpdateManagerConfig`. -/
structure UpdateManagerConfig where
  baseUrl : Bytes
  channel : Bytes
  manifestTarget : Bytes
  archiveSuffix : Bytes
  singleFileArtifact : Bool
  currentVersionCore : Bytes
  trustedKeys : List PublicKey
  /-- `layout.kind` is `AppImage`. -/
  appImage : Bool
  portable : Bool

/-- `m_currentVersion`. -/
def UpdateManagerConfig.currentVersion (config : UpdateManagerConfig) : VersionTriple :=
  (VersionTriple.parse config.currentVersionCore).getD {}

/-- `m_state`. -/
inductive ManagerState where
  | disabled
  | idle
  | checking
  | upToDate
  | updateAvailable
  | downloading
  | verifying
  | extracting
  | readyToApply
  | applying
  | error
deriving DecidableEq, Repr

/-- What `m_payloadPath` names: the downloaded file, or the directory of the extraction. -/
inductive Payload where
  | image (content : Bytes)
  | directory
deriving DecidableEq, Repr

/-- `UpdateManager`. -/
structure UpdateManager where
  state : ManagerState := ManagerState.idle
  generation : Nat := 0
  activeReply : Option Nat := none
  errorText : Bytes := []
  latestVersion : Option VersionTriple := none
  noticeVisible : Bool := false
  canApply : Bool := false
  manifest : Option UpdateManifest := none
  /-- The bytes that `m_downloadHash` and `m_downloadedBytes` have seen. -/
  received : Bytes := []
  payloadPath : Option Payload := none
deriving DecidableEq

/-- What a reply answers.  The number of the check that the manifest was fetched in is
not in the source. -/
inductive Request where
  | manifest
  | signature (manifestBytes : Bytes) (manifestCheck : Nat)
  | download
deriving DecidableEq, Repr

/-- A reply that is not finished. -/
structure Reply where
  id : Nat
  generation : Nat
  request : Request
  /-- The number of the check, which is not in the source. -/
  check : Nat
deriving DecidableEq, Repr

/-- An extraction that is running. -/
structure Extraction where
  id : Nat
  archive : Bytes
  /-- The generation in which it was started, which is not in the source. -/
  generation : Nat
deriving DecidableEq, Repr

/-- A manifest with its signature, and the checks in which they were fetched. -/
structure Verified where
  manifestBytes : Bytes
  signatureBytes : Bytes
  manifestCheck : Nat
  signatureCheck : Nat
deriving DecidableEq, Repr

/-- The manager, what it waits for, and the directory of the extraction. -/
structure UpdateSystem where
  manager : UpdateManager := {}
  replies : List Reply := []
  extractions : List Extraction := []
  /-- The replies and extractions made so far. -/
  made : Nat := 0
  /-- The archives with files in the directory of the extraction. -/
  payloadDir : List Bytes := []
  dismissedVersion : Option VersionTriple := none
  /-- The checks made so far. -/
  checks : Nat := 0
  /-- The manifest that the latest check has verified. -/
  verified : Option Verified := none
deriving DecidableEq

/-- What a reply finishes with. -/
inductive Answer where
  | failed (error : Bytes)
  | ok (body : Bytes)
deriving DecidableEq, Repr

/-- What the calls for the staging directory return. -/
structure Staging where
  path : Bytes := []
  created : Bool := true
  bytesAvailable : Option Int := none
  opened : Bool := true
deriving DecidableEq, Repr

/-- What the calls for the downloaded file return. -/
structure Files where
  path : Bytes := []
  renamed : Bool := true
  reopened : Bool := true
  tar : Bool := true
  created : Bool := true
  writableRoot : Bool := true
deriving DecidableEq, Repr

namespace UpdateSystem

/-- `setState`. -/
def setState (system : UpdateSystem) (state : ManagerState) : UpdateSystem :=
  { system with manager := { system.manager with state } }

/-- `fail`. -/
def fail (system : UpdateSystem) (error : Bytes) : UpdateSystem :=
  { system with manager := { system.manager with errorText := error, state := .error } }

/-- `get`, of the network access manager. -/
def get (system : UpdateSystem) (request : Request) : UpdateSystem :=
  { system with
    replies := system.replies ++
      [⟨system.made, system.manager.generation, request, system.checks⟩]
    made := system.made + 1
    manager := { system.manager with activeReply := some system.made } }

/-- `checkForUpdates`, when it is not refused. -/
def startCheck (system : UpdateSystem) : UpdateSystem :=
  get { system with
    checks := system.checks + 1
    verified := none
    manager := { system.manager with
      generation := system.manager.generation + 1
      errorText := []
      manifest := none
      latestVersion := none
      payloadPath := none
      canApply := false
      state := .checking } } Request.manifest

/-- The states in which no check is started. -/
def refusesCheck (state : ManagerState) : Bool :=
  state ∈ [.disabled, .checking, .downloading, .verifying, .extracting, .applying]

/-- `checkForUpdates`. -/
def checkForUpdates (system : UpdateSystem) : UpdateSystem :=
  if refusesCheck system.manager.state then system else system.startCheck

/-- `dismissNotice`. -/
def dismissNotice (system : UpdateSystem) : UpdateSystem :=
  { system with
    dismissedVersion := system.manager.latestVersion.or system.dismissedVersion
    manager := { system.manager with noticeVisible := false } }

section

variable (libraries : Libraries) (config : UpdateManagerConfig)

/-- `onManifestVerified`. -/
def onManifestVerified (system : UpdateSystem) (record : Verified) : UpdateSystem :=
  match parseUpdateManifest (libraries.fromJson record.manifestBytes) config.channel
      config.manifestTarget config.archiveSuffix with
  | Except.error error => system.fail (text "manifest rejected: " ++ error)
  | Except.ok manifest =>
      let known := { system with
        verified := some record
        manager := { system.manager with
          manifest := some manifest
          latestVersion := some manifest.version } }
      if ¬ config.currentVersion < manifest.version then known.setState .upToDate
      else
        { known with
          manager := { known.manager with
            noticeVisible := some manifest.version ≠ system.dismissedVersion
            state := .updateAvailable } }

/-- The callback of `fetchSignatureAndVerify`. -/
def onSignature (system : UpdateSystem) (record : Verified) : UpdateSystem :=
  match verifyDetached libraries.toCrypto record.manifestBytes record.signatureBytes
      config.trustedKeys with
  | Except.error error => system.fail (text "manifest signature rejected: " ++ error)
  | Except.ok _ => system.onManifestVerified libraries config record

/-- `kMaxManifestBytes` and `kMaxSignatureBytes`. -/
def maxBytes : Request → Nat
  | Request.manifest => 64 * 1024
  | _ => 4 * 1024

/-- The handler of `fetchSmall`, after its check of the generation. -/
def onSmallFinished (system : UpdateSystem) (reply : Reply) : Answer → UpdateSystem
  | Answer.failed error => system.fail (text "update check failed: " ++ error)
  | Answer.ok body =>
      if maxBytes reply.request < body.length then
        system.fail (text "update check failed: oversized response")
      else
        match reply.request with
        | Request.signature manifestBytes manifestCheck =>
            system.onSignature libraries config
              ⟨manifestBytes, body, manifestCheck, reply.check⟩
        | _ => system.get (Request.signature body reply.check)

/-- `stagingInsideRoot`. -/
def stagingInsideRoot (files : Files) : Bool :=
  config.portable && files.writableRoot

/-- The header of an AppImage. -/
def isAppImage (content : Bytes) : Bool :=
  [0x7f, 0x45, 0x4c, 0x46].isPrefixOf content && ((content.take 11).drop 8) = [0x41, 0x49, 2]

/-- `onImageDownloaded`. -/
def onImageDownloaded (system : UpdateSystem) (files : Files) : UpdateSystem :=
  if ¬ files.reopened then system.fail (text "cannot reopen " ++ files.path)
  else if ¬ isAppImage system.manager.received then
    system.fail (text "downloaded file is not an AppImage")
  else
    { system with
      manager := { system.manager with
        payloadPath := some (Payload.image system.manager.received)
        canApply := config.appImage && stagingInsideRoot config files
        state := .readyToApply } }

/-- `beginExtraction`.  What is still running goes on writing into the directory. -/
def beginExtraction (system : UpdateSystem) (files : Files) : UpdateSystem :=
  if ¬ files.tar then
    system.fail (text "no tar executable found to extract the update")
  else
    let emptied := { system with payloadDir := system.extractions.map Extraction.archive }
    if ¬ files.created then emptied.fail (text "cannot create " ++ files.path)
    else
      { emptied with
        extractions := system.extractions ++
          [⟨system.made, system.manager.received, system.manager.generation⟩]
        made := system.made + 1
        payloadDir := emptied.payloadDir ++ [system.manager.received]
        manager := { system.manager with state := .extracting } }

/-- `onDownloadFinished`. -/
def onDownloadFinished (system : UpdateSystem) (files : Files) : Answer → UpdateSystem
  | Answer.failed error => system.fail (text "download failed: " ++ error)
  | Answer.ok _ =>
      match system.manager.manifest with
      -- The source reads `m_manifest` without a check; the cases without one do not occur.
      | none => system
      | some manifest =>
          let verifying := system.setState .verifying
          if (system.manager.received.length : Int) ≠ manifest.file.size then
            verifying.fail (text "download size mismatch")
          else if libraries.sha256Hex system.manager.received ≠ manifest.file.sha256 then
            verifying.fail (text "download sha256 mismatch")
          else if ¬ files.renamed then verifying.fail (text "cannot finalize " ++ files.path)
          else if config.singleFileArtifact then verifying.onImageDownloaded config files
          else verifying.beginExtraction files

/-- The handlers of `finished`: a reply of an earlier generation is dropped. -/
def onFinished (system : UpdateSystem) (reply : Reply) (answer : Answer) (files : Files) :
    UpdateSystem :=
  let left := { system with replies := system.replies.filter fun other => other ≠ reply }
  if reply.generation ≠ system.manager.generation then left
  else
    let idle := { left with manager := { left.manager with activeReply := none } }
    match reply.request with
    | Request.download => idle.onDownloadFinished libraries config files answer
    | _ => idle.onSmallFinished libraries config reply answer

/-- `abort`. -/
def abort (system : UpdateSystem) (reply : Reply) : UpdateSystem :=
  system.onFinished libraries config reply (Answer.failed (text "Operation canceled")) {}

/-- `beginDownload`. -/
def beginDownload (system : UpdateSystem) : UpdateSystem :=
  get { system with
    manager := { system.manager with
      received := []
      state := .downloading
      generation := system.manager.generation + 1 } } Request.download

/-- `downloadUpdate`. -/
def downloadUpdate (system : UpdateSystem) (staging : Staging) : UpdateSystem :=
  match system.manager.manifest with
  | none => system
  | some manifest =>
      if system.manager.state ≠ .updateAvailable then system
      else if ¬ libraries.sameOrigin manifest.file.url then
        system.fail (text "artifact url leaves the update origin")
      else if ¬ staging.created then system.fail (text "cannot create " ++ staging.path)
      else if staging.bytesAvailable.any (· < 2 * manifest.file.size) then
        system.fail (text "not enough disk space in " ++ staging.path)
      else if ¬ staging.opened then system.fail (text "cannot write " ++ staging.path)
      else system.beginDownload

/-- The handler of `readyRead` in `beginDownload`; `written` is whether the chunk could be
written. -/
def onReadyRead (system : UpdateSystem) (reply : Reply) (chunk : Bytes) (written : Bool) :
    UpdateSystem :=
  if reply.generation ≠ system.manager.generation then system
  else
    let seen := { system with
      manager := { system.manager with received := system.manager.received ++ chunk } }
    match system.manager.manifest with
    | none => seen
    | some manifest =>
        if manifest.file.size < (seen.manager.received.length : Int) ∨ written = false then
          seen.abort libraries config reply
        else seen

/-- The handler of `QProcess::finished`; `failure` is the output of a process without a
normal exit with the code 0, and `package` is whether the probe of
`onExtractionFinished` is there. -/
def onExtractionFinished (system : UpdateSystem) (extraction : Extraction)
    (failure : Option Bytes) (package writableRoot : Bool) : UpdateSystem :=
  let left := { system with
    extractions := system.extractions.filter fun other => other ≠ extraction }
  match failure with
  | some output => left.fail (text "extraction failed: " ++ output)
  | none =>
      if package = false then left.fail (text "extracted archive is not a client package")
      else
        { left with
          manager := { left.manager with
            payloadPath := some Payload.directory
            canApply := config.portable && writableRoot
            state := .readyToApply } }

/-- The handler of `QProcess::errorOccurred`. -/
def onExtractionError (system : UpdateSystem) (extraction : Extraction) (started : Bool)
    (error : Bytes) : UpdateSystem :=
  fail { system with
    extractions :=
      if started then system.extractions
      else system.extractions.filter fun other => other ≠ extraction }
    (text "extraction failed: " ++ error)

/-- `applyAndRestart` goes on. -/
def appliesPayload (system : UpdateSystem) : Bool :=
  system.manager.state = .readyToApply && system.manager.canApply &&
    system.manager.payloadPath.isSome

/-- The rest of `applyAndRestart`; `swapError` is the error of the swap, and `restarted` is
whether the new version could be started. -/
def finishApply (system : UpdateSystem) (swapError : Option Bytes) (restarted : Bool) :
    UpdateSystem :=
  match swapError with
  | some error =>
      system.fail (text "applying the update failed: " ++ error ++
        text " — the previous files were restored")
  | none =>
      if restarted then system
      else
        system.fail (text
          "the new version is installed but could not be started; restart manually")

/-- `applyAndRestart`. -/
def applyAndRestart (system : UpdateSystem) (swapError : Option Bytes) (restarted : Bool) :
    UpdateSystem :=
  if system.appliesPayload then (system.setState .applying).finishApply swapError restarted
  else system

end

end UpdateSystem

/-- The calls of the user, the timers and the callbacks. -/
inductive UpdateAction where
  | checkForUpdates
  | periodicTimeout
  | startupTimeout
  | downloadUpdate (staging : Staging)
  | dismissNotice
  | applyAndRestart (swapError : Option Bytes) (restarted : Bool)
  | readyRead (reply : Reply) (chunk : Bytes) (written : Bool)
  | finished (reply : Reply) (answer : Answer) (files : Files)
  | watchdogTimeout
  | extractionFinished (extraction : Extraction) (failure : Option Bytes)
      (package writableRoot : Bool)
  | extractionError (extraction : Extraction) (started : Bool) (error : Bytes)
deriving DecidableEq

namespace UpdateSystem

section

variable (libraries : Libraries) (config : UpdateManagerConfig)

/-- One event. -/
def act (system : UpdateSystem) : UpdateAction → Option UpdateSystem
  | UpdateAction.checkForUpdates => some system.checkForUpdates
  | UpdateAction.periodicTimeout =>
      some (if system.manager.state ∈ [.idle, .upToDate, .error] then system.checkForUpdates
        else system)
  | UpdateAction.startupTimeout =>
      some (if system.manager.state = .idle then system.checkForUpdates else system)
  | UpdateAction.downloadUpdate staging => some (system.downloadUpdate libraries staging)
  | UpdateAction.dismissNotice => some system.dismissNotice
  | UpdateAction.applyAndRestart swapError restarted =>
      some (system.applyAndRestart swapError restarted)
  | UpdateAction.readyRead reply chunk written =>
      if reply ∈ system.replies ∧ reply.request = Request.download then
        some (system.onReadyRead libraries config reply chunk written)
      else none
  | UpdateAction.finished reply answer files =>
      if reply ∈ system.replies then
        some (system.onFinished libraries config reply answer files)
      else none
  | UpdateAction.watchdogTimeout =>
      some (match system.replies.find? fun reply => some reply.id = system.manager.activeReply with
        | some reply =>
            if system.manager.state = .downloading then system.abort libraries config reply
            else system
        | none => system)
  | UpdateAction.extractionFinished extraction failure package writableRoot =>
      if extraction ∈ system.extractions then
        some (system.onExtractionFinished config extraction failure package writableRoot)
      else none
  | UpdateAction.extractionError extraction started error =>
      if extraction ∈ system.extractions then
        some (system.onExtractionError extraction started error)
      else none

def Step (system next : UpdateSystem) : Prop :=
  ∃ action, act libraries config system action = some next

/-- The manager is made. -/
def Initial (system : UpdateSystem) : Prop :=
  ∃ dismissedVersion, system =
    { manager := {
        state := if config.baseUrl = [] ∨ config.trustedKeys = [] then .disabled else .idle }
      dismissedVersion }

end

end UpdateSystem

end Update
end Driscord
