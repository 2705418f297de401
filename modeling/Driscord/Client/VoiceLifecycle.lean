import Driscord.Client.AppState
import Driscord.Client.ScreenSharing
import Driscord.Library.Custody

/-!
# The voice sessions of the client

`DriscordBridge` starts and stops voice on a pool of one thread, the transport reports its
connection, and a recovery worker replaces the sessions that have failed.  All of them
start and stop the one `voice_session` of `GoogleWebRtcClient`, at the granularity of the
sections under `mutex`; `voice_lifecycle_mutex` is held across several sections.

A session that was started is `live` until it is closed.  Whether `start` succeeds is a
parameter of its section.  The settings of the session and the choice of the devices are
left out: they decide nothing about which session is kept.
-/

namespace Driscord
namespace Client

open Library

/-- Who calls `stop_voice_session`. -/
inductive StopCause where
  | stopVoice
  | disconnected
  | recovery
deriving DecidableEq, Repr

/-- The sections of the calls. -/
inductive LifecycleSection where
  /-- The task of `audioStart`, up to the call of `voice_start`. -/
  | audioStart (generation : Nat)
  /-- The beginning of `start_voice`. -/
  | requestVoice
  /-- The beginning of `stop_voice`. -/
  | forgetVoice
  /-- The transport changes its state and calls `on_signaling_state`. -/
  | onSignalingState (connected : Bool)
  /-- `start_voice_if_requested`: take `voice_lifecycle_mutex`, look at the state. -/
  | checkVoice
  /-- `next->start()`. -/
  | startSession
  /-- Keep the new session, unless something has changed. -/
  | retainSession (session : SessionId)
  /-- `stop_voice_session`: take `voice_lifecycle_mutex`, clear the state. -/
  | clearVoice (cause : StopCause)
  /-- Close a session that is not kept. -/
  | closeSession (session : SessionId)
  /-- `voice_lifecycle_mutex` is released. -/
  | releaseVoice
  /-- `on_state` of a failed session. -/
  | onFailed (session : SessionId)
  | scheduleRecovery (session : SessionId)
  /-- `recover_voice_session`, up to the first call. -/
  | recoverVoice (session : SessionId)
deriving DecidableEq, Repr

/-- What follows after `stop_voice_session`. -/
def StopCause.rest : StopCause → List LifecycleSection
  | recovery => [LifecycleSection.checkVoice]
  | _ => []

/-- The state that the sections share, and the sessions. -/
structure LifecycleClient where
  audioGeneration : Nat := 0
  audioQueue : List AudioTask := []
  voiceRequested : Bool := false
  voiceSession : Option SessionId := none
  voiceLifecycleMutex : Option Nat := none
  connected : Bool := false
  /-- The sessions whose `recovery_scheduled` is set. -/
  recoveryScheduled : Finset SessionId := ∅
  recoveryQueue : List SessionId := []
  recoveryStopping : Bool := false
  created : Nat := 0
  live : Multiset SessionId := 0
  /-- What `next->start()` has returned. -/
  startResults : List Bool := []
  /-- The sessions whose recovery has begun. -/
  recovered : List SessionId := []

namespace LifecycleClient

open LifecycleSection

/-- A session can be started or kept. -/
def wants (client : LifecycleClient) : Bool :=
  client.voiceRequested && client.voiceSession.isNone && client.connected

/-- Run a section of thread `self`: the new state and the sections called for.  `succeeds`
is the outcome of `next->start()`.  The result is `none` while the lock is taken. -/
def run (client : LifecycleClient) (self : Nat) (succeeds : Bool) :
    LifecycleSection → Option (LifecycleClient × List LifecycleSection)
  | audioStart generation =>
      some (client, if generation = client.audioGeneration then [requestVoice] else [])
  | requestVoice => some ({ client with voiceRequested := true }, [checkVoice])
  | forgetVoice =>
      some ({ client with voiceRequested := false }, [clearVoice StopCause.stopVoice])
  | onSignalingState connected =>
      some ({ client with connected },
        if connected then [checkVoice] else [clearVoice StopCause.disconnected])
  | checkVoice =>
      if client.voiceLifecycleMutex = none then
        if client.wants then
          some ({ client with voiceLifecycleMutex := some self }, [startSession])
        else some (client, [])
      else none
  | startSession =>
      if succeeds then
        some ({ client with
            created := client.created + 1
            live := client.created ::ₘ client.live
            startResults := client.startResults ++ [true] },
          [retainSession client.created])
      else
        some ({ client with startResults := client.startResults ++ [false] }, [releaseVoice])
  | retainSession session =>
      if client.wants then
        some ({ client with voiceSession := some session }, [releaseVoice])
      else some (client, [closeSession session])
  | clearVoice cause =>
      if client.voiceLifecycleMutex = none then
        some ({ client with voiceLifecycleMutex := some self, voiceSession := none },
          match client.voiceSession with
          | some session => closeSession session :: cause.rest
          | none => releaseVoice :: cause.rest)
      else none
  | closeSession session =>
      some ({ client with
        live := client.live.erase session
        voiceLifecycleMutex := none }, [])
  | releaseVoice => some ({ client with voiceLifecycleMutex := none }, [])
  | onFailed session =>
      if session ∈ client.recoveryScheduled then some (client, [])
      else
        some ({ client with recoveryScheduled := insert session client.recoveryScheduled },
          [scheduleRecovery session])
  | scheduleRecovery session =>
      if client.recoveryStopping then some (client, [])
      else some ({ client with recoveryQueue := client.recoveryQueue ++ [session] }, [])
  | recoverVoice session =>
      some (client,
        if client.voiceRequested && decide (client.voiceSession = some session) &&
          client.connected then [clearVoice StopCause.recovery]
        else [])

end LifecycleClient

/-- The client, its calls and the threads that run one task after the other. -/
structure LifecycleSystem where
  client : LifecycleClient := {}
  threads : Pool LifecycleSection := []
  /-- The task of the audio pool. -/
  audioThread : Option Nat := none
  /-- The last report of the transport. -/
  callbackThread : Option Nat := none
  /-- The task of the recovery worker. -/
  recoveryWorker : Option Nat := none
  /-- The user has asked for voice last. -/
  wanted : Bool := false

/-- What may happen next. -/
inductive LifecycleAction where
  | audioStart
  | audioStop
  /-- The audio pool takes its next task. -/
  | takeAudio
  /-- The connection is established or lost. -/
  | report (connected : Bool)
  /-- WebRTC reports that a session has failed. -/
  | fail (session : SessionId)
  /-- `run_recovery`: the worker takes its next task. -/
  | takeRecovery
  | stopRecovery
  /-- Thread `index` runs its next section. -/
  | run (index : Nat) (succeeds : Bool)

/-- The sections of a task. -/
def AudioTask.body : AudioTask → LifecycleSection
  | start generation => LifecycleSection.audioStart generation
  | stop => LifecycleSection.forgetVoice

namespace LifecycleSystem

/-- Begin a thread. -/
def spawn (system : LifecycleSystem) (item : LifecycleSection) : LifecycleSystem :=
  { system with threads := system.threads ++ [[item]] }

/-- A thread that runs one task after the other is through with its last one. -/
def Idle (system : LifecycleSystem) (executor : Option Nat) : Prop :=
  ∀ index ∈ executor, system.threads[index]? = some []

instance (system : LifecycleSystem) (executor : Option Nat) : Decidable (system.Idle executor) :=
  inferInstanceAs (Decidable (∀ index ∈ executor, _))

/-- Do an action, if it is possible. -/
def act (system : LifecycleSystem) : LifecycleAction → Option LifecycleSystem
  | LifecycleAction.audioStart =>
      let generation := system.client.audioGeneration + 1
      some { system with
        wanted := true
        client :=
          { system.client with
            audioGeneration := generation
            audioQueue := system.client.audioQueue ++ [AudioTask.start generation] } }
  | LifecycleAction.audioStop =>
      some { system with
        wanted := false
        client :=
          { system.client with
            audioGeneration := system.client.audioGeneration + 1
            audioQueue := system.client.audioQueue ++ [AudioTask.stop] } }
  | LifecycleAction.takeAudio =>
      match system.client.audioQueue with
      | [] => none
      | task :: rest =>
          if system.Idle system.audioThread then
            some { system.spawn task.body with
              audioThread := some system.threads.length
              client := { system.client with audioQueue := rest } }
          else none
  | LifecycleAction.report connected =>
      some { system.spawn (LifecycleSection.onSignalingState connected) with
        callbackThread := some system.threads.length }
  | LifecycleAction.fail session =>
      if session < system.client.created then
        some (system.spawn (LifecycleSection.onFailed session))
      else none
  | LifecycleAction.takeRecovery =>
      match system.client.recoveryQueue with
      | [] => none
      | session :: rest =>
          if system.Idle system.recoveryWorker then
            some { system.spawn (LifecycleSection.recoverVoice session) with
              recoveryWorker := some system.threads.length
              client :=
                { system.client with
                  recoveryQueue := rest
                  recovered := system.client.recovered ++ [session] } }
          else none
  | LifecycleAction.stopRecovery =>
      some { system with
        client := { system.client with recoveryStopping := true, recoveryQueue := [] } }
  | LifecycleAction.run index succeeds =>
      match system.threads[index]? with
      | some (head :: rest) =>
          (system.client.run index succeeds head).map fun result =>
            { system with
              client := result.1
              threads := system.threads.set index (result.2 ++ rest) }
      | _ => none

/-- One step of any interleaving. -/
def Step (system next : LifecycleSystem) : Prop :=
  ∃ action, system.act action = some next

/-- The transport reports one change after the other. -/
def Orderly (system : LifecycleSystem) : LifecycleAction → Prop
  | LifecycleAction.report _ => system.Idle system.callbackThread
  | _ => True

instance (system : LifecycleSystem) (action : LifecycleAction) :
    Decidable (system.Orderly action) := by
  cases action <;> unfold Orderly <;> infer_instance

/-- One step of an interleaving in which the reports of the transport do not overlap. -/
def OrderlyStep (system next : LifecycleSystem) : Prop :=
  ∃ action, system.Orderly action ∧ system.act action = some next

/-- The client as it is created. -/
def Initial (system : LifecycleSystem) : Prop :=
  system = {}

/-- All calls have returned and all tasks of the audio pool have run. -/
def Quiet (system : LifecycleSystem) : Prop :=
  Pool.Quiet system.threads ∧ system.client.audioQueue = []

instance (system : LifecycleSystem) : Decidable system.Quiet :=
  inferInstanceAs (Decidable (_ ∧ _))

end LifecycleSystem

end Client
end Driscord
