import Driscord.Client.TransportSystem

/-!
# The connection state of the transport

A callback whose socket stops being current between its check and what it does next
can set the flag of another connection, leave peers behind a closed one, or tell the
listeners of a connection that is already over.  This module shows that nothing else
goes wrong.

`Careful` names the steps at which such a callback, or a `connect` that was overtaken,
would act.  The invariant `Coherent` keeps for every value that is out of date the call
that is still going to correct it.

Main results:

- Theorem `Coherent.step`: careful steps keep the invariant.
- Theorem `connection_consistent`: once all calls are done the flag, the socket, the
  peers and the listeners agree.
-/

namespace Driscord
namespace Client

open Library Library.Pool Signaling

namespace TransportSystem

/-! ## What is still going to happen -/

/-- Sections that lead to empty peers. -/
def clears (notified : Finset SocketId) : TransportSection → Bool
  | TransportSection.exchangeConnected | TransportSection.releaseSocket _
  | TransportSection.clearPeers => true
  | TransportSection.notifyOnce socket => socket ∉ notified
  | _ => false

/-- Sections that lead to an empty local id. -/
def forgets (ws : Option SocketId) : TransportSection → Bool
  | TransportSection.exchangeConnected | TransportSection.releaseSocket _ => true
  | TransportSection.resetSocket socket | TransportSection.forgetId socket => ws = some socket
  | _ => false

/-- Sections that lead to a listener being told that the connection is over. -/
def silences (notified : Finset SocketId) (listener : Nat) : TransportSection → Bool
  | TransportSection.releaseSocket wasConnected => wasConnected
  | TransportSection.notifyOnce socket => socket ∉ notified
  | TransportSection.tell other connected => other = listener ∧ connected = false
  | _ => false

/-- Sections that lead to the flag being taken back for a socket. -/
def drops (socket : SocketId) : TransportSection → Bool
  | TransportSection.checkError other | TransportSection.checkClosed other
  | TransportSection.exchangeClosed other | TransportSection.storeDisconnected other =>
      other = socket
  | _ => false

/-- Sections that lead to the flag being set for a socket, or to its release. -/
def opens (socket : SocketId) : TransportSection → Bool
  | TransportSection.checkOpened other | TransportSection.markConnected other =>
      other = socket
  | TransportSection.releaseSocket _ => true
  | _ => false

/-- Sections that lead to the release of the socket. -/
def releases : TransportSection → Bool
  | TransportSection.exchangeConnected | TransportSection.releaseSocket _ => true
  | _ => false

/-! ## Careful steps -/

/-- A section acts on what it has checked, or what it does is going to be undone. -/
def CarefulSection (system : TransportSystem) : TransportSection → Prop
  | TransportSection.markConnected socket =>
      system.transport.ws = some socket ∧ socket ∉ system.dropped
  | TransportSection.exchangeClosed socket | TransportSection.storeDisconnected socket =>
      system.transport.ws = some socket ∨ system.transport.wsConnected = false
  | TransportSection.releaseSocket _ => system.transport.wsConnected = false
  | TransportSection.installSocket =>
      system.transport.wsConnected = false ∧ system.disconnectedLast = false ∧
        (system.transport.ws = none ∨ system.transport.localId = ⟨[]⟩)
  | TransportSection.apply (TransportUpdate.storeLocalId _) =>
      system.transport.wsConnected = true ∨
        Owes (forgets system.transport.ws) system.threads
  | TransportSection.apply (TransportUpdate.insertPeer _) =>
      system.transport.wsConnected = true ∨ Owes (clears system.notified) system.threads
  | TransportSection.tell listener true =>
      system.transport.wsConnected = true ∨
        Owes (silences system.notified listener) system.threads
  | _ => True

instance (system : TransportSystem) : DecidablePred system.CarefulSection := fun item => by
  unfold CarefulSection
  split <;> infer_instance

/-- Only careful sections run. -/
def Careful (system : TransportSystem) : TransportAction → Prop
  | TransportAction.call _ => True
  | TransportAction.run index =>
      ∀ head ∈ system.threads[index]?.bind List.head?, system.CarefulSection head

instance (system : TransportSystem) : DecidablePred system.Careful := fun action => by
  unfold Careful
  split <;> infer_instance

def CarefulStep (system next : TransportSystem) : Prop :=
  ∃ action, system.Careful action ∧ act system action = some next

/-! ## The invariant -/

/-- What a pending section says of its socket. -/
def Known (system : TransportSystem) : TransportSection → Prop
  | TransportSection.checkOpened socket | TransportSection.markConnected socket =>
      socket ∈ system.opened
  | TransportSection.checkClosed socket | TransportSection.checkError socket
  | TransportSection.exchangeClosed socket | TransportSection.storeDisconnected socket =>
      socket ∈ system.failed
  | TransportSection.resetSocket socket | TransportSection.forgetId socket
  | TransportSection.notifyOnce socket => socket ∈ system.dropped
  | _ => True

structure Coherent (system : TransportSystem) : Prop where
  made : ∀ socket, socket ∈ system.opened ∨ socket ∈ system.failed → socket < system.sockets
  hasFailed : system.dropped ⊆ system.failed
  hasDropped : system.notified ⊆ system.dropped
  known : ∀ item, Pending system.threads item → system.Known item
  /-- The flag is set for the current socket. -/
  current : system.transport.wsConnected = true →
    ∃ socket ∈ system.opened, system.transport.ws = some socket ∧ socket ∉ system.dropped
  failing : ∀ socket ∈ system.failed, system.transport.ws = some socket →
    socket ∈ system.dropped ∨ Owes (drops socket) system.threads
  opening : ∀ socket ∈ system.opened, system.transport.ws = some socket →
    system.transport.wsConnected = true ∨ socket ∈ system.dropped ∨
      Owes (opens socket) system.threads
  peers : system.transport.wsConnected = false →
    system.transport.peers = ∅ ∨ Owes (clears system.notified) system.threads
  localId : system.transport.wsConnected = false →
    system.transport.localId = ⟨[]⟩ ∨ Owes (forgets system.transport.ws) system.threads
  heard : ∀ listener < system.listeners, system.heard listener = some true →
    system.transport.wsConnected = true ∨
      Owes (silences system.notified listener) system.threads
  released : system.disconnectedLast = true →
    system.transport.ws = none ∨ Owes releases system.threads

theorem coherent_initial {system : TransportSystem} (h : Initial system) : Coherent system := by
  rcases h with ⟨listeners, rfl⟩
  refine ⟨?_, ?_, ?_, ?_, ?_, ?_, ?_, ?_, ?_, ?_, ?_⟩ <;> simp [Pending]

/-! ## Calls -/

/-- A new thread, with what it makes known. -/
def spawned (system : TransportSystem) (thread : List TransportSection)
    (opened failed : Finset SocketId) (last : Bool) : TransportSystem where
  transport := system.transport
  listeners := system.listeners
  sockets := system.sockets
  notified := system.notified
  threads := system.threads ++ [thread]
  heard := system.heard
  opened := opened
  failed := failed
  dropped := system.dropped
  disconnectedLast := last

theorem Coherent.spawned {system : TransportSystem} (h : Coherent system)
    {thread : List TransportSection} {opened failed : Finset SocketId} {last : Bool}
    (hopened : system.opened ⊆ opened) (hfailed : system.failed ⊆ failed)
    (hmade : ∀ socket, socket ∈ opened ∨ socket ∈ failed → socket < system.sockets)
    (hknown : ∀ item ∈ thread, (system.spawned thread opened failed last).Known item)
    (hfailing : ∀ socket ∈ failed, socket ∉ system.failed → thread.any (drops socket) = true)
    (hopening : ∀ socket ∈ opened, socket ∉ system.opened → thread.any (opens socket) = true)
    (hlast : last = true → system.disconnectedLast = true ∨ thread.any releases = true) :
    Coherent (system.spawned thread opened failed last) where
  made := hmade
  hasFailed := h.hasFailed.trans hfailed
  hasDropped := h.hasDropped
  known item hpending := by
    rcases pending_of_spawn hpending with hold | hnew
    · have hitem := h.known item hold
      cases item with
      | checkOpened socket | markConnected socket => exact hopened hitem
      | checkClosed socket | checkError socket | exchangeClosed socket
      | storeDisconnected socket => exact hfailed hitem
      | _ => exact hitem
    · exact hknown item hnew
  current hflag := by
    obtain ⟨socket, hsocket, hws, hkept⟩ := h.current hflag
    exact ⟨socket, hopened hsocket, hws, hkept⟩
  failing socket hsocket hws := by
    by_cases hold : socket ∈ system.failed
    · exact (h.failing socket hold hws).imp id fun howes => howes.spawn thread
    · refine Or.inr ⟨thread, ?_, hfailing socket hsocket hold⟩
      exact List.mem_append_right _ (List.mem_singleton_self _)
  opening socket hsocket hws := by
    by_cases hold : socket ∈ system.opened
    · exact (h.opening socket hold hws).imp id (Or.imp id fun howes => howes.spawn thread)
    · refine Or.inr (Or.inr ⟨thread, ?_, hopening socket hsocket hold⟩)
      exact List.mem_append_right _ (List.mem_singleton_self _)
  peers hflag := (h.peers hflag).imp id fun howes => howes.spawn thread
  localId hflag := (h.localId hflag).imp id fun howes => howes.spawn thread
  heard listener hlt hheard :=
    (h.heard listener hlt hheard).imp id fun howes => howes.spawn thread
  released hdisconnected := by
    rcases hlast hdisconnected with hold | hnew
    · exact (h.released hold).imp id fun howes => howes.spawn thread
    · refine Or.inr ⟨thread, ?_, hnew⟩
      exact List.mem_append_right _ (List.mem_singleton_self _)

theorem Coherent.begin {system : TransportSystem} (h : Coherent system) {call : TransportCall}
    (hpossible : system.possible call = true) : Coherent (system.begin call) := by
  cases call with
  | connect created =>
      apply h.spawned subset_rfl subset_rfl h.made
      · intro item hmem
        cases created
        · rw [List.mem_singleton.mp hmem]
          trivial
        · rcases List.mem_pair.mp hmem with rfl | rfl <;> trivial
      · exact fun socket hsocket hnew => (hnew hsocket).elim
      · exact fun socket hsocket hnew => (hnew hsocket).elim
      · intro hlast
        contradiction
  | disconnect =>
      apply h.spawned subset_rfl subset_rfl h.made
      · intro item hmem
        rw [List.mem_singleton.mp hmem]
        trivial
      · exact fun socket hsocket hnew => (hnew hsocket).elim
      · exact fun socket hsocket hnew => (hnew hsocket).elim
      · exact fun _ => Or.inr rfl
  | opened socket =>
      apply h.spawned (Finset.subset_insert _ _) subset_rfl
      · intro other hother
        rw [Finset.mem_insert, or_assoc] at hother
        rcases hother with rfl | hother
        · exact of_decide_eq_true hpossible
        · exact h.made other hother
      · intro item hmem
        rw [List.mem_singleton.mp hmem]
        exact Finset.mem_insert_self _ _
      · exact fun socket hsocket hnew => (hnew hsocket).elim
      · intro other hother hnew
        have hsame := (Finset.mem_insert.mp hother).resolve_right hnew
        simp [TransportCall.sections, opens, hsame]
      · exact Or.inl
  | message socket raw =>
      apply h.spawned subset_rfl subset_rfl h.made
      · intro item hmem
        rw [List.mem_singleton.mp hmem]
        trivial
      · exact fun socket hsocket hnew => (hnew hsocket).elim
      · exact fun socket hsocket hnew => (hnew hsocket).elim
      · exact Or.inl
  | error socket | closed socket =>
      apply h.spawned subset_rfl (Finset.subset_insert _ _)
      · intro other hother
        rw [Finset.mem_insert, or_left_comm] at hother
        rcases hother with rfl | hother
        · exact of_decide_eq_true hpossible
        · exact h.made other hother
      · intro item hmem
        rw [List.mem_singleton.mp hmem]
        exact Finset.mem_insert_self _ _
      · intro other hother hnew
        have hsame := (Finset.mem_insert.mp hother).resolve_right hnew
        simp [TransportCall.sections, drops, hsame]
      · exact fun socket hsocket hnew => (hnew hsocket).elim
      · exact Or.inl

/-! ## Sections -/

@[simp]
theorem opened_runSection (system : TransportSystem) (item : TransportSection) :
    (system.runSection item).1.opened = system.opened := by
  unfold runSection
  split <;> (try split) <;> rfl

@[simp]
theorem failed_runSection (system : TransportSystem) (item : TransportSection) :
    (system.runSection item).1.failed = system.failed := by
  unfold runSection
  split <;> (try split) <;> rfl

@[simp]
theorem listeners_runSection (system : TransportSystem) (item : TransportSection) :
    (system.runSection item).1.listeners = system.listeners := by
  unfold runSection
  split <;> (try split) <;> rfl

@[simp]
theorem disconnectedLast_runSection (system : TransportSystem) (item : TransportSection) :
    (system.runSection item).1.disconnectedLast = system.disconnectedLast := by
  unfold runSection
  split <;> (try split) <;> rfl

theorem sockets_le_runSection (system : TransportSystem) (item : TransportSection) :
    system.sockets ≤ (system.runSection item).1.sockets := by
  unfold runSection
  split <;> (try split) <;> first | exact le_rfl | exact Nat.le_succ _

theorem dropped_subset_runSection (system : TransportSystem) (item : TransportSection) :
    system.dropped ⊆ (system.runSection item).1.dropped := by
  unfold runSection
  split <;> (try split) <;> first | exact subset_rfl | exact Finset.subset_insert _ _

theorem any_tellAll {listeners listener : Nat} (hlt : listener < listeners)
    (notified : Finset SocketId) :
    (tellAll listeners false).any (silences notified listener) = true := by
  rw [List.any_eq_true]
  refine ⟨TransportSection.tell listener false, ?_, by simp [silences]⟩
  exact List.mem_map_of_mem (List.mem_range.mpr hlt)

section

variable {system : TransportSystem} {index : Nat} {head : TransportSection}
variable {rest : List TransportSection}

/-- The state after thread `index` has run its section `head`. -/
def after (system : TransportSystem) (index : Nat) (head : TransportSection)
    (rest : List TransportSection) : TransportSystem :=
  { (system.runSection head).1 with
    threads := system.threads.set index ((system.runSection head).2 ++ rest) }

/-- While the flag is set, a section that takes it back belongs to the socket that
set it, and that socket has not been given up before. -/
theorem Coherent.fresh_of_connected (h : Coherent system) {socket : SocketId}
    (hcareful : system.transport.ws = some socket ∨ system.transport.wsConnected = false)
    (hflag : system.transport.wsConnected = true) : socket ∉ system.notified := by
  obtain ⟨other, -, hws, hkept⟩ := h.current hflag
  have hsame : system.transport.ws = some socket :=
    hcareful.resolve_right (by rw [hflag]; exact Bool.noConfusion)
  rw [hws, Option.some.injEq] at hsame
  exact fun hmem => hkept (hsame ▸ h.hasDropped hmem)

variable (h : Coherent system) (hhead : system.threads[index]? = some (head :: rest))
include h hhead

theorem Coherent.known_after (item : TransportSection)
    (hpending : Pending (system.after index head rest).threads item) :
    (system.after index head rest).Known item := by
  have hopened : (system.after index head rest).opened = system.opened :=
    opened_runSection system head
  have hfailed : (system.after index head rest).failed = system.failed :=
    failed_runSection system head
  have hdropped : system.dropped ⊆ (system.after index head rest).dropped :=
    dropped_subset_runSection system head
  have hmono : ∀ other, system.Known other → (system.after index head rest).Known other := by
    intro other hother
    cases other with
    | checkOpened socket | markConnected socket =>
        rw [Known, hopened]
        exact hother
    | checkClosed socket | checkError socket | exchangeClosed socket
    | storeDisconnected socket =>
        rw [Known, hfailed]
        exact hother
    | resetSocket socket | forgetId socket | notifyOnce socket => exact hdropped hother
    | _ => trivial
  have htell : ∀ connected, item ∈ tellAll system.listeners connected →
      (system.after index head rest).Known item := by
    intro connected hmem
    rcases List.mem_map.mp hmem with ⟨listener, -, rfl⟩
    trivial
  have hknown := h.known head (pending_head hhead)
  rcases pending_of_run hhead hpending with hold | hnew
  · exact hmono item (h.known item hold)
  · cases head with
    | exchangeConnected =>
        rw [List.mem_singleton.mp hnew]
        trivial
    | releaseSocket wasConnected =>
        rcases List.mem_append.mp hnew with hmem | hmem
        · rcases List.mem_pair.mp hmem with rfl | rfl <;> trivial
        · cases wasConnected
          · exact absurd hmem List.not_mem_nil
          · exact htell false hmem
    | checkOpened socket | checkClosed socket | checkError socket =>
        simp only [runSection] at hnew
        split at hnew
        · rw [List.mem_singleton.mp hnew]
          exact hmono _ hknown
        · exact absurd hnew List.not_mem_nil
    | markConnected socket => exact htell true hnew
    | exchangeClosed socket | storeDisconnected socket =>
        rcases List.mem_pair.mp hnew with rfl | rfl <;> exact Finset.mem_insert_self _ _
    | notifyOnce socket =>
        simp only [runSection] at hnew
        split at hnew
        · exact absurd hnew List.not_mem_nil
        · rcases List.mem_append.mp hnew with hmem | hmem
          · rcases List.mem_pair.mp hmem with rfl | rfl <;> trivial
          · exact htell false hmem
    | checkMessage socket updates =>
        simp only [runSection] at hnew
        split at hnew
        · rcases List.mem_map.mp hnew with ⟨update, -, rfl⟩
          trivial
        · exact absurd hnew List.not_mem_nil
    | _ => exact absurd hnew List.not_mem_nil

variable (hcareful : system.CarefulSection head)
include hcareful

theorem Coherent.current_after
    (hflag : (system.after index head rest).transport.wsConnected = true) :
    ∃ socket ∈ (system.after index head rest).opened,
      (system.after index head rest).transport.ws = some socket ∧
        socket ∉ (system.after index head rest).dropped := by
  have hknown := h.known head (pending_head hhead)
  cases head with
  | exchangeConnected | exchangeClosed socket | storeDisconnected socket => contradiction
  | releaseSocket wasConnected =>
      exact absurd (hflag.symm.trans hcareful) Bool.noConfusion
  | installSocket => exact absurd (hflag.symm.trans hcareful.1) Bool.noConfusion
  | markConnected socket => exact ⟨socket, hknown, hcareful.1, hcareful.2⟩
  | resetSocket socket =>
      by_cases hws : system.transport.ws = some socket
      · -- The socket was given up, so it is not the one that set the flag.
        simp only [after, runSection, if_pos hws] at hflag
        obtain ⟨other, -, hother, hkept⟩ := h.current hflag
        rw [hws, Option.some.injEq] at hother
        exact absurd hknown (hother ▸ hkept)
      · simp only [after, runSection, if_neg hws] at hflag ⊢
        exact h.current hflag
  | forgetId socket =>
      by_cases hws : system.transport.ws = some socket
      · simp only [after, runSection, if_pos hws] at hflag ⊢
        exact h.current hflag
      · simp only [after, runSection, if_neg hws] at hflag ⊢
        exact h.current hflag
  | notifyOnce socket =>
      by_cases htold : socket ∈ system.notified
      · simp only [after, runSection, if_pos htold] at hflag ⊢
        exact h.current hflag
      · simp only [after, runSection, if_neg htold] at hflag ⊢
        exact h.current hflag
  | apply update => cases update <;> exact h.current hflag
  | _ => exact h.current hflag

theorem Coherent.failing_after (socket : SocketId)
    (hfailed : socket ∈ (system.after index head rest).failed)
    (hws : (system.after index head rest).transport.ws = some socket) :
    socket ∈ (system.after index head rest).dropped ∨
      Owes (drops socket) (system.after index head rest).threads := by
  rw [after, failed_runSection] at hfailed
  have hdropped := dropped_subset_runSection system head
  -- While the socket stays current, a section that is not its own changes nothing.
  have hkept : system.transport.ws = some socket → drops socket head = false →
      socket ∈ (system.after index head rest).dropped ∨
        Owes (drops socket) (system.after index head rest).threads := by
    intro hbefore hother
    exact (h.failing socket hfailed hbefore).imp (fun hmem => hdropped hmem)
      fun howes => howes.run hhead (by rw [hother]; exact fun hfalse => nomatch hfalse)
  cases head with
  | releaseSocket wasConnected => contradiction
  | installSocket =>
      have hnew : system.sockets = socket := Option.some.inj hws
      exact absurd hnew.symm (h.made socket (Or.inr hfailed)).ne
  | checkClosed other | checkError other =>
      by_cases hsame : other = socket
      · subst hsame
        refine Or.inr (owes_pushed hhead ?_)
        simp only [after, runSection] at hws ⊢
        simp [hws, drops]
      · exact hkept hws (decide_eq_false hsame)
  | exchangeClosed other | storeDisconnected other =>
      by_cases hsame : other = socket
      · exact Or.inl (Finset.mem_insert.mpr (Or.inl hsame.symm))
      · exact hkept hws (decide_eq_false hsame)
  | resetSocket other =>
      by_cases hreset : system.transport.ws = some other
      · simp only [after, runSection, if_pos hreset] at hws
        contradiction
      · simp only [after, runSection, if_neg hreset] at hws
        exact hkept hws rfl
  | forgetId other | notifyOnce other =>
      apply hkept _ rfl
      simp only [after, runSection] at hws
      split at hws <;> exact hws
  | apply update =>
      apply hkept _ rfl
      cases update <;> exact hws
  | _ => exact hkept hws rfl

theorem Coherent.opening_after (socket : SocketId)
    (hopened : socket ∈ (system.after index head rest).opened)
    (hws : (system.after index head rest).transport.ws = some socket) :
    (system.after index head rest).transport.wsConnected = true ∨
      socket ∈ (system.after index head rest).dropped ∨
        Owes (opens socket) (system.after index head rest).threads := by
  rw [after, opened_runSection] at hopened
  have hdropped := dropped_subset_runSection system head
  have hkept : system.transport.ws = some socket →
      (system.runSection head).1.transport.wsConnected = system.transport.wsConnected →
        opens socket head = false →
          (system.after index head rest).transport.wsConnected = true ∨
            socket ∈ (system.after index head rest).dropped ∨
              Owes (opens socket) (system.after index head rest).threads := by
    intro hbefore hflag hother
    exact (h.opening socket hopened hbefore).imp (fun hset => hflag.trans hset)
      (Or.imp (fun hmem => hdropped hmem)
        fun howes => howes.run hhead (by rw [hother]; exact fun hfalse => nomatch hfalse))
  cases head with
  | exchangeConnected => exact Or.inr (Or.inr (owes_pushed hhead rfl))
  | releaseSocket wasConnected => contradiction
  | installSocket =>
      have hnew : system.sockets = socket := Option.some.inj hws
      exact absurd hnew.symm (h.made socket (Or.inl hopened)).ne
  | checkOpened other =>
      by_cases hsame : other = socket
      · subst hsame
        refine Or.inr (Or.inr (owes_pushed hhead ?_))
        simp only [after, runSection] at hws ⊢
        simp [hws, opens]
      · exact hkept hws rfl (decide_eq_false hsame)
  | markConnected other => exact Or.inl rfl
  | exchangeClosed other | storeDisconnected other =>
      rcases hcareful with hcurrent | hflag
      · have hsame : socket = other := Option.some.inj (hws.symm.trans hcurrent)
        exact Or.inr (Or.inl (Finset.mem_insert.mpr (Or.inl hsame)))
      · exact hkept hws hflag.symm rfl
  | resetSocket other =>
      by_cases hreset : system.transport.ws = some other
      · simp only [after, runSection, if_pos hreset] at hws
        contradiction
      · have hframe : (system.runSection (TransportSection.resetSocket other)).1 = system := by
          simp only [runSection, if_neg hreset]
        simp only [after, runSection, if_neg hreset] at hws
        exact hkept hws (by rw [hframe]) rfl
  | forgetId other | notifyOnce other =>
      simp only [after, runSection] at hws
      apply hkept _ _ rfl
      · split at hws <;> exact hws
      · simp only [runSection]
        split <;> rfl
  | apply update =>
      apply hkept _ _ rfl
      · cases update <;> exact hws
      · cases update <;> rfl
  | _ => exact hkept hws rfl rfl

theorem Coherent.peers_after
    (hflag : (system.after index head rest).transport.wsConnected = false) :
    (system.after index head rest).transport.peers = ∅ ∨
      Owes (clears (system.after index head rest).notified)
        (system.after index head rest).threads := by
  have hkept : system.transport.wsConnected = false →
      clears system.notified head = false →
        system.transport.peers = ∅ ∨
          Owes (clears system.notified) (system.after index head rest).threads := by
    intro hbefore hother
    exact (h.peers hbefore).imp id
      fun howes => howes.run hhead (by rw [hother]; exact fun hfalse => nomatch hfalse)
  cases head with
  | exchangeConnected => exact Or.inr (owes_pushed hhead rfl)
  | releaseSocket wasConnected =>
      refine Or.inr (owes_pushed hhead ?_)
      simp [runSection, clears]
  | clearPeers => exact Or.inl rfl
  | markConnected socket => contradiction
  | exchangeClosed socket | storeDisconnected socket =>
      by_cases hbefore : system.transport.wsConnected = true
      · have hfresh := h.fresh_of_connected hcareful hbefore
        refine Or.inr (owes_pushed hhead ?_)
        simp [runSection, clears, after, hfresh]
      · exact hkept (Bool.eq_false_iff.mpr hbefore) rfl
  | resetSocket socket | forgetId socket =>
      simp only [after, runSection] at hflag ⊢
      split at hflag
      · rename_i hws
        simp only [if_pos hws]
        exact hkept hflag rfl
      · rename_i hws
        simp only [if_neg hws]
        exact hkept hflag rfl
  | notifyOnce socket =>
      by_cases htold : socket ∈ system.notified
      · simp only [after, runSection, if_pos htold] at hflag ⊢
        have howes := hkept hflag (decide_eq_false (not_not.mpr htold))
        simpa only [after, runSection, if_pos htold] using howes
      · refine Or.inr (owes_pushed hhead ?_)
        simp [runSection, htold, clears]
  | apply update =>
      cases update with
      | insertPeer peer =>
          rcases hcareful with hset | howes
          · exact absurd (hset.symm.trans hflag) Bool.noConfusion
          · exact Or.inr (howes.run hhead fun hfalse => nomatch hfalse)
      | erasePeer peer =>
          refine (hkept hflag rfl).imp (fun hempty => ?_) id
          simp [after, runSection, Transport.update, hempty]
      | _ => exact hkept hflag rfl
  | _ => exact hkept hflag rfl

theorem Coherent.localId_after
    (hflag : (system.after index head rest).transport.wsConnected = false) :
    (system.after index head rest).transport.localId = ⟨[]⟩ ∨
      Owes (forgets (system.after index head rest).transport.ws)
        (system.after index head rest).threads := by
  have hkept : system.transport.wsConnected = false →
      forgets system.transport.ws head = false →
        system.transport.localId = ⟨[]⟩ ∨
          Owes (forgets system.transport.ws) (system.after index head rest).threads := by
    intro hbefore hother
    exact (h.localId hbefore).imp id
      fun howes => howes.run hhead (by rw [hother]; exact fun hfalse => nomatch hfalse)
  cases head with
  | exchangeConnected => exact Or.inr (owes_pushed hhead rfl)
  | releaseSocket wasConnected => exact Or.inl rfl
  | installSocket =>
      rcases hcareful.2.2 with hnone | hempty
      · refine (hkept hflag rfl).imp id fun howes => howes.mono fun item hitem => ?_
        -- Without a socket, only a `disconnect` is due, and it clears any id.
        rw [hnone] at hitem
        cases item with
        | exchangeConnected | releaseSocket wasConnected => rfl
        | resetSocket socket | forgetId socket => exact absurd hitem (by simp [forgets])
        | _ => contradiction
      · exact Or.inl hempty
  | markConnected socket => contradiction
  | exchangeClosed socket | storeDisconnected socket =>
      rcases hcareful with hws | hbefore
      · refine Or.inr (owes_pushed hhead ?_)
        simp [runSection, forgets, after, hws]
      · exact hkept hbefore rfl
  | resetSocket socket =>
      by_cases hws : system.transport.ws = some socket
      · refine Or.inl ?_
        simp only [after, runSection, if_pos hws]
      · simp only [after, runSection, if_neg hws] at hflag ⊢
        simpa only [after, runSection, if_neg hws] using hkept hflag (decide_eq_false hws)
  | forgetId socket =>
      by_cases hws : system.transport.ws = some socket
      · refine Or.inl ?_
        simp only [after, runSection, if_pos hws]
      · simp only [after, runSection, if_neg hws] at hflag ⊢
        simpa only [after, runSection, if_neg hws] using hkept hflag (decide_eq_false hws)
  | notifyOnce socket =>
      by_cases htold : socket ∈ system.notified
      · simp only [after, runSection, if_pos htold] at hflag ⊢
        simpa only [after, runSection, if_pos htold] using hkept hflag rfl
      · simp only [after, runSection, if_neg htold] at hflag ⊢
        simpa only [after, runSection, if_neg htold] using hkept hflag rfl
  | apply update =>
      cases update with
      | storeLocalId peer =>
          rcases hcareful with hset | howes
          · exact absurd (hset.symm.trans hflag) Bool.noConfusion
          · exact Or.inr (howes.run hhead fun hfalse => nomatch hfalse)
      | _ => exact hkept hflag rfl
  | _ => exact hkept hflag rfl

theorem Coherent.heard_after (listener : Nat)
    (hlt : listener < (system.after index head rest).listeners)
    (htold : (system.after index head rest).heard listener = some true) :
    (system.after index head rest).transport.wsConnected = true ∨
      Owes (silences (system.after index head rest).notified listener)
        (system.after index head rest).threads := by
  rw [after, listeners_runSection] at hlt
  have hkept : system.heard listener = some true →
      silences system.notified listener head = false →
        system.transport.wsConnected = true ∨
          Owes (silences system.notified listener)
            (system.after index head rest).threads := by
    intro hbefore hother
    exact (h.heard listener hlt hbefore).imp id
      fun howes => howes.run hhead (by rw [hother]; exact fun hfalse => nomatch hfalse)
  cases head with
  | exchangeConnected =>
      rcases hkept htold rfl with hset | howes
      · exact Or.inr (owes_pushed hhead (by simp [runSection, silences, hset]))
      · exact Or.inr howes
  | releaseSocket wasConnected =>
      cases wasConnected with
      | false => exact hkept htold rfl
      | true =>
          refine Or.inr (owes_pushed hhead ?_)
          rw [runSection, List.any_append, Bool.or_eq_true]
          exact Or.inr (any_tellAll hlt _)
  | markConnected socket => exact Or.inl rfl
  | exchangeClosed socket | storeDisconnected socket =>
      rcases hkept htold rfl with hset | howes
      · have hfresh := h.fresh_of_connected hcareful hset
        refine Or.inr (owes_pushed hhead ?_)
        simp [runSection, silences, after, hfresh]
      · exact Or.inr howes
  | resetSocket socket | forgetId socket =>
      simp only [after, runSection] at htold ⊢
      split at htold
      · rename_i hws
        simp only [if_pos hws]
        exact hkept htold rfl
      · rename_i hws
        simp only [if_neg hws]
        exact hkept htold rfl
  | notifyOnce socket =>
      by_cases hnotified : socket ∈ system.notified
      · simp only [after, runSection, if_pos hnotified] at htold ⊢
        have howes := hkept htold (decide_eq_false (not_not.mpr hnotified))
        simpa only [after, runSection, if_pos hnotified] using howes
      · refine Or.inr (owes_pushed hhead ?_)
        simp only [runSection, if_neg hnotified, List.any_append, Bool.or_eq_true]
        exact Or.inr (any_tellAll hlt _)
  | tell other connected =>
      by_cases hsame : listener = other
      · subst hsame
        have hconnected : connected = true := by
          simpa [after, runSection] using htold
        subst hconnected
        refine hcareful.imp id fun howes => howes.run hhead ?_
        simp [silences]
      · apply hkept
        · simpa [after, runSection, Function.update_of_ne hsame] using htold
        · simp [silences, Ne.symm hsame]
  | apply update => cases update <;> exact hkept htold rfl
  | _ => exact hkept htold rfl

theorem Coherent.released_after
    (hlast : (system.after index head rest).disconnectedLast = true) :
    (system.after index head rest).transport.ws = none ∨
      Owes releases (system.after index head rest).threads := by
  rw [after, disconnectedLast_runSection] at hlast
  have hkept : releases head = false →
      system.transport.ws = none ∨ Owes releases (system.after index head rest).threads := by
    intro hother
    exact (h.released hlast).imp id
      fun howes => howes.run hhead (by rw [hother]; exact fun hfalse => nomatch hfalse)
  cases head with
  | exchangeConnected => exact Or.inr (owes_pushed hhead rfl)
  | releaseSocket wasConnected => exact Or.inl rfl
  | installSocket => exact absurd (hlast.symm.trans hcareful.2.1) Bool.noConfusion
  | resetSocket socket =>
      by_cases hws : system.transport.ws = some socket
      · refine Or.inl ?_
        simp only [after, runSection, if_pos hws]
      · simp only [after, runSection, if_neg hws]
        simpa only [after, runSection, if_neg hws] using hkept rfl
  | forgetId socket =>
      refine (hkept rfl).imp (fun hnone => ?_) id
      simp only [after, runSection]
      split <;> exact hnone
  | notifyOnce socket =>
      refine (hkept rfl).imp (fun hnone => ?_) id
      simp only [after, runSection]
      split <;> exact hnone
  | apply update => cases update <;> exact hkept rfl
  | _ => exact hkept rfl

theorem Coherent.run : Coherent (system.after index head rest) where
  made socket hsocket := by
    rw [after, opened_runSection, failed_runSection] at hsocket
    exact (h.made socket hsocket).trans_le (sockets_le_runSection system head)
  hasFailed := by
    rw [after, failed_runSection]
    have hknown := h.known head (pending_head hhead)
    cases head with
    | exchangeClosed socket | storeDisconnected socket =>
        exact Finset.insert_subset hknown h.hasFailed
    | resetSocket socket | forgetId socket | notifyOnce socket =>
        simp only [runSection]
        split <;> exact h.hasFailed
    | _ => exact h.hasFailed
  hasDropped := by
    have hknown := h.known head (pending_head hhead)
    cases head with
    | exchangeClosed socket | storeDisconnected socket =>
        exact h.hasDropped.trans (Finset.subset_insert _ _)
    | resetSocket socket | forgetId socket =>
        simp only [after, runSection]
        split <;> exact h.hasDropped
    | notifyOnce socket =>
        simp only [after, runSection]
        split
        · exact h.hasDropped
        · exact Finset.insert_subset hknown h.hasDropped
    | _ => exact h.hasDropped
  known := h.known_after hhead
  current := h.current_after hhead hcareful
  failing := h.failing_after hhead hcareful
  opening := h.opening_after hhead hcareful
  peers := h.peers_after hhead hcareful
  localId := h.localId_after hhead hcareful
  heard := h.heard_after hhead hcareful
  released := h.released_after hhead hcareful

end

/-- Careful steps keep the invariant. -/
theorem Coherent.step {system next : TransportSystem} (h : Coherent system)
    (hstep : CarefulStep system next) : Coherent next := by
  rcases hstep with ⟨action, hcareful, hact⟩
  rcases act_cases hact with ⟨call, rfl, hpossible, rfl⟩ | ⟨index, head, rest, rfl, hhead, rfl⟩
  · exact h.begin hpossible
  · refine h.run hhead (hcareful head ?_)
    simp [hhead]

/-! ## Consistency -/

/-- What holds of the transport between calls. -/
structure Consistent (system : TransportSystem) : Prop where
  connected : system.transport.wsConnected = true ↔
    ∃ socket, system.transport.ws = some socket ∧ socket ∈ system.opened ∧
      socket ∉ system.failed
  empty : system.transport.wsConnected = false →
    system.transport.peers = ∅ ∧ system.transport.localId = ⟨[]⟩
  told : system.disconnectedLast = true →
    ∀ listener < system.listeners, ∀ event ∈ system.heard listener, event = false

/-- Once all calls are done, the flag, the socket, the peers and the listeners agree. -/
theorem connection_consistent {system : TransportSystem}
    (h : Reachable Initial CarefulStep system) (hquiet : Quiet system.threads) :
    Consistent system := by
  have hcoherent : Coherent system :=
    h.invariant (fun _ => coherent_initial) fun _ _ _ hbefore hstep => hbefore.step hstep
  have hdone : ∀ {p : TransportSection → Bool}, ¬ Owes p system.threads := hquiet.not_owes
  refine ⟨⟨?_, ?_⟩, ?_, ?_⟩
  · intro hflag
    obtain ⟨socket, hopened, hws, hkept⟩ := hcoherent.current hflag
    refine ⟨socket, hws, hopened, fun hfailed => ?_⟩
    exact (hcoherent.failing socket hfailed hws).elim hkept hdone
  · rintro ⟨socket, hws, hopened, hkept⟩
    rcases hcoherent.opening socket hopened hws with hflag | hdropped | howes
    · exact hflag
    · exact absurd (hcoherent.hasFailed hdropped) hkept
    · exact absurd howes hdone
  · intro hflag
    exact ⟨(hcoherent.peers hflag).resolve_right hdone,
      (hcoherent.localId hflag).resolve_right hdone⟩
  · intro hlast listener hlt event hevent
    cases event with
    | false => rfl
    | true =>
        have hflag := (hcoherent.heard listener hlt hevent).resolve_right hdone
        obtain ⟨socket, -, hws, -⟩ := hcoherent.current hflag
        rw [(hcoherent.released hlast).resolve_right hdone] at hws
        contradiction

/-! ## A connection -/

/-- Connect, and hear of the connection. -/
def openActions : List TransportAction :=
  TransportAction.call (TransportCall.connect true) :: List.replicate 5 (TransportAction.run 0) ++
    TransportAction.call (TransportCall.opened 0) :: List.replicate 3 (TransportAction.run 1)

/-- A peer joins. -/
def joinActions : List TransportAction :=
  TransportAction.call (TransportCall.message 0
    (some (encode (Message.peerJoined ⟨[98]⟩ ⟨[]⟩)))) :: List.replicate 3 (TransportAction.run 2)

def joined : TransportSystem :=
  (execute Careful act { listeners := 1 } (openActions ++ joinActions)).getD {}

theorem reachable_joined : Reachable Initial CarefulStep joined :=
  Reachable.execute (fun _ action _ hcareful hact => ⟨action, hcareful, hact⟩)
    (Reachable.start ⟨1, rfl⟩) (execute_eq_some_getD (by decide +kernel))

theorem connection_consistent_joined : Consistent joined :=
  connection_consistent reachable_joined (by decide +kernel)

/-- `disconnect` runs between the check of `onOpen` and its assignment. -/
def overtakenActions : List TransportAction :=
  TransportAction.call (TransportCall.connect true) :: List.replicate 5 (TransportAction.run 0) ++
    [TransportAction.call (TransportCall.opened 0), TransportAction.run 1,
      TransportAction.call TransportCall.disconnect] ++
    List.replicate 4 (TransportAction.run 2) ++ List.replicate 2 (TransportAction.run 1)

def overtaken : TransportSystem :=
  (execute (fun _ _ => True) act { listeners := 1 } overtakenActions).getD {}

/-- `disconnect` runs between the check of `onMessage` and the update of the peers. -/
def lateActions : List TransportAction :=
  openActions ++
    [TransportAction.call (TransportCall.message 0
        (some (encode (Message.peerJoined ⟨[98]⟩ ⟨[]⟩)))),
      TransportAction.run 2, TransportAction.call TransportCall.disconnect] ++
    List.replicate 5 (TransportAction.run 3) ++ List.replicate 2 (TransportAction.run 2)

def late : TransportSystem :=
  (execute (fun _ _ => True) act { listeners := 1 } lateActions).getD {}

theorem reachable_overtaken : Reachable Initial Step overtaken :=
  Reachable.execute (fun _ action _ _ hact => ⟨action, hact⟩)
    (Reachable.start ⟨1, rfl⟩) (execute_eq_some_getD (by decide +kernel))

theorem reachable_late : Reachable Initial Step late :=
  Reachable.execute (fun _ action _ _ hact => ⟨action, hact⟩)
    (Reachable.start ⟨1, rfl⟩) (execute_eq_some_getD (by decide +kernel))

/-- The flag is set without a socket and after the disconnection the listeners were
told of a connection; and a peer is left behind a closed connection. -/
theorem callbacks_outlive_disconnect :
    (Quiet overtaken.threads ∧ overtaken.transport.wsConnected = true ∧
        overtaken.transport.ws = none ∧ overtaken.disconnectedLast = true ∧
        overtaken.heard 0 = some true) ∧
      (Quiet late.threads ∧ late.transport.wsConnected = false ∧
        late.transport.peers ≠ ∅) ∧
      ¬ ∀ system, Reachable Initial Step system → Quiet system.threads →
        Consistent system := by
  have hovertaken : Quiet overtaken.threads ∧ overtaken.transport.wsConnected = true ∧
      overtaken.transport.ws = none ∧ overtaken.disconnectedLast = true ∧
      overtaken.heard 0 = some true := by decide +kernel
  refine ⟨hovertaken, by decide +kernel, ?_⟩
  intro hclaim
  have hconsistent := hclaim overtaken reachable_overtaken hovertaken.1
  obtain ⟨socket, hws, -⟩ := hconsistent.connected.mp hovertaken.2.1
  rw [hovertaken.2.2.1] at hws
  contradiction

end TransportSystem

end Client
end Driscord
