import Driscord.Library.ThreadPool
import Driscord.Library.TransitionSystem

/-!
# The write queue of a session

Any thread may enqueue a message for a session.  The one that finds the queue empty
posts `do_write`, which writes the front of the queue; the completion of a write pops
it and goes on with the next.  Every section under `write_mutex_` is one step, and so
are the post and the beginning of a write.

Main results:

- Theorem `Disciplined.step`: one write at a time is posted or in flight.
- Theorem `writes_in_order`: in every run the messages are written in the order in
  which they were accepted, one at a time, and none is forgotten.
-/

namespace Driscord
namespace Server

open Library

/-! ## The bounded queue -/

/-- `QueuePushResult`. -/
inductive QueuePushResult where
  | accepted
  | droppedFull
  | closed
deriving DecidableEq, Repr

/-- `BoundedQueue`. -/
structure BoundedQueue (α : Type) (capacity : Nat) where
  closed : Bool := false
  items : List α := []
  bounded : items.length ≤ capacity := by exact Nat.zero_le _

namespace BoundedQueue

variable {α : Type} {capacity : Nat}

/-- `push_back`. -/
def pushBack (queue : BoundedQueue α capacity) (value : α) :
    QueuePushResult × BoundedQueue α capacity :=
  if queue.closed then (QueuePushResult.closed, queue)
  else if h : capacity ≤ queue.items.length then (QueuePushResult.droppedFull, queue)
  else
    (QueuePushResult.accepted,
      { queue with
        items := queue.items ++ [value]
        bounded := by
          rw [List.length_append, List.length_singleton]
          omega })

/-- `pop_front` of a queue that is not empty. -/
def popFront (queue : BoundedQueue α capacity) : BoundedQueue α capacity :=
  { queue with
    items := queue.items.tail
    bounded := by
      have hbounded := queue.bounded
      rw [List.length_tail]
      omega }

/-- `close`. -/
def close (queue : BoundedQueue α capacity) : BoundedQueue α capacity :=
  { queue with closed := true }

theorem items_pushBack {queue : BoundedQueue α capacity} {value : α}
    (h : (queue.pushBack value).1 = QueuePushResult.accepted) :
    (queue.pushBack value).2.items = queue.items ++ [value] := by
  unfold pushBack at h ⊢
  split at h
  · contradiction
  · split at h
    · contradiction
    · rename_i hopen hroom
      rw [if_neg hopen, dif_neg hroom]

end BoundedQueue

/-! ## Sections -/

/-- `kMaxWriteQueueSize`. -/
def maxWriteQueueSize : Nat := 128

/-- The sections of the calls. -/
inductive WriteSection (α : Type) where
  /-- `enqueue`: push the message. -/
  | push (message : α)
  /-- Post `do_write`. -/
  | post
  /-- `do_write`: look at the front. -/
  | takeFront
  /-- `async_write`. -/
  | startWrite (message : α)
  /-- `on_write` without an error: pop the front. -/
  | finishWrite
  /-- `on_close`: set `closed_`. -/
  | markClosed
  /-- `on_close`: close the queue. -/
  | closeQueue
deriving DecidableEq, Repr

/-- The write queue of a session. -/
structure Writer (α : Type) where
  queue : BoundedQueue α maxWriteQueueSize := {}
  closed : Bool := false
  /-- How many `do_write` are posted. -/
  posted : Nat := 0
  /-- The messages of the writes that have not been completed. -/
  inFlight : List α := []
  /-- A write was completed with an error. -/
  failed : Bool := false
  /-- The messages that the queue accepted. -/
  accepted : List α := []
  /-- The messages that `async_write` was called with. -/
  handed : List α := []

namespace Writer

variable {α : Type}

/-- Run a section: the new state and the sections called for. -/
def run (writer : Writer α) : WriteSection α → Writer α × List (WriteSection α)
  | WriteSection.push message =>
      let pushed := writer.queue.pushBack message
      if pushed.1 = QueuePushResult.accepted then
        ({ writer with queue := pushed.2, accepted := writer.accepted ++ [message] },
          if pushed.2.items.length = 1 then [WriteSection.post] else [])
      else (writer, [])
  | WriteSection.post => ({ writer with posted := writer.posted + 1 }, [])
  | WriteSection.takeFront =>
      match writer.queue.items with
      | [] => (writer, [])
      | message :: _ => (writer, [WriteSection.startWrite message])
  | WriteSection.startWrite message =>
      ({ writer with
        inFlight := writer.inFlight ++ [message]
        handed := writer.handed ++ [message] }, [])
  | WriteSection.finishWrite =>
      ({ writer with queue := writer.queue.popFront },
        if writer.queue.popFront.items = [] then [] else [WriteSection.takeFront])
  | WriteSection.markClosed =>
      if writer.closed then (writer, [])
      else ({ writer with closed := true }, [WriteSection.closeQueue])
  | WriteSection.closeQueue => ({ writer with queue := writer.queue.close }, [])

end Writer

/-- The write queue with the calls in progress. -/
structure WriterSystem (α : Type) where
  writer : Writer α := {}
  threads : Pool (WriteSection α) := []

/-- What may happen next. -/
inductive WriterAction (α : Type) where
  | enqueue (message : α)
  /-- A posted `do_write` begins. -/
  | runPosted
  /-- A write is completed. -/
  | complete (index : Nat) (success : Bool)
  /-- A read fails, and `on_close` is called. -/
  | close
  /-- Thread `index` runs its next section. -/
  | run (index : Nat)

namespace WriterSystem

variable {α : Type}

/-- Begin a thread. -/
def spawn (system : WriterSystem α) (thread : List (WriteSection α)) : WriterSystem α :=
  { system with threads := system.threads ++ [thread] }

/-- Do an action, if it is possible. -/
def act (system : WriterSystem α) : WriterAction α → Option (WriterSystem α)
  | WriterAction.enqueue message => some (system.spawn [WriteSection.push message])
  | WriterAction.runPosted =>
      if system.writer.posted = 0 then none
      else
        some { system.spawn [WriteSection.takeFront] with
          writer := { system.writer with posted := system.writer.posted - 1 } }
  | WriterAction.complete index success =>
      if index < system.writer.inFlight.length then
        let done := { system.writer with inFlight := system.writer.inFlight.eraseIdx index }
        if success then some { system.spawn [WriteSection.finishWrite] with writer := done }
        else
          some { system.spawn [WriteSection.markClosed] with
            writer := { done with failed := true } }
      else none
  | WriterAction.close => some (system.spawn [WriteSection.markClosed])
  | WriterAction.run index =>
      match system.threads[index]? with
      | some (head :: rest) =>
          let result := system.writer.run head
          some { writer := result.1, threads := system.threads.set index (result.2 ++ rest) }
      | _ => none

/-- The queue of a new session. -/
def Initial (system : WriterSystem α) : Prop :=
  system = {}

/-- One step of any interleaving. -/
def Step (system next : WriterSystem α) : Prop :=
  ∃ action, system.act action = some next

/-! ## One write at a time -/

/-- A write is about to be posted or to begin. -/
def scheduled : WriteSection α → Bool
  | WriteSection.post | WriteSection.takeFront | WriteSection.startWrite _ => true
  | _ => false

/-- `on_write` has begun. -/
def finishing : WriteSection α → Bool
  | WriteSection.finishWrite => true
  | _ => false

/-- How many writes are posted or in flight. -/
def writes (system : WriterSystem α) : Nat :=
  Pool.count scheduled system.threads + system.writer.posted + system.writer.inFlight.length

/-- How many writes are being completed. -/
def completions (system : WriterSystem α) : Nat :=
  Pool.count finishing system.threads

/-- The front of the queue was handed to `async_write`. -/
def Begun (system : WriterSystem α) : Prop :=
  system.writer.failed = true ∨ 0 < system.writer.inFlight.length + system.completions

/-- One write is posted, in flight or being completed exactly while the queue holds
something, until a write fails. -/
structure Disciplined (system : WriterSystem α) : Prop where
  active : system.writer.failed = false → system.writer.queue.items ≠ [] →
    system.writes + system.completions = 1
  idle : system.writer.failed = true ∨ system.writer.queue.items = [] →
    system.writes + system.completions = 0
  kept : system.writer.failed = true → system.writer.queue.items ≠ []
  front : ∀ message, Pool.Pending system.threads (WriteSection.startWrite message) →
    system.writer.queue.items.head? = some message
  waiting : ¬ system.Begun → system.writer.accepted =
    system.writer.handed ++ system.writer.queue.items
  begun : system.Begun → system.writer.accepted =
    system.writer.handed ++ system.writer.queue.items.tail

theorem disciplined_initial : Disciplined ({} : WriterSystem α) where
  active _ h := absurd rfl h
  idle _ := rfl
  kept h := by contradiction
  front _ h := absurd h (Pool.Quiet.not_pending (fun _ hthread => absurd hthread List.not_mem_nil) _)
  waiting _ := rfl
  begun _ := rfl

variable {system : WriterSystem α}

theorem Disciplined.not_begun (h : Disciplined system)
    (hempty : system.writer.queue.items = []) : ¬ system.Begun := by
  have hidle := h.idle (Or.inr hempty)
  rintro (hfailed | hpos)
  · exact h.kept hfailed hempty
  · rw [writes] at hidle
    omega

/-- Something is under way only while the queue holds something and no write has
failed. -/
theorem Disciplined.running (h : Disciplined system)
    (hpos : 0 < system.writes + system.completions) :
    system.writer.failed = false ∧ system.writer.queue.items ≠ [] := by
  constructor
  · by_contra hfailed
    have hidle := h.idle (Or.inl (by simpa using hfailed))
    omega
  · intro hempty
    have hidle := h.idle (Or.inr hempty)
    omega

section

variable {next : WriterSystem α}

/-- A change that keeps what counts. -/
theorem Disciplined.congr (h : Disciplined system)
    (hitems : next.writer.queue.items = system.writer.queue.items)
    (hfailed : next.writer.failed = system.writer.failed)
    (haccepted : next.writer.accepted = system.writer.accepted)
    (hhanded : next.writer.handed = system.writer.handed)
    (htotal : next.writes + next.completions = system.writes + system.completions)
    (hbegun : next.writer.inFlight.length + next.completions =
      system.writer.inFlight.length + system.completions)
    (hfront : ∀ message, Pool.Pending next.threads (WriteSection.startWrite message) →
      system.writer.queue.items.head? = some message) : Disciplined next := by
  have hsame : next.Begun ↔ system.Begun := by rw [Begun, Begun, hfailed, hbegun]
  refine ⟨?_, ?_, ?_, ?_, ?_, ?_⟩
  · rw [hfailed, hitems, htotal]
    exact h.active
  · rw [hfailed, hitems, htotal]
    exact h.idle
  · rw [hfailed, hitems]
    exact h.kept
  · rw [hitems]
    exact hfront
  · rw [hsame, haccepted, hhanded, hitems]
    exact h.waiting
  · rw [hsame, haccepted, hhanded, hitems]
    exact h.begun

/-- An accepted message starts a write exactly if the queue was empty. -/
theorem Disciplined.extend (h : Disciplined system) {message : α}
    (hitems : next.writer.queue.items = system.writer.queue.items ++ [message])
    (hfailed : next.writer.failed = system.writer.failed)
    (haccepted : next.writer.accepted = system.writer.accepted ++ [message])
    (hhanded : next.writer.handed = system.writer.handed)
    (htotal : next.writes + next.completions = system.writes + system.completions +
      if system.writer.queue.items = [] then 1 else 0)
    (hbegun : next.writer.inFlight.length + next.completions =
      system.writer.inFlight.length + system.completions)
    (hfront : ∀ message, Pool.Pending next.threads (WriteSection.startWrite message) →
      system.writer.queue.items.head? = some message) : Disciplined next := by
  have hsame : next.Begun ↔ system.Begun := by rw [Begun, Begun, hfailed, hbegun]
  refine ⟨?_, ?_, ?_, ?_, ?_, ?_⟩
  · intro hok _
    rw [hfailed] at hok
    by_cases hempty : system.writer.queue.items = []
    · have hidle := h.idle (Or.inr hempty)
      rw [if_pos hempty] at htotal
      omega
    · have hactive := h.active hok hempty
      rw [if_neg hempty] at htotal
      omega
  · rintro (hbad | hnil)
    · rw [hfailed] at hbad
      have hidle := h.idle (Or.inl hbad)
      rw [if_neg (h.kept hbad)] at htotal
      omega
    · rw [hitems] at hnil
      simp at hnil
  · intro _
    rw [hitems]
    simp
  · intro other hpending
    rw [hitems, List.head?_append, hfront other hpending, Option.some_or]
  · intro hwaiting
    rw [haccepted, hhanded, hitems, h.waiting (hsame.not.mp hwaiting), List.append_assoc]
  · intro hstarted
    have hne : system.writer.queue.items ≠ [] := fun hempty =>
      h.not_begun hempty (hsame.mp hstarted)
    rw [haccepted, hhanded, hitems, h.begun (hsame.mp hstarted), List.tail_append_of_ne_nil hne,
      List.append_assoc]

/-- The front of the queue is handed to `async_write`. -/
theorem Disciplined.hand (h : Disciplined system) {message : α}
    (hitems : next.writer.queue.items = system.writer.queue.items)
    (hfailed : next.writer.failed = system.writer.failed)
    (haccepted : next.writer.accepted = system.writer.accepted)
    (hhanded : next.writer.handed = system.writer.handed ++ [message])
    (hmessage : system.writer.queue.items.head? = some message)
    (htotal : next.writes + next.completions = system.writes + system.completions)
    (hbefore : ¬ system.Begun)
    (hafter : 0 < next.writer.inFlight.length)
    (hfront : ∀ message, Pool.Pending next.threads (WriteSection.startWrite message) →
      system.writer.queue.items.head? = some message) : Disciplined next := by
  have hbegun : next.Begun := Or.inr (by omega)
  refine ⟨?_, ?_, ?_, ?_, ?_, ?_⟩
  · rw [hfailed, hitems, htotal]
    exact h.active
  · rw [hfailed, hitems, htotal]
    exact h.idle
  · rw [hfailed, hitems]
    exact h.kept
  · rw [hitems]
    exact hfront
  · exact fun hcontra => absurd hbegun hcontra
  · intro _
    have hcons : system.writer.queue.items = message :: system.writer.queue.items.tail :=
      (List.cons_head?_tail hmessage).symm
    rw [haccepted, hhanded, hitems, List.append_assoc, List.singleton_append, ← hcons]
    exact h.waiting hbefore

/-- The completion of a write pops the front, and the next write begins. -/
theorem Disciplined.pop (h : Disciplined system)
    (hitems : next.writer.queue.items = system.writer.queue.items.tail)
    (hfailed : next.writer.failed = system.writer.failed)
    (haccepted : next.writer.accepted = system.writer.accepted)
    (hhanded : next.writer.handed = system.writer.handed)
    (hbefore : 0 < system.completions)
    (htotal : next.writes + next.completions + 1 = system.writes + system.completions +
      if system.writer.queue.items.tail = [] then 0 else 1)
    (hafter : next.writer.inFlight.length + next.completions = 0)
    (hpending : ∀ message, ¬ Pool.Pending next.threads (WriteSection.startWrite message)) :
    Disciplined next := by
  rcases h.running (by omega) with ⟨hok, hne⟩
  have hactive := h.active hok hne
  have hnotBegun : ¬ next.Begun := by
    rintro (hbad | hpos)
    · rw [hfailed, hok] at hbad
      contradiction
    · omega
  refine ⟨?_, ?_, ?_, ?_, ?_, ?_⟩
  · intro _ hmore
    rw [hitems] at hmore
    rw [if_neg hmore] at htotal
    omega
  · rintro (hbad | hnil)
    · rw [hfailed, hok] at hbad
      contradiction
    · rw [hitems] at hnil
      rw [if_pos hnil] at htotal
      omega
  · intro hbad
    rw [hfailed, hok] at hbad
    contradiction
  · exact fun message hcontra => absurd hcontra (hpending message)
  · intro _
    rw [haccepted, hhanded, hitems]
    exact h.begun (Or.inr (by omega))
  · exact fun hcontra => absurd hcontra hnotBegun

/-- After a failed write nothing is under way. -/
theorem Disciplined.fail (h : Disciplined system)
    (hitems : next.writer.queue.items = system.writer.queue.items)
    (hfailed : next.writer.failed = true)
    (haccepted : next.writer.accepted = system.writer.accepted)
    (hhanded : next.writer.handed = system.writer.handed)
    (hbefore : 0 < system.writer.inFlight.length)
    (htotal : next.writes + next.completions + 1 = system.writes + system.completions)
    (hpending : ∀ message, ¬ Pool.Pending next.threads (WriteSection.startWrite message)) :
    Disciplined next := by
  have hpos : 0 < system.writes + system.completions := by
    rw [writes]
    omega
  rcases h.running hpos with ⟨hok, hne⟩
  have hactive := h.active hok hne
  refine ⟨?_, ?_, ?_, ?_, ?_, ?_⟩
  · intro hcontra
    rw [hfailed] at hcontra
    contradiction
  · intro _
    omega
  · rw [hitems]
    exact fun _ => hne
  · exact fun message hcontra => absurd hcontra (hpending message)
  · exact fun hcontra => absurd (Or.inl hfailed) hcontra
  · intro _
    rw [haccepted, hhanded, hitems]
    exact h.begun (Or.inr (by omega))

end

/-! ## Every step -/

/-- No message is about to be written while nothing is scheduled. -/
theorem not_pending_of_count {pool : Pool (WriteSection α)}
    (h : Pool.count scheduled pool = 0) (message : α) :
    ¬ Pool.Pending pool (WriteSection.startWrite message) := by
  intro hpending
  have hpos := Pool.count_pos_of_pending scheduled hpending rfl
  omega

section

variable {index : Nat} {head : WriteSection α} {rest pushed : List (WriteSection α)}

/-- A message that is about to be written after a section is the front, if the section
pushes only the front. -/
theorem Disciplined.front_run (h : Disciplined system)
    (hhead : system.threads[index]? = some (head :: rest))
    (hpushed : ∀ message, WriteSection.startWrite message ∈ pushed →
      system.writer.queue.items.head? = some message) :
    ∀ message, Pool.Pending (system.threads.set index (pushed ++ rest))
      (WriteSection.startWrite message) → system.writer.queue.items.head? = some message := by
  intro message hpending
  rcases Pool.pending_of_run hhead hpending with hold | hnew
  · exact h.front message hold
  · exact hpushed message hnew

/-- A section that moves a write on, but neither begins nor ends one. -/
theorem Disciplined.quietRun (h : Disciplined system)
    (hhead : system.threads[index]? = some (head :: rest)) {writer : Writer α}
    (hitems : writer.queue.items = system.writer.queue.items)
    (hfailed : writer.failed = system.writer.failed)
    (haccepted : writer.accepted = system.writer.accepted)
    (hhanded : writer.handed = system.writer.handed)
    (hinFlight : writer.inFlight = system.writer.inFlight)
    (hscheduled : pushed.countP scheduled + writer.posted =
      (if scheduled head then 1 else 0) + system.writer.posted)
    (hfinishing : pushed.countP finishing = if finishing head then 1 else 0)
    (hpushed : ∀ message, WriteSection.startWrite message ∈ pushed →
      system.writer.queue.items.head? = some message) :
    Disciplined { writer, threads := system.threads.set index (pushed ++ rest) } := by
  have hposted := Pool.count_run scheduled hhead pushed
  have hcompleted := Pool.count_run finishing hhead pushed
  refine h.congr hitems hfailed haccepted hhanded ?_ ?_ (h.front_run hhead hpushed)
  · simp only [writes, completions, hinFlight]
    omega
  · simp only [completions, hinFlight]
    omega

/-- An accepted message; it posts a write exactly if the queue was empty. -/
theorem Disciplined.acceptRun (h : Disciplined system) {message : α}
    (hhead : system.threads[index]? = some (WriteSection.push message :: rest))
    (haccepted : (system.writer.queue.pushBack message).1 = QueuePushResult.accepted) :
    Disciplined
      { writer := (system.writer.run (WriteSection.push message)).1
        threads := system.threads.set index
          ((system.writer.run (WriteSection.push message)).2 ++ rest) } := by
  have hitems := BoundedQueue.items_pushBack haccepted
  simp only [Writer.run, if_pos haccepted, hitems]
  by_cases hempty : system.writer.queue.items = []
  · have hposted := Pool.count_run scheduled hhead [WriteSection.post]
    have hcompleted := Pool.count_run finishing hhead [WriteSection.post]
    simp [scheduled] at hposted
    simp [finishing] at hcompleted
    refine h.extend hitems rfl rfl rfl ?_ ?_ (h.front_run hhead ?_)
    · simp only [writes, completions, hempty, List.nil_append, List.length_singleton, if_true,
        List.cons_append]
      omega
    · simp only [completions, hempty, List.nil_append, List.length_singleton, if_true,
        List.cons_append]
      omega
    · simp [hempty]
  · have hlong : ¬ (system.writer.queue.items ++ [message]).length = 1 := by
      have hpos := List.length_pos_iff.mpr hempty
      rw [List.length_append, List.length_singleton]
      omega
    have hposted := Pool.count_run scheduled hhead []
    have hcompleted := Pool.count_run finishing hhead []
    simp [scheduled] at hposted
    simp [finishing] at hcompleted
    rw [if_neg hlong]
    refine h.extend hitems rfl rfl rfl ?_ ?_ (h.front_run hhead (by simp))
    · simp only [writes, completions, if_neg hempty, List.nil_append]
      omega
    · simp only [completions, List.nil_append]
      omega

/-- The front of the queue is handed over. -/
theorem Disciplined.handRun (h : Disciplined system) {message : α}
    (hhead : system.threads[index]? = some (WriteSection.startWrite message :: rest)) :
    Disciplined
      { writer := (system.writer.run (WriteSection.startWrite message)).1
        threads := system.threads.set index
          ((system.writer.run (WriteSection.startWrite message)).2 ++ rest) } := by
  have hpos : 0 < Pool.count scheduled system.threads :=
    Pool.count_pos_of_pending scheduled (Pool.pending_head hhead) rfl
  have hmessage := h.front message (Pool.pending_head hhead)
  rcases h.running (by rw [writes]; omega) with ⟨hok, hne⟩
  have hactive := h.active hok hne
  rw [writes] at hactive
  have hposted := Pool.count_run scheduled hhead []
  have hcompleted := Pool.count_run finishing hhead []
  simp [scheduled] at hposted
  simp [finishing] at hcompleted
  refine h.hand rfl rfl rfl rfl hmessage ?_ ?_ ?_ (h.front_run hhead (by simp [Writer.run]))
  · simp only [writes, completions, Writer.run, List.nil_append, List.length_append,
      List.length_singleton]
    omega
  · rintro (hbad | hbegun)
    · rw [hok] at hbad
      contradiction
    · omega
  · simp [Writer.run]

/-- A completed write pops the front and begins the next write, if there is one. -/
theorem Disciplined.popRun (h : Disciplined system)
    (hhead : system.threads[index]? = some (WriteSection.finishWrite :: rest)) :
    Disciplined
      { writer := (system.writer.run WriteSection.finishWrite).1
        threads := system.threads.set index
          ((system.writer.run WriteSection.finishWrite).2 ++ rest) } := by
  have hpos : 0 < system.completions :=
    Pool.count_pos_of_pending finishing (Pool.pending_head hhead) rfl
  rcases h.running (by omega) with ⟨hok, hne⟩
  have hactive := h.active hok hne
  rw [writes, completions] at hactive
  rw [completions] at hpos
  have htail : system.writer.queue.popFront.items = system.writer.queue.items.tail := rfl
  have hnone : ∀ message, ¬ Pool.Pending system.threads (WriteSection.startWrite message) :=
    not_pending_of_count (by omega)
  simp only [Writer.run, htail]
  by_cases hempty : system.writer.queue.items.tail = []
  · have hposted := Pool.count_run scheduled hhead []
    have hcompleted := Pool.count_run finishing hhead []
    simp [scheduled] at hposted
    simp [finishing] at hcompleted
    rw [if_pos hempty]
    refine h.pop rfl rfl rfl rfl hpos ?_ ?_ ?_
    · simp only [writes, completions, List.nil_append, if_pos hempty]
      omega
    · simp only [completions, List.nil_append]
      omega
    · intro message hpending
      rcases Pool.pending_of_run hhead hpending with hold | hnew
      · exact hnone message hold
      · exact absurd hnew List.not_mem_nil
  · have hposted := Pool.count_run scheduled hhead [WriteSection.takeFront]
    have hcompleted := Pool.count_run finishing hhead [WriteSection.takeFront]
    simp [scheduled] at hposted
    simp [finishing] at hcompleted
    rw [if_neg hempty]
    refine h.pop rfl rfl rfl rfl hpos ?_ ?_ ?_
    · simp only [writes, completions, List.cons_append, List.nil_append, if_neg hempty]
      omega
    · simp only [completions, List.cons_append, List.nil_append]
      omega
    · intro message hpending
      rcases Pool.pending_of_run hhead hpending with hold | hnew
      · exact hnone message hold
      · simp at hnew

/-- Running a section keeps the discipline. -/
theorem Disciplined.run (h : Disciplined system)
    (hhead : system.threads[index]? = some (head :: rest)) :
    Disciplined
      { writer := (system.writer.run head).1
        threads := system.threads.set index ((system.writer.run head).2 ++ rest) } := by
  cases head with
  | push message =>
      by_cases haccepted : (system.writer.queue.pushBack message).1 = QueuePushResult.accepted
      · exact h.acceptRun hhead haccepted
      · simp only [Writer.run, if_neg haccepted]
        exact h.quietRun hhead rfl rfl rfl rfl rfl (by simp [scheduled]) (by simp [finishing])
          (by simp)
  | post =>
      refine h.quietRun hhead rfl rfl rfl rfl rfl ?_ (by simp [Writer.run, finishing])
        (by simp [Writer.run])
      simp only [Writer.run, scheduled, List.countP_nil, if_true]
      omega
  | takeFront =>
      have hpos : 0 < Pool.count scheduled system.threads :=
        Pool.count_pos_of_pending scheduled (Pool.pending_head hhead) rfl
      have hne := (h.running (by rw [writes]; omega)).2
      rcases List.exists_cons_of_ne_nil hne with ⟨message, later, hitems⟩
      simp only [Writer.run, hitems]
      exact h.quietRun hhead rfl rfl rfl rfl rfl (by simp [scheduled]) (by simp [finishing])
        (by simp [hitems])
  | startWrite message => exact h.handRun hhead
  | finishWrite => exact h.popRun hhead
  | markClosed =>
      by_cases hclosed : system.writer.closed = true
      · simp only [Writer.run, if_pos hclosed]
        exact h.quietRun hhead rfl rfl rfl rfl rfl (by simp [scheduled]) (by simp [finishing])
          (by simp)
      · simp only [Writer.run, if_neg hclosed]
        exact h.quietRun hhead rfl rfl rfl rfl rfl (by simp [scheduled]) (by simp [finishing])
          (by simp)
  | closeQueue =>
      exact h.quietRun hhead rfl rfl rfl rfl rfl (by simp [Writer.run, scheduled])
        (by simp [Writer.run, finishing]) (by simp [Writer.run])

end

/-- A new thread that pushes or closes. -/
theorem Disciplined.spawn (h : Disciplined system) {head : WriteSection α}
    (hscheduled : scheduled head = false) (hfinishing : finishing head = false) :
    Disciplined (system.spawn [head]) := by
  have hposted := Pool.count_spawn scheduled system.threads [head]
  have hcompleted := Pool.count_spawn finishing system.threads [head]
  rw [List.countP_singleton, hscheduled] at hposted
  rw [List.countP_singleton, hfinishing] at hcompleted
  refine h.congr rfl rfl rfl rfl ?_ ?_ ?_
  · simp only [writes, completions, WriterSystem.spawn]
    simp at hposted hcompleted
    omega
  · simp only [completions, WriterSystem.spawn]
    simp at hcompleted
    omega
  · intro message hpending
    rcases Pool.pending_of_spawn hpending with hold | hnew
    · exact h.front message hold
    · rw [← List.mem_singleton.mp hnew] at hscheduled
      contradiction

/-- Every step keeps the discipline. -/
theorem Disciplined.step (h : Disciplined system) {next : WriterSystem α}
    (hstep : Step system next) : Disciplined next := by
  rcases hstep with ⟨action, hact⟩
  unfold act at hact
  cases action with
  | enqueue message =>
      rw [← Option.some.inj hact]
      exact h.spawn rfl rfl
  | runPosted =>
      simp only at hact
      split at hact
      · contradiction
      · rename_i hposted
        rw [← Option.some.inj hact]
        have hcount := Pool.count_spawn scheduled system.threads [WriteSection.takeFront]
        have hcompleted := Pool.count_spawn finishing system.threads [WriteSection.takeFront]
        simp [scheduled] at hcount
        simp [finishing] at hcompleted
        refine h.congr rfl rfl rfl rfl ?_ ?_ ?_
        · simp only [writes, completions, WriterSystem.spawn]
          omega
        · simp only [completions, WriterSystem.spawn]
          omega
        · intro message hpending
          rcases Pool.pending_of_spawn hpending with hold | hnew
          · exact h.front message hold
          · simp at hnew
  | complete index success =>
      simp only at hact
      split at hact
      · rename_i hindex
        have hlength := List.length_eraseIdx_of_lt hindex
        split at hact
        · rw [← Option.some.inj hact]
          have hcount := Pool.count_spawn scheduled system.threads [WriteSection.finishWrite]
          have hcompleted := Pool.count_spawn finishing system.threads [WriteSection.finishWrite]
          simp [scheduled] at hcount
          simp [finishing] at hcompleted
          refine h.congr rfl rfl rfl rfl ?_ ?_ ?_
          · simp only [writes, completions, WriterSystem.spawn]
            omega
          · simp only [completions, WriterSystem.spawn]
            omega
          · intro message hpending
            rcases Pool.pending_of_spawn hpending with hold | hnew
            · exact h.front message hold
            · simp at hnew
        · rw [← Option.some.inj hact]
          have hcount := Pool.count_spawn scheduled system.threads [WriteSection.markClosed]
          have hcompleted := Pool.count_spawn finishing system.threads [WriteSection.markClosed]
          simp [scheduled] at hcount
          simp [finishing] at hcompleted
          rcases h.running (by rw [writes]; omega) with ⟨hok, hne⟩
          have hactive := h.active hok hne
          rw [writes] at hactive
          refine h.fail rfl rfl rfl rfl (by omega) ?_ ?_
          · simp only [writes, completions, WriterSystem.spawn]
            omega
          · intro message hpending
            rcases Pool.pending_of_spawn hpending with hold | hnew
            · exact not_pending_of_count (by omega) message hold
            · simp at hnew
      · contradiction
  | close =>
      rw [← Option.some.inj hact]
      exact h.spawn rfl rfl
  | run index =>
      simp only at hact
      split at hact
      · rename_i head rest hhead
        rw [← Option.some.inj hact]
        exact h.run hhead
      · contradiction

/-- In every run, at most one write is posted or in flight, and none once a write has
failed; the messages that were handed to `async_write` are the accepted ones in order,
and those that were not are still in the queue; and while the queue holds something and
no write has failed, a write is posted, in flight or being completed. -/
theorem writes_in_order (h : Reachable Initial Step system) :
    system.writes ≤ (if system.writer.failed then 0 else 1) ∧
    (∃ waiting, system.writer.accepted = system.writer.handed ++ waiting ∧
      waiting <:+ system.writer.queue.items ∧
        (system.writer.failed = false → system.writes + system.completions = 0 →
          waiting = [])) ∧
    (system.writer.queue.items ≠ [] → system.writer.failed = false →
      0 < system.writes + system.completions ∧
        (Pool.Quiet system.threads →
          0 < system.writer.posted + system.writer.inFlight.length)) := by
  have hdisciplined : Disciplined system := by
    refine Reachable.invariant ?_ (fun _ _ _ hdisciplined hstep => hdisciplined.step hstep) h
    intro start hstart
    rw [hstart]
    exact disciplined_initial
  refine ⟨?_, ?_, ?_⟩
  · split
    · rename_i hfailed
      have hidle := hdisciplined.idle (Or.inl hfailed)
      omega
    · rename_i hok
      by_cases hempty : system.writer.queue.items = []
      · have hidle := hdisciplined.idle (Or.inr hempty)
        omega
      · have hactive := hdisciplined.active (by simpa using hok) hempty
        omega
  · have hnothing : system.writer.failed = false → system.writes + system.completions = 0 →
        system.writer.queue.items = [] := by
      intro hok hzero
      by_contra hne
      have hactive := hdisciplined.active hok hne
      omega
    by_cases hbegun : system.Begun
    · refine ⟨_, hdisciplined.begun hbegun, List.tail_suffix _, ?_⟩
      intro hok hzero
      rw [hnothing hok hzero]
      rfl
    · exact ⟨_, hdisciplined.waiting hbegun, List.suffix_refl _, hnothing⟩
  · intro hne hok
    have hactive := hdisciplined.active hok hne
    refine ⟨by omega, ?_⟩
    intro hquiet
    rw [writes, completions, Pool.count_of_quiet scheduled hquiet,
      Pool.count_of_quiet finishing hquiet] at hactive
    omega

/-- Two messages are enqueued while the first is being written. -/
def twoMessages : List (WriterAction Nat) :=
  [WriterAction.enqueue 1, WriterAction.enqueue 2, WriterAction.run 0, WriterAction.run 1,
    WriterAction.run 0, WriterAction.runPosted, WriterAction.run 2, WriterAction.run 2,
    WriterAction.complete 0 true, WriterAction.run 3]

/-- The queue after `twoMessages`. -/
def twoSystem : WriterSystem Nat :=
  (execute (fun _ _ => True) act {} twoMessages).getD {}

theorem writes_in_order_two :
    twoSystem.writes ≤ (if twoSystem.writer.failed then 0 else 1) ∧
    (∃ waiting, twoSystem.writer.accepted = twoSystem.writer.handed ++ waiting ∧
      waiting <:+ twoSystem.writer.queue.items ∧
        (twoSystem.writer.failed = false → twoSystem.writes + twoSystem.completions = 0 →
          waiting = [])) ∧
    (twoSystem.writer.queue.items ≠ [] → twoSystem.writer.failed = false →
      0 < twoSystem.writes + twoSystem.completions ∧
        (Pool.Quiet twoSystem.threads →
          0 < twoSystem.writer.posted + twoSystem.writer.inFlight.length)) :=
  writes_in_order (Reachable.execute (fun _ action _ _ hact => ⟨action, hact⟩)
    (Reachable.start rfl) (execute_eq_some_getD (by decide)))

end WriterSystem

end Server
end Driscord
