import Driscord.Library.TransitionSystem

/-!
# Concurrent transactions

A request is a program of database statements with an answer.  A query sees the
rows that are committed when it runs; the writes of a transaction are applied
together when it commits, or not at all.  Any number of requests run at the same
time, one statement after the other in any order.

A program is verified alone: `Respects` asks of every commit and of every answer
a condition on the statements before it, and the system keeps it.

Main results:

- Theorem `Respects.bind`: programs are verified part by part.
- Theorem `System.respects_step`: every step of the system keeps what was
  verified of the programs.
- Theorem `System.reads_step`: a relation that every write keeps holds between what
  a query has read and the rows that are committed later.
- Theorems `System.writes_step` and `System.appended_step`: the same of what was
  committed, and of the rows on which the last statement was executed.
- Theorems `System.mem_running_act`, `System.getElem?_act`, `System.answered_act`: what one
  action does to the requests.
-/

namespace Driscord
namespace Library

/-- A program over rows `σ` and writes `ω`, whose commit returns `ι` or fails
with `ε`.  It ends with a value, or earlier with an answer `ρ`. -/
inductive Program (σ ω ι ε ρ α : Type) where
  | pure (value : α)
  | answer (response : ρ)
  | select (next : σ → Program σ ω ι ε ρ α)
  | commit (write : ω) (next : Except ε ι → Program σ ω ι ε ρ α)

/-- A statement that was executed, with its result. -/
inductive Executed (σ ω ι ε : Type) where
  | read (rows : σ)
  | wrote (write : ω) (value : ι)
  | refused (write : ω) (error : ε)

namespace Program

variable {σ ω ι ε ρ α β : Type}

/-- Go on with the value of a program; an answer ends both. -/
def bind : Program σ ω ι ε ρ α → (α → Program σ ω ι ε ρ β) → Program σ ω ι ε ρ β
  | pure value, next => next value
  | answer response, _ => answer response
  | select rest, next => select fun rows => (rest rows).bind next
  | commit write rest, next => commit write fun result => (rest result).bind next

instance : Monad (Program σ ω ι ε ρ) where
  pure := pure
  bind := bind

theorem bind_assoc {γ : Type} (program : Program σ ω ι ε ρ α)
    (next : α → Program σ ω ι ε ρ β) (last : β → Program σ ω ι ε ρ γ) :
    (program >>= next) >>= last = program >>= fun value => next value >>= last := by
  induction program with
  | pure value => rfl
  | answer response => rfl
  | select rest ih => exact congrArg select (funext fun rows => ih rows)
  | commit write rest ih => exact congrArg (commit write) (funext fun result => ih result)

/-- What a finished program answers. -/
def answerOf : Program σ ω ι ε ρ ρ → Option ρ
  | pure response => some response
  | answer response => some response
  | _ => none

/-- A program whose statements run one after the other with nothing in between:
the answer, and the rows afterwards. -/
def alone (apply : ω → σ → Except ε (ι × σ)) : Program σ ω ι ε ρ ρ → σ → ρ × σ
  | pure response, rows => (response, rows)
  | answer response, rows => (response, rows)
  | select next, rows => (next rows).alone apply rows
  | commit write next, rows =>
      match apply write rows with
      | Except.ok (value, changed) => (next (Except.ok value)).alone apply changed
      | Except.error error => (next (Except.error error)).alone apply rows

section

variable (permitted : List (Executed σ ω ι ε) → ω → Prop)
variable (answered : List (Executed σ ω ι ε) → ρ → Prop)

/-- Every commit is permitted after the statements before it, and every answer
fits the statements before it. -/
def Respects (ends : List (Executed σ ω ι ε) → α → Prop) :
    List (Executed σ ω ι ε) → Program σ ω ι ε ρ α → Prop
  | history, pure value => ends history value
  | history, answer response => answered history response
  | history, select next => ∀ rows, Respects ends (history ++ [.read rows]) (next rows)
  | history, commit write next =>
      permitted history write ∧
        (∀ value, Respects ends (history ++ [.wrote write value]) (next (Except.ok value))) ∧
          ∀ error, Respects ends (history ++ [.refused write error]) (next (Except.error error))

variable {permitted answered}

theorem Respects.mono {ends ends' : List (Executed σ ω ι ε) → α → Prop}
    (himp : ∀ later value, ends later value → ends' later value)
    {history : List (Executed σ ω ι ε)} {program : Program σ ω ι ε ρ α}
    (h : Respects permitted answered ends history program) :
    Respects permitted answered ends' history program := by
  induction program generalizing history with
  | pure value => exact himp history value h
  | answer response => exact h
  | select rest ih => exact fun rows => ih rows (h rows)
  | commit write rest ih =>
      exact ⟨h.1, fun value => ih _ (h.2.1 value), fun error => ih _ (h.2.2 error)⟩

/-- Every program keeps to conditions that always hold. -/
theorem Respects.of_forall {ends : List (Executed σ ω ι ε) → α → Prop}
    (hpermitted : ∀ history write, permitted history write)
    (hanswered : ∀ history response, answered history response)
    (hends : ∀ history value, ends history value) (history : List (Executed σ ω ι ε))
    (program : Program σ ω ι ε ρ α) : Respects permitted answered ends history program := by
  induction program generalizing history with
  | pure value => exact hends history value
  | answer response => exact hanswered history response
  | select rest ih => exact fun rows => ih rows _
  | commit write rest ih =>
      exact ⟨hpermitted history write, fun value => ih (Except.ok value) _,
        fun error => ih (Except.error error) _⟩

/-- The second part starts with a history that extends the first one's. -/
theorem Respects.bind {middle : List (Executed σ ω ι ε) → α → Prop}
    {ends : List (Executed σ ω ι ε) → β → Prop} {next : α → Program σ ω ι ε ρ β}
    {history : List (Executed σ ω ι ε)} {program : Program σ ω ι ε ρ α}
    (h : Respects permitted answered middle history program)
    (hnext : ∀ later value, history <+: later → middle later value →
      Respects permitted answered ends later (next value)) :
    Respects permitted answered ends history (program >>= next) := by
  induction program generalizing history with
  | pure value => exact hnext history value List.prefix_rfl h
  | answer response => exact h
  | select rest ih =>
      intro rows
      apply ih rows (h rows)
      intro later value hlater
      exact hnext later value ((List.prefix_append _ _).trans hlater)
  | commit write rest ih =>
      refine ⟨h.1, fun value => ih _ (h.2.1 value) ?_, fun error => ih _ (h.2.2 error) ?_⟩ <;>
        intro later value hlater <;>
          exact hnext later value ((List.prefix_append _ _).trans hlater)

end

end Program

/-! ## Requests running at the same time -/

/-- A request, what remains of it, and the statements that it has executed. -/
structure Running (κ σ ω ι ε ρ : Type) where
  request : κ
  program : Program σ ω ι ε ρ ρ
  history : List (Executed σ ω ι ε) := []

/-- The committed rows, and the requests so far. -/
structure System (κ σ ω ι ε ρ : Type) where
  rows : σ
  running : List (Running κ σ ω ι ε ρ) := []

/-- A request arrives, one runs its next statement, or the rows change otherwise. -/
inductive SystemAction (κ ξ : Type) where
  | arrive (request : κ)
  | run (index : ℕ)
  | other (change : ξ)
deriving DecidableEq, Repr

namespace System

variable {κ ξ σ ω ι ε ρ : Type}
variable (handler : κ → Program σ ω ι ε ρ ρ) (apply : ω → σ → Except ε (ι × σ))
variable (outside : ξ → σ → σ)

/-- The next statement of a request on the given rows. -/
def statement (thread : Running κ σ ω ι ε ρ) (rows : σ) :
    Option (Running κ σ ω ι ε ρ × σ) :=
  match thread.program with
  | .pure _ => none
  | .answer _ => none
  | .select next =>
      some ({ thread with
        program := next rows
        history := thread.history ++ [.read rows] }, rows)
  | .commit write next =>
      match apply write rows with
      | Except.ok (value, changed) =>
          some ({ thread with
            program := next (Except.ok value)
            history := thread.history ++ [.wrote write value] }, changed)
      | Except.error error =>
          some ({ thread with
            program := next (Except.error error)
            history := thread.history ++ [.refused write error] }, rows)

/-- One action. -/
def act (system : System κ σ ω ι ε ρ) : SystemAction κ ξ → Option (System κ σ ω ι ε ρ)
  | .arrive request =>
      some { system with
        running := system.running ++ [{ request, program := handler request }] }
  | .run index =>
      system.running[index]?.bind fun thread =>
        (statement apply thread system.rows).map fun result =>
          { rows := result.2, running := system.running.set index result.1 }
  | .other change => some { system with rows := outside change system.rows }

/-- What a statement did: it read, it committed, or its commit failed. -/
theorem statement_cases {thread next : Running κ σ ω ι ε ρ} {rows changed : σ}
    (h : statement apply thread rows = some (next, changed)) :
    (∃ rest, thread.program = .select rest ∧ changed = rows ∧
        next = { thread with
          program := rest rows
          history := thread.history ++ [.read rows] }) ∨
      (∃ write rest value, thread.program = .commit write rest ∧
        apply write rows = Except.ok (value, changed) ∧
          next = { thread with
            program := rest (Except.ok value)
            history := thread.history ++ [.wrote write value] }) ∨
      (∃ write rest error, thread.program = .commit write rest ∧
        apply write rows = Except.error error ∧ changed = rows ∧
          next = { thread with
            program := rest (Except.error error)
            history := thread.history ++ [.refused write error] }) := by
  unfold statement at h
  split at h
  · contradiction
  · contradiction
  · rename_i rest hprogram
    rw [Option.some.injEq, Prod.mk.injEq] at h
    exact Or.inl ⟨rest, hprogram, h.2.symm, h.1.symm⟩
  · rename_i write rest hprogram
    split at h
    · rename_i value result happly
      rw [Option.some.injEq, Prod.mk.injEq] at h
      exact Or.inr (Or.inl ⟨write, rest, value, hprogram, by rw [happly, h.2], h.1.symm⟩)
    · rename_i error happly
      rw [Option.some.injEq, Prod.mk.injEq] at h
      exact Or.inr (Or.inr ⟨write, rest, error, hprogram, happly, h.2.symm, h.1.symm⟩)

/-- What an action did. -/
theorem act_cases {system next : System κ σ ω ι ε ρ} {action : SystemAction κ ξ}
    (h : act handler apply outside system action = some next) :
    (∃ request, action = .arrive request ∧ next = { system with
        running := system.running ++ [{ request, program := handler request }] }) ∨
      (∃ index thread after, action = .run index ∧ system.running[index]? = some thread ∧
        statement apply thread system.rows = some (after, next.rows) ∧
          next.running = system.running.set index after) ∨
      (∃ change, action = .other change ∧
        next = { system with rows := outside change system.rows }) := by
  cases action with
  | arrive request =>
      rw [act, Option.some.injEq] at h
      exact Or.inl ⟨request, rfl, h.symm⟩
  | run index =>
      rw [act] at h
      rcases Option.bind_eq_some_iff.mp h with ⟨thread, hthread, hrest⟩
      rcases Option.map_eq_some_iff.mp hrest with ⟨⟨after, changed⟩, hstatement, rfl⟩
      exact Or.inr (Or.inl ⟨index, thread, after, rfl, hthread, hstatement, rfl⟩)
  | other change =>
      rw [act, Option.some.injEq] at h
      exact Or.inr (Or.inr ⟨change, rfl, h.symm⟩)

section

variable (permitted : κ → List (Executed σ ω ι ε) → ω → Prop)
variable (answered : κ → List (Executed σ ω ι ε) → ρ → Prop)

/-- What remains of a request keeps to what was verified of its program. -/
def Verified (thread : Running κ σ ω ι ε ρ) : Prop :=
  Program.Respects (permitted thread.request) (answered thread.request)
    (answered thread.request) thread.history thread.program

variable {permitted answered}

theorem Verified.statement {thread next : Running κ σ ω ι ε ρ} {rows changed : σ}
    (h : Verified permitted answered thread)
    (hstatement : System.statement apply thread rows = some (next, changed)) :
    Verified permitted answered next := by
  unfold Verified at h ⊢
  rcases statement_cases apply hstatement with ⟨rest, hprogram, -, rfl⟩ |
    ⟨write, rest, value, hprogram, -, rfl⟩ | ⟨write, rest, error, hprogram, -, -, rfl⟩
  · rw [hprogram] at h
    exact h rows
  · rw [hprogram] at h
    exact h.2.1 value
  · rw [hprogram] at h
    exact h.2.2 error

theorem Verified.permits {thread : Running κ σ ω ι ε ρ} {write : ω}
    {rest : Except ε ι → Program σ ω ι ε ρ ρ} (h : Verified permitted answered thread)
    (hprogram : thread.program = .commit write rest) :
    permitted thread.request thread.history write := by
  unfold Verified at h
  rw [hprogram] at h
  exact h.1

theorem Verified.answers {thread : Running κ σ ω ι ε ρ} {response : ρ}
    (h : Verified permitted answered thread)
    (hanswer : thread.program.answerOf = some response) :
    answered thread.request thread.history response := by
  unfold Verified at h
  cases hprogram : thread.program with
  | pure value =>
      rw [hprogram] at h hanswer
      obtain rfl := Option.some.inj hanswer
      exact h
  | answer value =>
      rw [hprogram] at h hanswer
      obtain rfl := Option.some.inj hanswer
      exact h
  | select next =>
      rw [hprogram] at hanswer
      contradiction
  | commit write next =>
      rw [hprogram] at hanswer
      contradiction

/-- Every request is one that the action left alone, or a new one, or the one
that ran. -/
theorem mem_running_act {system next : System κ σ ω ι ε ρ} {action : SystemAction κ ξ}
    (h : act handler apply outside system action = some next)
    {thread : Running κ σ ω ι ε ρ} (hmem : thread ∈ next.running) :
    thread ∈ system.running ∨
      (∃ request, thread = { request, program := handler request }) ∨
        ∃ index before, action = .run index ∧ system.running[index]? = some before ∧
          System.statement apply before system.rows = some (thread, next.rows) := by
  rcases act_cases handler apply outside h with ⟨request, -, rfl⟩ |
    ⟨index, before, after, haction, hbefore, hstatement, hrunning⟩ | ⟨change, -, rfl⟩
  · rcases List.mem_append.mp hmem with hmem | hmem
    · exact Or.inl hmem
    · exact Or.inr (Or.inl ⟨request, List.mem_singleton.mp hmem⟩)
  · rw [hrunning] at hmem
    rcases List.mem_or_eq_of_mem_set hmem with hmem | rfl
    · exact Or.inl hmem
    · exact Or.inr (Or.inr ⟨index, before, haction, hbefore, hstatement⟩)
  · exact Or.inl hmem

/-- Every action keeps what was verified of the programs. -/
theorem respects_step
    (hhandler : ∀ request, Program.Respects (permitted request) (answered request)
      (answered request) [] (handler request))
    {system next : System κ σ ω ι ε ρ} {action : SystemAction κ ξ}
    (hact : act handler apply outside system action = some next)
    (h : ∀ thread ∈ system.running, Verified permitted answered thread) :
    ∀ thread ∈ next.running, Verified permitted answered thread := by
  intro thread hmem
  rcases mem_running_act handler apply outside hact hmem with
    hmem | ⟨request, rfl⟩ | ⟨index, before, -, hbefore, hstatement⟩
  · exact h thread hmem
  · exact hhandler request
  · exact (h before (List.mem_of_getElem? hbefore)).statement apply hstatement

end

/-- A relation that every action keeps holds between what a query has read and
the rows that are committed later. -/
theorem reads_step (related : σ → σ → Prop)
    {system next : System κ σ ω ι ε ρ} {action : SystemAction κ ξ}
    (hact : act handler apply outside system action = some next)
    (hself : related system.rows system.rows)
    (hrows : ∀ thread ∈ system.running, ∀ rows, .read rows ∈ thread.history →
      related rows system.rows → related rows next.rows)
    (h : ∀ thread ∈ system.running, ∀ rows, .read rows ∈ thread.history →
      related rows system.rows) :
    ∀ thread ∈ next.running, ∀ rows, .read rows ∈ thread.history →
      related rows next.rows := by
  intro thread hmem rows hread
  rcases mem_running_act handler apply outside hact hmem with
    hmem | ⟨request, rfl⟩ | ⟨index, before, -, hindex, hstatement⟩
  · exact hrows thread hmem rows hread (h thread hmem rows hread)
  · exact absurd hread List.not_mem_nil
  · have hbefore := List.mem_of_getElem? hindex
    have hkept := fun hread => hrows before hbefore rows hread (h before hbefore rows hread)
    rcases statement_cases apply hstatement with ⟨rest, -, hsame, rfl⟩ |
      ⟨write, rest, value, -, -, rfl⟩ | ⟨write, rest, error, -, -, -, rfl⟩
    · rcases List.mem_append.mp hread with hread | hread
      · exact hkept hread
      · obtain rfl := Executed.read.inj (List.mem_singleton.mp hread)
        rw [hsame]
        exact hself
    · rcases List.mem_append.mp hread with hread | hread
      · exact hkept hread
      · have hsame := List.mem_singleton.mp hread
        contradiction
    · rcases List.mem_append.mp hread with hread | hread
      · exact hkept hread
      · have hsame := List.mem_singleton.mp hread
        contradiction

/-- What a commit made true of the rows, and every action keeps, holds of all that
was written. -/
theorem writes_step (holds : ω → ι → σ → Prop)
    {system next : System κ σ ω ι ε ρ} {action : SystemAction κ ξ}
    (hact : act handler apply outside system action = some next)
    (hnew : ∀ write value, apply write system.rows = Except.ok (value, next.rows) →
      holds write value next.rows)
    (hkept : ∀ write value, holds write value system.rows → holds write value next.rows)
    (h : ∀ thread ∈ system.running, ∀ write value, .wrote write value ∈ thread.history →
      holds write value system.rows) :
    ∀ thread ∈ next.running, ∀ write value, .wrote write value ∈ thread.history →
      holds write value next.rows := by
  intro thread hmem write value hwrote
  rcases mem_running_act handler apply outside hact hmem with
    hmem | ⟨request, rfl⟩ | ⟨index, before, -, hindex, hstatement⟩
  · exact hkept write value (h thread hmem write value hwrote)
  · exact absurd hwrote List.not_mem_nil
  · have hbefore := List.mem_of_getElem? hindex
    have hold := fun hwrote => hkept write value (h before hbefore write value hwrote)
    rcases statement_cases apply hstatement with ⟨rest, -, -, rfl⟩ |
      ⟨other, rest, result, -, happly, rfl⟩ | ⟨other, rest, error, -, -, -, rfl⟩
    · rcases List.mem_append.mp hwrote with hwrote | hwrote
      · exact hold hwrote
      · have hsame := List.mem_singleton.mp hwrote
        contradiction
    · rcases List.mem_append.mp hwrote with hwrote | hwrote
      · exact hold hwrote
      · rcases Executed.wrote.inj (List.mem_singleton.mp hwrote) with ⟨rfl, rfl⟩
        exact hnew write value happly
    · rcases List.mem_append.mp hwrote with hwrote | hwrote
      · exact hold hwrote
      · have hsame := List.mem_singleton.mp hwrote
        contradiction

/-- The statement was executed on the rows. -/
def ExecutedOn (rows : σ) : Executed σ ω ι ε → Prop
  | .read seen => seen = rows
  | .wrote write value => ∃ changed, apply write rows = Except.ok (value, changed)
  | .refused write error => apply write rows = Except.error error

/-- A statement adds its own execution to the history. -/
theorem statement_history {thread next : Running κ σ ω ι ε ρ} {rows changed : σ}
    (h : statement apply thread rows = some (next, changed)) :
    next.request = thread.request ∧
      ∃ last, next.history = thread.history ++ [last] ∧ ExecutedOn apply rows last := by
  rcases statement_cases apply h with ⟨rest, -, -, rfl⟩ |
    ⟨write, rest, value, -, happly, rfl⟩ | ⟨write, rest, error, -, happly, -, rfl⟩
  · exact ⟨rfl, .read rows, rfl, rfl⟩
  · exact ⟨rfl, .wrote write value, rfl, changed, happly⟩
  · exact ⟨rfl, .refused write error, rfl, happly⟩

/-- What links a history to the rows held when its last statement was executed. -/
theorem appended_step (linked : List (Executed σ ω ι ε) → σ → Prop)
    {system next : System κ σ ω ι ε ρ} {action : SystemAction κ ξ}
    (hact : act handler apply outside system action = some next)
    (hlinked : ∀ thread ∈ system.running, linked thread.history system.rows)
    (h : ∀ thread ∈ system.running, ∀ before last, thread.history = before ++ [last] →
      ∃ rows, linked before rows ∧ ExecutedOn apply rows last) :
    ∀ thread ∈ next.running, ∀ before last, thread.history = before ++ [last] →
      ∃ rows, linked before rows ∧ ExecutedOn apply rows last := by
  intro thread hmem before last hhistory
  rcases mem_running_act handler apply outside hact hmem with
    hmem | ⟨request, rfl⟩ | ⟨index, earlier, -, hindex, hstatement⟩
  · exact h thread hmem before last hhistory
  · simp at hhistory
  · rcases statement_history apply hstatement with ⟨-, executed, happend, hexecuted⟩
    rw [hhistory] at happend
    rcases List.append_inj' happend rfl with ⟨rfl, hlast⟩
    rw [List.singleton_inj.mp hlast]
    exact ⟨system.rows, hlinked earlier (List.mem_of_getElem? hindex), hexecuted⟩

/-- Every request stays in its place and goes on from what it has executed. -/
theorem getElem?_act {system next : System κ σ ω ι ε ρ} {action : SystemAction κ ξ}
    (hact : act handler apply outside system action = some next) {place : ℕ}
    {thread : Running κ σ ω ι ε ρ} (hplace : system.running[place]? = some thread) :
    ∃ later, next.running[place]? = some later ∧ later.request = thread.request ∧
      thread.history <+: later.history := by
  rcases act_cases handler apply outside hact with ⟨request, -, rfl⟩ |
    ⟨index, before, after, -, hbefore, hstatement, hrunning⟩ | ⟨change, -, rfl⟩
  · refine ⟨thread, ?_, rfl, List.prefix_rfl⟩
    exact (List.getElem?_append_left (List.getElem?_eq_some_iff.mp hplace).1).trans hplace
  · rw [hrunning]
    by_cases hindex : index = place
    · subst hindex
      obtain rfl := Option.some.inj (hbefore.symm.trans hplace)
      rcases statement_history apply hstatement with ⟨hrequest, last, hhistory, -⟩
      refine ⟨after, List.getElem?_set_self (List.getElem?_eq_some_iff.mp hplace).1, hrequest, ?_⟩
      rw [hhistory]
      exact List.prefix_append _ _
    · refine ⟨thread, ?_, rfl, List.prefix_rfl⟩
      rw [List.getElem?_set_ne hindex, hplace]
  · exact ⟨thread, hplace, rfl, List.prefix_rfl⟩

/-- Every request is still there, after the statements that it had executed. -/
theorem later_act {system next : System κ σ ω ι ε ρ} {action : SystemAction κ ξ}
    (hact : act handler apply outside system action = some next)
    {thread : Running κ σ ω ι ε ρ} (hmem : thread ∈ system.running) :
    ∃ later ∈ next.running, later.request = thread.request ∧
      thread.history <+: later.history := by
  rcases List.getElem?_of_mem hmem with ⟨place, hplace⟩
  rcases getElem?_act handler apply outside hact hplace with ⟨later, hlater, hkept⟩
  exact ⟨later, List.mem_of_getElem? hlater, hkept⟩

/-- A request that has answered stays as it is. -/
theorem answered_act {system next : System κ σ ω ι ε ρ} {action : SystemAction κ ξ}
    (hact : act handler apply outside system action = some next)
    {thread : Running κ σ ω ι ε ρ} (hmem : thread ∈ system.running) {response : ρ}
    (hanswer : thread.program.answerOf = some response) : thread ∈ next.running := by
  rcases act_cases handler apply outside hact with ⟨request, -, rfl⟩ |
    ⟨index, before, after, -, hbefore, hstatement, hrunning⟩ | ⟨change, -, rfl⟩
  · exact List.mem_append_left _ hmem
  · rw [hrunning]
    rcases List.getElem?_of_mem hmem with ⟨other, hother⟩
    have hindex : index ≠ other := by
      rintro rfl
      obtain rfl := Option.some.inj (hbefore.symm.trans hother)
      rcases statement_cases apply hstatement with ⟨rest, hprogram, -⟩ |
        ⟨write, rest, value, hprogram, -⟩ | ⟨write, rest, error, hprogram, -⟩ <;>
          rw [hprogram] at hanswer <;> contradiction
    refine List.mem_of_getElem? (i := other) ?_
    rw [List.getElem?_set_ne hindex]
    exact hother
  · exact hmem

/-- The rows change by a commit or from outside only. -/
theorem rows_act {system next : System κ σ ω ι ε ρ} {action : SystemAction κ ξ}
    (h : act handler apply outside system action = some next) :
    next.rows = system.rows ∨
      (∃ index thread write rest value, action = .run index ∧
        system.running[index]? = some thread ∧ thread.program = .commit write rest ∧
          apply write system.rows = Except.ok (value, next.rows)) ∨
      ∃ change, action = .other change ∧ next.rows = outside change system.rows := by
  rcases act_cases handler apply outside h with ⟨request, -, rfl⟩ |
    ⟨index, before, after, haction, hbefore, hstatement, -⟩ | ⟨change, haction, rfl⟩
  · exact Or.inl rfl
  · rcases statement_cases apply hstatement with ⟨rest, -, hsame, -⟩ |
      ⟨write, rest, value, hprogram, happly, -⟩ | ⟨write, rest, error, -, -, hsame, -⟩
    · exact Or.inl hsame
    · exact Or.inr (Or.inl ⟨index, before, write, rest, value, haction, hbefore,
        hprogram, happly⟩)
    · exact Or.inl hsame
  · exact Or.inr (Or.inr ⟨change, haction, rfl⟩)

end System

end Library
end Driscord
