import Mathlib.Logic.Function.Basic

/-!
# Programs of atomic steps over a shared state

A `StepProgram` is a sequential program whose only effects are atomic accesses
to a shared state.  One access is one step, and the rest of the program may
depend on what the access returned.  Running a program alone gives its
sequential meaning; taking its steps one at a time gives the meaning that an
interleaving with another program needs.  Both readings are of the same text.

The file supplies the sequential equations, an invariant that holds at every
unfinished state of a run, and the notion of a program that only sees a part of
the state.
-/

namespace DlpSystem.Lib

/-- A program over a shared state `σ` with result type `α`.  Each `step` is one
atomic access. -/
inductive StepProgram (σ : Type) (α : Type) : Type 1
  | done (result : α)
  | step {β : Type} (act : σ → β × σ) (next : β → StepProgram σ α)

namespace StepProgram

variable {σ α β γ : Type}

/-- Sequential composition. -/
def bind : StepProgram σ α → (α → StepProgram σ β) → StepProgram σ β
  | done result, rest => rest result
  | step act next, rest => step act fun value => bind (next value) rest

instance : Monad (StepProgram σ) where
  pure := done
  bind := bind

/-- One atomic read of the shared state. -/
def load (read : σ → α) : StepProgram σ α :=
  step (fun state => (read state, state)) done

/-- One atomic write of the shared state. -/
def store (write : σ → σ) : StepProgram σ Unit :=
  step (fun state => ((), write state)) done

@[simp]
theorem pure_eq_done (result : α) : (pure result : StepProgram σ α) = done result :=
  rfl

@[simp]
theorem done_bind (result : α) (rest : α → StepProgram σ β) :
    (done result : StepProgram σ α) >>= rest = rest result :=
  rfl

theorem step_bind (act : σ → γ × σ) (next : γ → StepProgram σ α)
    (rest : α → StepProgram σ β) :
    step act next >>= rest = step act fun value => next value >>= rest :=
  rfl

private theorem bind_done_right (program : StepProgram σ α) :
    program.bind done = program := by
  induction program with
  | done result => rfl
  | step act next ih =>
      simp only [bind]
      congr
      funext value
      exact ih value

private theorem bind_bind (program : StepProgram σ α) (middle : α → StepProgram σ β)
    (rest : β → StepProgram σ γ) :
    (program.bind middle).bind rest =
      program.bind fun value => (middle value).bind rest := by
  induction program with
  | done result => rfl
  | step act next ih =>
      simp only [bind]
      congr
      funext value
      exact ih value

instance : LawfulMonad (StepProgram σ) :=
  LawfulMonad.mk' _ bind_done_right (fun _ _ => rfl) bind_bind

/-! ## Running a program alone -/

/-- Run a program to its end with no other program taking a step. -/
def run : StepProgram σ α → σ → α × σ
  | done result, state => (result, state)
  | step act next, state => run (next (act state).1) (act state).2

@[simp]
theorem run_done (result : α) (state : σ) :
    (done result : StepProgram σ α).run state = (result, state) :=
  rfl

@[simp]
theorem run_load (read : σ → α) (state : σ) :
    (load read).run state = (read state, state) :=
  rfl

@[simp]
theorem run_store (write : σ → σ) (state : σ) :
    (store write).run state = ((), write state) :=
  rfl

@[simp]
theorem run_bind (program : StepProgram σ α) (rest : α → StepProgram σ β) (state : σ) :
    (program >>= rest).run state =
      (rest (program.run state).1).run (program.run state).2 := by
  induction program generalizing state with
  | done result => rfl
  | step act next ih => exact ih (act state).1 (act state).2

/-- A load hands its value to the rest of the program. -/
theorem run_load_bind (read : σ → α) (rest : α → StepProgram σ β) (state : σ) :
    (load read >>= rest).run state = (rest (read state)).run state := by
  rw [run_bind, run_load]

theorem run_store_bind (write : σ → σ) (rest : Unit → StepProgram σ β) (state : σ) :
    (store write >>= rest).run state = (rest ()).run (write state) := by
  rw [run_bind, run_store]

theorem run_ite (condition : Prop) [Decidable condition] (yes no : StepProgram σ α) (state : σ) :
    (if condition then yes else no).run state =
      if condition then yes.run state else no.run state := by
  split <;> rfl

/-! ## Taking one step -/

/-- Take the next atomic step, if there is one. -/
def advance : StepProgram σ α → σ → StepProgram σ α × σ
  | done result, state => (done result, state)
  | step act next, state => (next (act state).1, (act state).2)

/-- A step of a program does not change what its run ends in. -/
theorem run_advance (program : StepProgram σ α) (state : σ) :
    (program.advance state).1.run (program.advance state).2 = program.run state := by
  cases program <;> rfl

/-! ## Invariants of unfinished states -/

/-- `invariant` holds in every state of the run in which the program still has
a step to take. -/
def Throughout (invariant : σ → Prop) : StepProgram σ α → σ → Prop
  | done _, _ => True
  | step act next, state =>
      invariant state ∧ Throughout invariant (next (act state).1) (act state).2

theorem throughout_bind {invariant : σ → Prop} (program : StepProgram σ α)
    (rest : α → StepProgram σ β) (state : σ) :
    Throughout invariant (program >>= rest) state ↔
      Throughout invariant program state ∧
        Throughout invariant (rest (program.run state).1) (program.run state).2 := by
  induction program generalizing state with
  | done result => simp [Throughout]
  | step act next ih =>
      have tail := ih (act state).1 (act state).2
      simp only [step_bind, Throughout, run, tail, and_assoc]

/-- A property that every step of the program preserves holds throughout. -/
theorem Throughout.mono {weak strong : σ → Prop} (implies : ∀ state, strong state → weak state)
    {program : StepProgram σ α} {state : σ} (holds : Throughout strong program state) :
    Throughout weak program state := by
  induction program generalizing state with
  | done result => trivial
  | step act next ih => exact ⟨implies state holds.1, ih _ holds.2⟩

theorem Throughout.advance {invariant : σ → Prop} {program : StepProgram σ α} {state : σ}
    (holds : Throughout invariant program state) :
    Throughout invariant (program.advance state).1 (program.advance state).2 := by
  cases program with
  | done result => trivial
  | step act next => exact holds.2

theorem throughout_load_bind {invariant : σ → Prop} (read : σ → α) (rest : α → StepProgram σ β)
    (state : σ) :
    Throughout invariant (load read >>= rest) state ↔
      invariant state ∧ Throughout invariant (rest (read state)) state :=
  Iff.rfl

theorem throughout_store_bind {invariant : σ → Prop} (write : σ → σ)
    (rest : Unit → StepProgram σ β) (state : σ) :
    Throughout invariant (store write >>= rest) state ↔
      invariant state ∧ Throughout invariant (rest ()) (write state) :=
  Iff.rfl

/-- No step of the program changes `view` of the state. -/
def Keeps (view : σ → γ) : StepProgram σ α → Prop
  | done _ => True
  | step act next => (∀ state, view (act state).2 = view state) ∧ ∀ value, Keeps view (next value)

variable {view : σ → γ}

theorem keeps_load_bind (read : σ → α) {rest : α → StepProgram σ β}
    (keeps : ∀ value, Keeps view (rest value)) : Keeps view (load read >>= rest) :=
  ⟨fun _ => rfl, keeps⟩

theorem keeps_store_bind {write : σ → σ} {rest : Unit → StepProgram σ β}
    (unchanged : ∀ state, view (write state) = view state) (keeps : Keeps view (rest ())) :
    Keeps view (store write >>= rest) :=
  ⟨unchanged, fun _ => keeps⟩

theorem keeps_bind {program : StepProgram σ α} {rest : α → StepProgram σ β}
    (first : Keeps view program) (second : ∀ value, Keeps view (rest value)) :
    Keeps view (program >>= rest) := by
  induction program with
  | done result => exact second result
  | step act next ih => exact ⟨first.1, fun value => ih value (first.2 value)⟩

theorem Keeps.run_snd {program : StepProgram σ α} (keeps : Keeps view program) (state : σ) :
    view (program.run state).2 = view state := by
  induction program generalizing state with
  | done result => rfl
  | step act next ih => exact (ih _ (keeps.2 _) _).trans (keeps.1 state)

theorem Keeps.throughout {program : StepProgram σ α} (keeps : Keeps view program) (state : σ) :
    Throughout (fun other => view other = view state) program state := by
  induction program generalizing state with
  | done result => trivial
  | step act next ih =>
      refine ⟨rfl, ?_⟩
      have tail := ih _ (keeps.2 (act state).1) (act state).2
      rwa [keeps.1 state] at tail

/-! ## Programs that see a part of the state -/

/-- Run from `state`, the program changes nothing, and every access returns the
same value in each state that `same` relates to `state`. -/
def Sees (same : σ → σ → Prop) : StepProgram σ α → σ → Prop
  | done _, _ => True
  | step act next, state =>
      (∀ other, same state other → act other = ((act state).1, other)) ∧
        Sees same (next (act state).1) state

variable {same : σ → σ → Prop}

/-- Related states give a program that sees only their common part the same result. -/
theorem Sees.run_fst_eq {program : StepProgram σ α} {state other : σ}
    (sees : Sees same program state) (refl : same state state) (related : same state other) :
    (program.run other).1 = (program.run state).1 := by
  induction program with
  | done result => rfl
  | step act next ih =>
      simp only [run, sees.1 other related, congrArg Prod.snd (sees.1 state refl)]
      exact ih _ sees.2

theorem sees_bind {program : StepProgram σ α} {rest : α → StepProgram σ β} {state : σ}
    (refl : same state state) (first : Sees same program state)
    (second : Sees same (rest (program.run state).1) state) :
    Sees same (program >>= rest) state := by
  induction program with
  | done result => exact second
  | step act next ih =>
      have unchanged : (act state).2 = state := congrArg Prod.snd (first.1 state refl)
      simp only [run, unchanged] at second
      exact ⟨first.1, ih _ first.2 second⟩

/-- A load and the program that goes on with the loaded value. -/
theorem sees_load_bind {read : σ → α} {rest : α → StepProgram σ β} {state : σ}
    (agree : ∀ other, same state other → read other = read state)
    (second : Sees same (rest (read state)) state) :
    Sees same (load read >>= rest) state :=
  ⟨fun other related => by simp [agree other related], second⟩

/-- One step taken in a related state leaves that state alone, and the program
that remains still ends as the run from `state` does. -/
theorem Sees.advance {program : StepProgram σ α} {state other : σ}
    (sees : Sees same program state) (refl : same state state)
    (related : same state other) :
    (program.advance other).2 = other ∧
      Sees same (program.advance other).1 state ∧
      ((program.advance other).1.run state).1 = (program.run state).1 := by
  cases program with
  | done result => exact ⟨rfl, trivial, rfl⟩
  | step act next =>
      have unchanged : (act state).2 = state := congrArg Prod.snd (sees.1 state refl)
      simp only [StepProgram.advance, sees.1 other related, run, unchanged]
      exact ⟨trivial, sees.2, trivial⟩

end StepProgram

/-! ## Interleaving two step programs

Two programs share one state.  A schedule says whose turn it is; the program
whose turn it is takes one atomic step.  The session records the state in which
the second program took its first step, because protocols of the
version-counter kind are judged by what that step observed.
-/

/-- Which of the two programs takes the next step. -/
inductive Turn
  | first
  | second
  deriving DecidableEq, Repr

/-- Two programs in progress over a shared state. -/
structure Session (σ α β : Type) where
  first : StepProgram σ α
  second : StepProgram σ β
  shared : σ
  /-- The state in which the second program took its first step. -/
  entered : Option σ

namespace Session

variable {σ α β γ : Type}

/-- Both programs about to start. -/
def start (first : StepProgram σ α) (second : StepProgram σ β) (shared : σ) :
    Session σ α β :=
  ⟨first, second, shared, none⟩

/-- One turn. -/
def take (session : Session σ α β) : Turn → Session σ α β
  | .first =>
      { session with
        first := (session.first.advance session.shared).1
        shared := (session.first.advance session.shared).2 }
  | .second =>
      { session with
        second := (session.second.advance session.shared).1
        shared := (session.second.advance session.shared).2
        entered := session.entered.or (some session.shared) }

/-- All turns of a schedule. -/
def runTurns (session : Session σ α β) (turns : List Turn) : Session σ α β :=
  turns.foldl take session

@[simp]
theorem runTurns_nil (session : Session σ α β) : session.runTurns [] = session :=
  rfl

@[simp]
theorem runTurns_cons (session : Session σ α β) (turn : Turn) (turns : List Turn) :
    session.runTurns (turn :: turns) = (session.take turn).runTurns turns :=
  rfl

theorem runTurns_append (session : Session σ α β) (before after : List Turn) :
    session.runTurns (before ++ after) = (session.runTurns before).runTurns after :=
  List.foldl_append

/-- `allowed` holds of every turn of the schedule, in the session in which that
turn is taken. -/
def Along (allowed : Session σ α β → Turn → Prop) :
    Session σ α β → List Turn → Prop
  | _, [] => True
  | session, turn :: turns =>
      allowed session turn ∧ Along allowed (session.take turn) turns

/-- Invariant rule for schedules all of whose turns are allowed. -/
theorem Along.invariant {allowed : Session σ α β → Turn → Prop}
    {invariant : Session σ α β → Prop}
    (preserved : ∀ session turn, invariant session → allowed session turn →
      invariant (session.take turn))
    {session : Session σ α β} {turns : List Turn} (along : Along allowed session turns)
    (holds : invariant session) : invariant (session.runTurns turns) := by
  induction turns generalizing session with
  | nil => exact holds
  | cons turn turns ih =>
      exact ih along.2 (preserved session turn holds along.1)

/-! ### Sessions that a schedule reaches -/

/-- Some schedule leads from one session to the other. -/
def Reaches (source target : Session σ α β) : Prop :=
  ∃ turns, source.runTurns turns = target

theorem Reaches.trans {source middle target : Session σ α β} (left : Reaches source middle)
    (right : Reaches middle target) : Reaches source target := by
  rcases left with ⟨before, rfl⟩
  rcases right with ⟨after, rfl⟩
  exact ⟨before ++ after, runTurns_append source before after⟩

/-- Turns of the first program alone run a leading part of it. -/
theorem reaches_first_bind (program : StepProgram σ γ) (rest : γ → StepProgram σ α)
    (second : StepProgram σ β) (shared : σ) (entered : Option σ) :
    Reaches ⟨program >>= rest, second, shared, entered⟩
      ⟨rest (program.run shared).1, second, (program.run shared).2, entered⟩ := by
  induction program generalizing shared with
  | done result => exact ⟨[], rfl⟩
  | step act next ih =>
      rcases ih (act shared).1 (act shared).2 with ⟨turns, reached⟩
      exact ⟨.first :: turns, reached⟩

/-- Turns of the second program alone, once it has entered, run a leading part
of it. -/
theorem reaches_second_bind (program : StepProgram σ γ) (rest : γ → StepProgram σ β)
    (first : StepProgram σ α) (shared entered : σ) :
    Reaches ⟨first, program >>= rest, shared, some entered⟩
      ⟨first, rest (program.run shared).1, (program.run shared).2, some entered⟩ := by
  induction program generalizing shared with
  | done result => exact ⟨[], rfl⟩
  | step act next ih =>
      rcases ih (act shared).1 (act shared).2 with ⟨turns, reached⟩
      exact ⟨.second :: turns, reached⟩

/-- One load of the first program. -/
theorem reaches_first_load (read : σ → γ) (rest : γ → StepProgram σ α)
    (second : StepProgram σ β) (shared : σ) (entered : Option σ) :
    Reaches ⟨StepProgram.load read >>= rest, second, shared, entered⟩
      ⟨rest (read shared), second, shared, entered⟩ :=
  ⟨[.first], rfl⟩

/-- One store of the first program. -/
theorem reaches_first_store (write : σ → σ) (rest : Unit → StepProgram σ α)
    (second : StepProgram σ β) (shared : σ) (entered : Option σ) :
    Reaches ⟨StepProgram.store write >>= rest, second, shared, entered⟩
      ⟨rest (), second, write shared, entered⟩ :=
  ⟨[.first], rfl⟩

/-- One load of the second program, once it has entered. -/
theorem reaches_second_load (read : σ → γ) (rest : γ → StepProgram σ β)
    (first : StepProgram σ α) (shared entered : σ) :
    Reaches ⟨first, StepProgram.load read >>= rest, shared, some entered⟩
      ⟨first, rest (read shared), shared, some entered⟩ :=
  ⟨[.second], rfl⟩

/-- The second program enters with a load. -/
theorem reaches_enter (read : σ → γ) (rest : γ → StepProgram σ β) (first : StepProgram σ α)
    (shared : σ) :
    Reaches (start first (StepProgram.load read >>= rest) shared)
      ⟨first, rest (read shared), shared, some shared⟩ :=
  ⟨[.second], rfl⟩

end Session

end DlpSystem.Lib
