import Mathlib.Data.List.Basic

/-!
# The thread suspender

`with_suspended_threads` of the hook DLL: all other threads of the host are suspended, the
closure writes the stub, and the threads are resumed.  A thread of the model carries what the
system calls on its handle will return and how often it was suspended and resumed, so each
loop of the source is a function from the list of threads to the list after it.
-/

namespace DlpSystem.Hook

/-- `PatchError`. -/
inductive PatchError
  | ripInStubRange
  | enumerationFailed
  | suspendFailed
  | resumeFailed
  deriving DecidableEq

/-- `ThreadInfo`, with the results of the calls on its handle and what they have done. -/
structure HostThread where
  tid : Nat
  /-- `SuspendThread` succeeds. -/
  suspends : Bool
  /-- What `GetThreadContext` reads. -/
  rip : Option Nat
  /-- `ResumeThread` after the closure succeeds. -/
  resumes : Bool
  /-- `ResumeThread` of the drop guard succeeds. -/
  resumesOnDrop : Bool
  suspensions : Nat
  resumptions : Nat
  resumeFailed : Bool
  deriving DecidableEq

/-- The thread as the enumeration finds it. -/
def HostThread.fresh (thread : HostThread) : HostThread :=
  { thread with suspensions := 0, resumptions := 0, resumeFailed := false }

/-- `SuspendThread`. -/
def HostThread.suspend (thread : HostThread) : HostThread :=
  if thread.suspends then { thread with suspensions := thread.suspensions + 1 } else thread

/-- `ResumeThread`, with its result. -/
def HostThread.resume (succeeds : HostThread → Bool) (thread : HostThread) : HostThread :=
  if succeeds thread then { thread with resumptions := thread.resumptions + 1 }
  else { thread with resumeFailed := true }

/-- `suspend_all_other_threads`: the threads after it, and whether every call succeeded. -/
def suspendAllOtherThreads (currentTid : Nat) : List HostThread → List HostThread × Bool
  | [] => ([], true)
  | thread :: threads =>
      if thread.tid = currentTid then
        (thread :: (suspendAllOtherThreads currentTid threads).1,
          (suspendAllOtherThreads currentTid threads).2)
      else if thread.suspends then
        (thread.suspend :: (suspendAllOtherThreads currentTid threads).1,
          (suspendAllOtherThreads currentTid threads).2)
      else (thread.suspend :: threads, false)

/-- `resume_all_threads`, with the results of its calls: the threads after it, and whether
every call succeeded. -/
def resumeAllThreads (succeeds : HostThread → Bool) (currentTid : Nat) :
    List HostThread → List HostThread × Bool
  | [] => ([], true)
  | thread :: threads =>
      if thread.tid = currentTid then
        (thread :: (resumeAllThreads succeeds currentTid threads).1,
          (resumeAllThreads succeeds currentTid threads).2)
      else if succeeds thread then
        (thread.resume succeeds :: (resumeAllThreads succeeds currentTid threads).1,
          (resumeAllThreads succeeds currentTid threads).2)
      else (thread.resume succeeds :: threads, false)

/-- `drop` of `ThreadSuspendGuard`, where the threads are not marked as resumed. -/
def dropGuard (currentTid : Nat) (threads : List HostThread) : List HostThread :=
  (resumeAllThreads HostThread.resumesOnDrop currentTid threads).1

/-- The instruction pointer is in the stub; the end of the stub wraps around. -/
def inStub (stubStart rip : Nat) : Bool :=
  decide (stubStart ≤ rip) && decide (rip < (stubStart + 5) % UInt64.size)

/-- The check of the instruction pointers. -/
def checkRips (stubStart currentTid : Nat) : List HostThread → Except PatchError Unit
  | [] => .ok ()
  | thread :: threads =>
      if thread.tid = currentTid then checkRips stubStart currentTid threads
      else
        match thread.rip with
        | none => .error .enumerationFailed
        | some rip =>
            if inStub stubStart rip then .error .ripInStubRange
            else checkRips stubStart currentTid threads

/-- How `with_suspended_threads` ends. -/
inductive PatchEnd (α : Type)
  | returned (result : Except PatchError α)
  | unwound
  deriving DecidableEq

/-- The steps of `with_suspended_threads` from the guard on. -/
def patchWithGuard {α : Type} (stubStart currentTid : Nat) (threads : List HostThread)
    (closure : Option α) : List HostThread × PatchEnd α :=
  match checkRips stubStart currentTid threads, closure with
  | .error error, _ => (dropGuard currentTid threads, .returned (.error error))
  | .ok _, none => (dropGuard currentTid threads, .unwound)
  | .ok _, some value =>
      match resumeAllThreads HostThread.resumes currentTid threads with
      | (resumed, true) => (resumed, .returned (.ok value))
      | (resumed, false) => (dropGuard currentTid resumed, .returned (.error .resumeFailed))

/-- `with_suspended_threads`, for the threads that the enumeration finds, if it succeeds, and
a closure that returns a value or panics: the threads at the end. -/
def withSuspendedThreads {α : Type} (stubStart currentTid : Nat)
    (enumerated : Option (List HostThread)) (closure : Option α) :
    List HostThread × PatchEnd α :=
  match enumerated with
  | none => ([], .returned (.error .enumerationFailed))
  | some found =>
      match suspendAllOtherThreads currentTid (found.map HostThread.fresh) with
      -- The guard does not exist yet.
      | (threads, false) => (threads, .returned (.error .suspendFailed))
      | (threads, true) => patchWithGuard stubStart currentTid threads closure

end DlpSystem.Hook
