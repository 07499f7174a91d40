import GastownQueue.GoInt

/-! The runtime state of the queue, `queue-state.json` (`queue_state.go`). `SaveQueueState`
writes a temp file and renames it, so the file is a register that a load reads whole and a save
replaces whole. Two read-modify-write sequences share it: the dispatcher's post-batch
`RecordDispatch` and an operator's pause. Each is atomic step by step but not as a whole. -/

namespace GastownQueue

structure QueueState where
  paused : Bool := false
  pausedBy : GoString := []
  pausedAt : GoString := []
  lastDispatchAt : GoString := []
  lastDispatchCount : GoInt := 0
  deriving DecidableEq, Repr

namespace QueueState

def setPaused (s : QueueState) (actor : GoString) (now : Rfc3339) : QueueState :=
  { s with paused := true, pausedBy := actor, pausedAt := now.text }

def setResumed (s : QueueState) : QueueState :=
  { s with paused := false, pausedBy := [], pausedAt := [] }

def recordDispatch (s : QueueState) (count : GoInt) (now : Rfc3339) : QueueState :=
  { s with lastDispatchAt := now.text, lastDispatchCount := count }

@[simp] theorem setPaused_paused (s : QueueState) (actor : GoString) (now : Rfc3339) :
    (s.setPaused actor now).paused = true := rfl

@[simp] theorem setPaused_pausedBy (s : QueueState) (actor : GoString) (now : Rfc3339) :
    (s.setPaused actor now).pausedBy = actor := rfl

@[simp] theorem setPaused_lastDispatchCount (s : QueueState) (actor : GoString) (now : Rfc3339) :
    (s.setPaused actor now).lastDispatchCount = s.lastDispatchCount := rfl

@[simp] theorem recordDispatch_paused (s : QueueState) (count : GoInt) (now : Rfc3339) :
    (s.recordDispatch count now).paused = s.paused := rfl

@[simp] theorem recordDispatch_pausedBy (s : QueueState) (count : GoInt) (now : Rfc3339) :
    (s.recordDispatch count now).pausedBy = s.pausedBy := rfl

@[simp] theorem recordDispatch_lastDispatchCount (s : QueueState) (count : GoInt) (now : Rfc3339) :
    (s.recordDispatch count now).lastDispatchCount = count := rfl

end QueueState

/-- What `queue-state.json` holds: nothing yet, a saved state, or text that `LoadQueueState`
cannot read, with the error it reports. -/
abbrev QueueStateFile := Except GoString (Option QueueState)

/-- `LoadQueueState`: a missing file reads as the zero state. -/
def loadQueueState (f : QueueStateFile) : Except GoString QueueState :=
  f.map fun s => s.getD {}

def saveQueueState (s : QueueState) : QueueStateFile :=
  .ok (some s)

theorem loadQueueState_saveQueueState (s : QueueState) :
    loadQueueState (saveQueueState s) = .ok s := rfl

/-- The two processes that update the file. -/
inductive Updater
  | dispatcher
  | operator
  deriving DecidableEq, Repr

def Updater.other : Updater → Updater
  | .dispatcher => .operator
  | .operator => .dispatcher

theorem length_eq_count_add (l : List Updater) :
    l.length = l.count .dispatcher + l.count .operator := by
  induction l with
  | nil => rfl
  | cons u l ih => cases u <;> simp [List.count_cons, ih] <;> omega

/-- Where a sequence is: not started, holding the copy it loaded and changed, or saved. -/
inductive RmwPc
  | start
  | loaded (copy : QueueState)
  | saved
  deriving DecidableEq, Repr

/-- The readable file and the two sequences. -/
structure RmwSys where
  file : Option QueueState
  dispatcher : RmwPc := .start
  operator : RmwPc := .start
  deriving DecidableEq, Repr

namespace RmwSys

def pc (s : RmwSys) : Updater → RmwPc
  | .dispatcher => s.dispatcher
  | .operator => s.operator

def setPc (s : RmwSys) : Updater → RmwPc → RmwSys
  | .dispatcher, p => { s with dispatcher := p }
  | .operator, p => { s with operator := p }

/-- One atomic step of a sequence: its `LoadQueueState`, with its change made to the copy, then
its `SaveQueueState`. A finished sequence takes no more steps. -/
def step (change : Updater → QueueState → QueueState) (s : RmwSys) (u : Updater) : RmwSys :=
  match s.pc u with
  | .start => s.setPc u (.loaded (change u (s.file.getD {})))
  | .loaded copy => { s.setPc u .saved with file := some copy }
  | .saved => s

/-- An interleaving, as the list of which sequence moves at each step. -/
def run (change : Updater → QueueState → QueueState) (s : RmwSys) (sched : List Updater) :
    RmwSys :=
  sched.foldl (step change) s

end RmwSys

/-- The dispatcher's `RecordDispatch(n)` and the operator's `SetPaused(by)`. -/
def pauseAndRecord (n : GoInt) (actor : GoString) (tD tO : Rfc3339) :
    Updater → QueueState → QueueState
  | .dispatcher, s => s.recordDispatch n tD
  | .operator, s => s.setPaused actor tO

/-- The two sequences run one after the other, in either order. -/
def Sequential (sched : List Updater) : Prop :=
  sched = [.dispatcher, .dispatcher, .operator, .operator] ∨
    sched = [.operator, .operator, .dispatcher, .dispatcher]

instance : DecidablePred Sequential := fun _ => inferInstanceAs (Decidable (_ ∨ _))

/-- Every interleaving of the two sequences, whatever each changes: the sequence that saves last
writes its change of the state it loaded, which holds the other's change only when the two did
not overlap. Otherwise the first save is lost. -/
theorem run_file_of_interleaving (change : Updater → QueueState → QueueState)
    (init : Option QueueState) (sched : List Updater) (hd : sched.count .dispatcher = 2)
    (ho : sched.count .operator = 2) :
    (RmwSys.run change { file := init } sched).file = sched.getLast?.map fun u =>
      change u (if Sequential sched then change u.other (init.getD {}) else init.getD {}) := by
  have hlen : sched.length = 4 := by rw [length_eq_count_add]; omega
  rcases sched with _ | ⟨a, _ | ⟨b, _ | ⟨c, _ | ⟨e, _ | ⟨f, l⟩⟩⟩⟩⟩ <;> simp at hlen
  cases a <;> cases b <;> cases c <;> cases e <;> simp at hd ho <;> rfl

def sampleTime : Rfc3339 := ⟨"2026-01-01T00:00:00Z".toList, by decide⟩

/-- The dispatcher loads, the operator pauses and saves, the dispatcher saves: the pause is
gone. -/
theorem pause_clobbered_by_dispatch :
    (RmwSys.run (pauseAndRecord 1 "admin".toList sampleTime sampleTime) { file := none }
      [.dispatcher, .operator, .operator, .dispatcher]).file.map (·.paused) = some false := by
  decide

/-- When one sequence saves before the other loads, the file ends with both changes: paused by
the operator and stamped with the dispatcher's count. -/
theorem sequential_pause_and_record (n : GoInt) (actor : GoString) (tD tO : Rfc3339)
    (init : Option QueueState) (sched : List Updater) (hseq : Sequential sched) :
    ∃ s, (RmwSys.run (pauseAndRecord n actor tD tO) { file := init } sched).file = some s ∧
      s.paused = true ∧ s.pausedBy = actor ∧ s.lastDispatchCount = n := by
  rcases hseq with rfl | rfl <;>
    exact ⟨_, rfl, by simp [RmwSys.step, RmwSys.pc, RmwSys.setPc, pauseAndRecord]⟩

/-- **The pause and the dispatch record.** Take any interleaving of the dispatcher's
`LoadQueueState`, `RecordDispatch(n)`, `SaveQueueState` with an operator's `LoadQueueState`,
`SetPaused(by)`, `SaveQueueState`, from any stored state. When one sequence saves before the
other loads, the file ends paused by the operator and stamped with the dispatcher's count. When
they overlap, the file ends with the change of the sequence that saved last, made to the state
found at the start: the other's change is lost. -/
theorem pause_and_record_interleavings (n : GoInt) (actor : GoString) (tD tO : Rfc3339)
    (init : Option QueueState) (sched : List Updater) (hd : sched.count .dispatcher = 2)
    (ho : sched.count .operator = 2) :
    (Sequential sched →
      ∃ s, (RmwSys.run (pauseAndRecord n actor tD tO) { file := init } sched).file = some s ∧
        s.paused = true ∧ s.pausedBy = actor ∧ s.lastDispatchCount = n) ∧
      (¬ Sequential sched →
        (RmwSys.run (pauseAndRecord n actor tD tO) { file := init } sched).file =
          sched.getLast?.map fun u => pauseAndRecord n actor tD tO u (init.getD {})) := by
  refine ⟨sequential_pause_and_record n actor tD tO init sched, fun hs => ?_⟩
  rw [run_file_of_interleaving _ init sched hd ho]
  simp only [hs, if_false]

/-- The dispatcher loads, the operator pauses and saves, the dispatcher saves: the file holds
the dispatcher's count on the state found at the start, and no pause. -/
theorem pause_and_record_interleavings_overlap :
    [Updater.dispatcher, .operator, .operator, .dispatcher].count .dispatcher = 2 ∧
      [Updater.dispatcher, .operator, .operator, .dispatcher].count .operator = 2 ∧
      ¬ Sequential [.dispatcher, .operator, .operator, .dispatcher] ∧
      (RmwSys.run (pauseAndRecord 1 "admin".toList sampleTime sampleTime) { file := none }
          [.dispatcher, .operator, .operator, .dispatcher]).file =
        [Updater.dispatcher, .operator, .operator, .dispatcher].getLast?.map fun u =>
          pauseAndRecord 1 "admin".toList sampleTime sampleTime u
            ((none : Option QueueState).getD {}) :=
  have hd : [Updater.dispatcher, .operator, .operator, .dispatcher].count .dispatcher = 2 := by
    decide
  have ho : [Updater.dispatcher, .operator, .operator, .dispatcher].count .operator = 2 := by
    decide
  have hs : ¬ Sequential [.dispatcher, .operator, .operator, .dispatcher] := by decide
  ⟨hd, ho, hs, (pause_and_record_interleavings 1 "admin".toList sampleTime sampleTime none _ hd
    ho).2 hs⟩

end GastownQueue
