import GastownQueue.Enqueue

/-! The queue as a protocol on one bead of the issue store. Every `bd update` is one atomic
step on the bead's description, labels and status. `enqueueBead` executions run their reads and
writes as separate steps (the info read, the metadata write, the label add, the rollback, the
convoy lookup and the re-persist); the dispatcher runs one cycle at a time under its file lock
(the ready snapshot, `executeSling`, then the updates `dispatchSingleBead` issues); the
environment changes the status. An executor that succeeds has hooked the bead. The ghost counter
`failuresRecorded` counts the failure descriptions the dispatcher has written. -/

namespace GastownQueue

def BeadUpdate.isDescription : BeadUpdate → Bool
  | .description _ => true
  | .labels _ _ => false

namespace Store

/-- The statuses `enqueueBead` and `bd ready` tell apart. -/
inductive BeadStatus
  | open
  | pinned
  | hooked
  | inProgress
  | closed
  deriving DecidableEq, Repr

/-- The bead's row in the store. -/
structure Bead where
  description : GoString
  labels : List GoString
  status : BeadStatus
  deriving DecidableEq, Repr

/-- `bd update <id>`: a new description, or the labels with `--remove-label`s dropped and
`--add-label`s set. -/
def Bead.update (b : Bead) : BeadUpdate → Bead
  | .description text => { b with description := text }
  | .labels add remove => { b with labels := add.foldl setKey (b.labels.filter (· ∉ remove)) }

/-- A write to the bead: an update the queue code issues, or a status change by the executor
(which hooks the bead it slings) or by an operator. -/
inductive BeadWrite
  | update (u : BeadUpdate)
  | status (st : BeadStatus)
  deriving DecidableEq, Repr

def Bead.write (b : Bead) : BeadWrite → Bead
  | .update u => b.update u
  | .status st => { b with status := st }

/-- The bead after the write of a step, if it makes one. -/
def Bead.writeOpt (b : Bead) : Option BeadWrite → Bead
  | some w => b.write w
  | none => b

/-- `--add-label=gt:queued`. -/
def queueLabelUpdate : BeadUpdate :=
  .labels [labelQueued] []

/-- One `enqueueBead(beadID, rigName, opts)` call, with the clock reading it stamps. -/
structure EnqueueCall where
  rigName : GoString
  opts : EnqueueOptions
  now : Rfc3339

/-- Where an `enqueueBead` execution is. -/
inductive EnqPc
  | start
  | writeMeta (meta : QueueMetadata) (baseDesc : GoString)
  | addLabel (meta : QueueMetadata) (baseDesc : GoString)
  | rollback (baseDesc : GoString)
  | convoy (meta : QueueMetadata) (baseDesc : GoString)
  | repersist (desc : GoString)
  | done
  deriving DecidableEq, Repr

/-- What `enqueueBead` decides from `getBeadInfo`: return at once (already queued, hooked or
pinned without `--force`, or a dry run), or write the metadata after the stripped
description. -/
def enqueueDecision (call : EnqueueCall) (info : Bead) : Option (QueueMetadata × GoString) :=
  if labelQueued ∈ info.labels ∧ info.status = .open then none
  else if (info.status = .pinned ∨ info.status = .hooked) ∧ call.opts.force = false then none
  else if call.opts.dryRun then none
  else some (enqueueMetadata call.rigName call.now call.opts, stripQueueMetadata info.description)

/-- One atomic step. A `Bool` argument says whether the `bd update` succeeded; `checksPass`
covers the validations before the info read and the formula checks after it. -/
inductive Action
  | enqRead (e : Nat) (checksPass : Bool)
  | enqWrite (e : Nat) (ok : Bool)
  | enqLabel (e : Nat) (ok : Bool)
  | enqRollback (e : Nat) (ok : Bool)
  | enqConvoy (e : Nat) (created : Option GoString)
  | enqRepersist (e : Nat) (ok : Bool)
  | snapshot
  | sling (outcome : Except GoString GoString)
  | dispUpdate (ok : Bool)
  | setStatus (status : BeadStatus)

/-- The enqueue execution a step belongs to. -/
def Action.enqueue? : Action → Option Nat
  | .enqRead e _ | .enqWrite e _ | .enqLabel e _ | .enqRollback e _ | .enqConvoy e _
  | .enqRepersist e _ => some e
  | _ => none

/-- A step of an `enqueueBead` execution: where it goes, and the write it makes. -/
def enqTransition (call : EnqueueCall) (bead : Bead) :
    EnqPc → Action → Option (EnqPc × Option BeadWrite)
  | .start, .enqRead _ checksPass =>
      some (if checksPass then
          match enqueueDecision call bead with
          | none => .done
          | some (meta, baseDesc) => .writeMeta meta baseDesc
        else .done, none)
  | .writeMeta meta baseDesc, .enqWrite _ ok =>
      some (if ok then (.addLabel meta baseDesc,
          some (.update (.description (withMetadataBlock baseDesc (formatQueueMetadata meta)))))
        else (.done, none))
  | .addLabel meta baseDesc, .enqLabel _ ok =>
      some (if ok then (if call.opts.noConvoy then .done else .convoy meta baseDesc,
          some (.update queueLabelUpdate))
        else (.rollback baseDesc, none))
  | .rollback baseDesc, .enqRollback _ ok =>
      some (.done, if ok then some (.update (.description baseDesc)) else none)
  | .convoy meta baseDesc, .enqConvoy _ created =>
      some (match created with
        | none => .done
        | some convoyID => .repersist (withMetadataBlock baseDesc
            (formatQueueMetadata { meta with convoy := convoyID })), none)
  | .repersist desc, .enqRepersist _ ok =>
      some (.done, if ok then some (.update (.description desc)) else none)
  | _, _ => none

/-- Where the dispatcher is: between cycles, holding the bead of its ready snapshot, or running
the updates of `dispatchSingleBead`; `failure` marks the updates of `recordDispatchFailure`. -/
inductive DispPc
  | idle
  | slinging (b : ReadyQueuedBead)
  | updating (pending : List BeadUpdate) (failure : Bool)
  deriving DecidableEq, Repr

/-- The raw bead `bd ready` lists. -/
def rawOf (bead : Bead) : RawBead :=
  ⟨[], [], bead.description, bead.labels⟩

/-- A step of the dispatcher: where it goes, the write it makes, and whether that write is the
description of a failure record. -/
def dispTransition (bead : Bead) : DispPc → Action → Option (DispPc × Option BeadWrite × Bool)
  | .idle, .snapshot =>
      if labelQueued ∈ bead.labels ∧ bead.status = .open then
        (readyQueuedBeadOf (rawOf bead)).map fun b => (.slinging b, none, false)
      else none
  | .slinging b, .sling outcome =>
      let (res, updates) := dispatchSingleBead (fun _ => outcome) b
      some (.updating updates ((slingParams b).isSome && !res.toBool),
        if res.toBool then some (.status .hooked) else none, false)
  | .updating (u :: rest) failure, .dispUpdate ok =>
      some (if rest = [] then .idle else .updating rest failure,
        if ok then some (.update u) else none, failure && u.isDescription && ok)
  | _, _ => none

/-- The bead, the enqueue executions, and the dispatcher. -/
structure Sys where
  bead : Bead
  enqueues : List (EnqueueCall × EnqPc)
  disp : DispPc := .idle
  failuresRecorded : Nat := 0

/-- The enqueue calls not started yet, and the dispatcher between cycles. -/
def Sys.init (bead : Bead) (calls : List EnqueueCall) : Sys :=
  { bead, enqueues := calls.map fun c => (c, .start) }

/-- One step of the system; `none` when the step is not enabled. -/
def step (s : Sys) (a : Action) : Option Sys :=
  match a, a.enqueue? with
  | .setStatus st, _ => some { s with bead := s.bead.write (.status st) }
  | a, some e =>
      match s.enqueues[e]? with
      | some (call, pc) => (enqTransition call s.bead pc a).map fun (pc', w) =>
          { s with bead := s.bead.writeOpt w, enqueues := s.enqueues.set e (call, pc') }
      | none => none
  | a, none => (dispTransition s.bead s.disp a).map fun (pc', w, recorded) =>
      { s with bead := s.bead.writeOpt w, disp := pc',
               failuresRecorded := if recorded then s.failuresRecorded + 1
                 else s.failuresRecorded }

/-- A run of steps, `none` when one is not enabled. -/
def run : Sys → List Action → Option Sys
  | s, [] => some s
  | s, a :: rest => (step s a).bind fun s' => run s' rest

/-- Every step of the run satisfies `p` in the state it is taken from. -/
def everyStep (p : Sys → Action → Bool) : Sys → List Action → Bool
  | _, [] => true
  | s, a :: rest =>
      p s a &&
        match step s a with
        | some s' => everyStep p s' rest
        | none => true

end Store

end GastownQueue
