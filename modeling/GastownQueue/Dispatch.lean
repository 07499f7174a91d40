import GastownQueue.Metadata
import GastownQueue.QueueState

/-! The dispatcher of `queue_dispatch.go`: the ready-set query over the bead directories, the
executor parameters `dispatchSingleBead` rebuilds from a bead's metadata, the description and
labels it writes after a failure or a success, and the capacity-bounded loop of
`dispatchQueuedWork`. The `bd` commands become the updates they issue and the results they
return; the executor is a function of its parameters. -/

namespace GastownQueue

open Strings Strconv

def maxDispatchFailures : GoInt := 3

def labelQueued : GoString := "gt:queued".toList

def labelDispatchFailed : GoString := "gt:dispatch-failed".toList

def labelQueueDispatched : GoString := "gt:queue-dispatched".toList

structure ReadyQueuedBead where
  id : GoString
  title : GoString
  targetRig : GoString
  description : GoString
  labels : List GoString
  deriving DecidableEq, Repr

/-- One bead of the JSON that `bd ready` prints. -/
structure RawBead where
  id : GoString
  title : GoString
  description : GoString
  labels : List GoString
  deriving DecidableEq, Repr

/-- What `bd ready --label gt:queued --json --limit=0` gives in one directory. -/
inductive BdReadyOutput
  | failed (err : GoString)
  | malformed (err : GoString)
  | beads (raw : List RawBead)
  deriving DecidableEq, Repr

/-- The body of the loop of `getReadyQueuedBeadsFrom`: a bead whose counter reached the limit is
skipped, the others keep the target rig of their metadata. -/
def readyQueuedBeadOf (r : RawBead) : Option ReadyQueuedBead :=
  match parseQueueMetadata r.description with
  | some meta =>
      if maxDispatchFailures ≤ meta.dispatchFailures then none
      else some ⟨r.id, r.title, meta.targetRig, r.description, r.labels⟩
  | none => some ⟨r.id, r.title, [], r.description, r.labels⟩

def getReadyQueuedBeadsFrom (dir : GoString) : BdReadyOutput → Except GoString (List ReadyQueuedBead)
  | .failed err => .error ("bd ready failed in ".toList ++ dir ++ ": ".toList ++ err)
  | .malformed err => .error ("parsing ready beads: ".toList ++ err)
  | .beads raw => .ok (raw.filterMap readyQueuedBeadOf)

/-- The locals of `getReadyQueuedBeads` between directories. -/
structure ReadyScan where
  result : List ReadyQueuedBead := []
  seen : List GoString := []
  lastErr : GoString := []
  failCount : Nat := 0
  deriving DecidableEq, Repr

namespace ReadyScan

/-- `if !seen[b.ID] { seen[b.ID] = true; result = append(result, b) }`. -/
def addBead (s : ReadyScan) (b : ReadyQueuedBead) : ReadyScan :=
  if b.id ∈ s.seen then s else { s with seen := b.id :: s.seen, result := s.result ++ [b] }

/-- One directory: a failure is counted and remembered, the beads of a success are added. -/
def addDir (s : ReadyScan) (dir : GoString × BdReadyOutput) : ReadyScan :=
  match getReadyQueuedBeadsFrom dir.1 dir.2 with
  | .error err => { s with failCount := s.failCount + 1, lastErr := err }
  | .ok beads => beads.foldl addBead s

end ReadyScan

/-- `getReadyQueuedBeads`, over the directories `beadsSearchDirs` lists and what `bd ready`
gives in each. -/
def getReadyQueuedBeads (dirs : List (GoString × BdReadyOutput)) :
    Except GoString (List ReadyQueuedBead) :=
  let s := dirs.foldl ReadyScan.addDir {}
  if s.failCount = dirs.length ∧ 0 < s.failCount then
    .error ("all ".toList ++ Nat.toDigits 10 s.failCount ++
      " bead directories failed (last: ".toList ++ s.lastErr ++ ")".toList)
  else .ok s.result

/-- The fields of `SlingParams` that `dispatchSingleBead` sets. -/
structure SlingParams where
  beadID : GoString
  rigName : GoString
  formulaFailFatal : Bool
  callerContext : GoString
  noConvoy : Bool
  noBoot : Bool
  formulaName : GoString
  args : GoString
  vars : List GoString
  merge : GoString
  baseBranch : GoString
  noMerge : Bool
  account : GoString
  agent : GoString
  hookRawBead : Bool
  deriving DecidableEq, Repr

/-- One `bd update <id>`: a new description, or labels added and removed. -/
inductive BeadUpdate
  | description (text : GoString)
  | labels (add remove : List GoString)
  deriving DecidableEq, Repr

/-- `--add-label=gt:dispatch-failed --remove-label=gt:queued`. -/
def quarantineUpdate : BeadUpdate :=
  .labels [labelDispatchFailed] [labelQueued]

/-- `--remove-label=gt:queued --add-label=gt:queue-dispatched`. -/
def swapUpdate : BeadUpdate :=
  .labels [labelQueueDispatched] [labelQueued]

/-- The executor's parameters rebuilt from the metadata; `none` when the bead has no block or no
target rig, which `dispatchSingleBead` quarantines. -/
def slingParams (b : ReadyQueuedBead) : Option SlingParams :=
  match parseQueueMetadata b.description with
  | none => none
  | some meta =>
      if meta.targetRig = [] then none
      else some
        { beadID := b.id, rigName := if b.targetRig = [] then meta.targetRig else b.targetRig,
          formulaFailFatal := true, callerContext := "queue-dispatch".toList, noConvoy := true,
          noBoot := true, formulaName := meta.formula, args := meta.args,
          vars := if meta.vars = [] then [] else splitVars meta.vars, merge := meta.merge,
          baseBranch := meta.baseBranch, noMerge := meta.noMerge, account := meta.account,
          agent := meta.agent, hookRawBead := meta.hookRawBead }

/-- The metadata `recordDispatchFailure` writes back: the parsed record, or an empty one, with
the counter incremented and the error stamped. -/
def failureMetadata (b : ReadyQueuedBead) (err : GoString) : QueueMetadata :=
  let meta := (parseQueueMetadata b.description).getD {}
  { meta with dispatchFailures := meta.dispatchFailures + 1, lastFailure := err }

/-- The description `recordDispatchFailure` writes. -/
def failureDescription (b : ReadyQueuedBead) (err : GoString) : GoString :=
  withMetadataBlock (stripQueueMetadata b.description) (formatQueueMetadata (failureMetadata b err))

/-- `recordDispatchFailure`: the rewritten description, then the quarantine once the counter
reaches the limit. -/
def recordDispatchFailure (b : ReadyQueuedBead) (err : GoString) : List BeadUpdate :=
  .description (failureDescription b err) ::
    if maxDispatchFailures ≤ (failureMetadata b err).dispatchFailures then [quarantineUpdate]
    else []

/-- The cleanup after a successful sling: the description without its block when it had one,
then the label swap. -/
def dispatchedUpdates (b : ReadyQueuedBead) : List BeadUpdate :=
  let cleanDesc := stripQueueMetadata b.description
  (if cleanDesc ≠ b.description then [.description cleanDesc] else []) ++ [swapUpdate]

/-- `dispatchSingleBead` with `executeSling` given as the polecat it spawns or its error: the
returned error and the updates run on the bead. -/
def dispatchSingleBead (executeSling : SlingParams → Except GoString GoString)
    (b : ReadyQueuedBead) : Except GoString Unit × List BeadUpdate :=
  match slingParams b with
  | none => (.error "missing queue metadata or target_rig".toList, [quarantineUpdate])
  | some params =>
      match executeSling params with
      | .error err => (.error ("sling failed: ".toList ++ err), recordDispatchFailure b err)
      | .ok _ => (.ok (), dispatchedUpdates b)

def computeDispatchCount (capacity batchSize readyCount : GoInt) : GoInt :=
  let toDispatch := if 0 < capacity ∧ capacity < batchSize then capacity else batchSize
  if readyCount < toDispatch then readyCount else toDispatch

/-- The queue section of the town settings, through its getters. -/
structure WorkQueueConfig where
  enabled : Bool
  maxPolecats : GoInt
  batchSize : GoInt
  deriving DecidableEq, Repr

/-- What a `dispatchQueuedWork` run reads from its surroundings, in the order it reads it. -/
structure DispatchEnv where
  tryLock : Except GoString Bool
  stateFile : QueueStateFile
  settings : Except GoString (Option WorkQueueConfig)
  defaultConfig : WorkQueueConfig
  daemon : Bool
  activePolecats : GoInt
  readyBeads : Except GoString (GoSlice ReadyQueuedBead)
  executeSling : SlingParams → Except GoString GoString
  freshStateFile : QueueStateFile
  now : Rfc3339

/-- The locals of the dispatch loop, with the beads handed to `dispatchSingleBead` and the
updates those calls ran. -/
structure DispatchTally where
  dispatched : GoInt := 0
  successfulRigs : List GoString := []
  calls : List ReadyQueuedBead := []
  updates : List BeadUpdate := []

/-- `m[k] = true` on a `map[string]bool` used as a set, kept as the list of its keys. -/
def setKey (keys : List GoString) (k : GoString) : List GoString :=
  if k ∈ keys then keys else k :: keys

/-- One iteration of the dispatch loop, on the bead `readyBeads[i]`. -/
def DispatchTally.dispatchOne (executeSling : SlingParams → Except GoString GoString)
    (t : DispatchTally) (b : ReadyQueuedBead) : DispatchTally :=
  let (res, ups) := dispatchSingleBead executeSling b
  let t := { t with calls := t.calls ++ [b], updates := t.updates ++ ups }
  match res with
  | .error _ => t
  | .ok () =>
      { t with dispatched := t.dispatched + 1,
               successfulRigs := if b.targetRig = [] then t.successfulRigs
                 else setKey t.successfulRigs b.targetRig }

/-- `for i := 0; i < toDispatch; i++` from index `i` with `n` iterations left; `none` is the
panic of an index out of range. -/
def dispatchLoop (executeSling : SlingParams → Except GoString GoString)
    (readyBeads : List ReadyQueuedBead) : Nat → Nat → DispatchTally → Option DispatchTally
  | _, 0, t => some t
  | i, n + 1, t =>
      match readyBeads[i]? with
      | none => none
      | some b => dispatchLoop executeSling readyBeads (i + 1) n (t.dispatchOne executeSling b)

/-- The dry run's loop, which only reads `readyBeads[i]`. -/
def dryRunLoop (readyBeads : List ReadyQueuedBead) : Nat → Nat → Option Unit
  | _, 0 => some ()
  | i, n + 1 => match readyBeads[i]? with
    | none => none
    | some _ => dryRunLoop readyBeads (i + 1) n

/-- What a run did: its result, the beads handed to `dispatchSingleBead` and the updates they
ran, the rigs `wakeRigAgents` ran for, and the queue state it saved. -/
structure DispatchRun where
  result : Except GoString GoInt
  calls : List ReadyQueuedBead := []
  updates : List BeadUpdate := []
  woken : List GoString := []
  saved : Option QueueState := none

/-- After the loop: `wakeRigAgents` for each rig with a success, and the fresh reload stamped
with `RecordDispatch` and saved when anything was dispatched. -/
def finishCycle (env : DispatchEnv) (t : DispatchTally) : DispatchRun :=
  let saved := if 0 < t.dispatched then
      match loadQueueState env.freshStateFile with
      | .ok freshState => some (freshState.recordDispatch t.dispatched env.now)
      | .error _ => none
    else none
  ⟨.ok t.dispatched, t.calls, t.updates, t.successfulRigs, saved⟩

/-- `capacity`: `some 0` for no ceiling, `none` for the early return of a full town. -/
def availableCapacity (maxPolecats activePolecats : GoInt) : Option GoInt :=
  if 0 < maxPolecats then
    let capacity := maxPolecats - activePolecats
    if capacity ≤ 0 then none else some capacity
  else some 0

/-- `dispatchQueuedWork`; `none` is a panic. -/
def dispatchQueuedWork (env : DispatchEnv) (batchOverride maxPolOverride : GoInt)
    (dryRun : Bool) : Option DispatchRun :=
  match env.tryLock with
  | .error err => some ⟨.error ("acquiring dispatch lock: ".toList ++ err), [], [], [], none⟩
  | .ok false => some ⟨.ok 0, [], [], [], none⟩
  | .ok true =>
  match loadQueueState env.stateFile with
  | .error err => some ⟨.error ("loading queue state: ".toList ++ err), [], [], [], none⟩
  | .ok queueState =>
  if queueState.paused then some ⟨.ok 0, [], [], [], none⟩ else
  match env.settings with
  | .error err => some ⟨.error ("loading town settings: ".toList ++ err), [], [], [], none⟩
  | .ok queue =>
  let queueCfg := queue.getD env.defaultConfig
  if !queueCfg.enabled && !dryRun && env.daemon then some ⟨.ok 0, [], [], [], none⟩ else
  let maxPolecats := if 0 < maxPolOverride then maxPolOverride else queueCfg.maxPolecats
  let batchSize := if 0 < batchOverride then batchOverride else queueCfg.batchSize
  match availableCapacity maxPolecats env.activePolecats with
  | none => some ⟨.ok 0, [], [], [], none⟩
  | some capacity =>
  match env.readyBeads with
  | .error err => some ⟨.error ("querying ready beads: ".toList ++ err), [], [], [], none⟩
  | .ok readyBeads =>
  if readyBeads.len = 0 then some ⟨.ok 0, [], [], [], none⟩ else
  let toDispatch := computeDispatchCount capacity batchSize readyBeads.len
  if dryRun then
    (dryRunLoop readyBeads.toList 0 toDispatch.val.toNat).map fun _ => ⟨.ok 0, [], [], [], none⟩
  else
    (dispatchLoop env.executeSling readyBeads.toList 0 toDispatch.val.toNat {}).map
      (finishCycle env)

end GastownQueue
