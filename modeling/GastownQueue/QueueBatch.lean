import GastownQueue.Dispatch

/-! The batch commands over `enqueueBead`: `gt convoy queue` (`runConvoyQueue`) and `gt queue
epic` (`runQueueEpic`). Both walk the issues they are given and skip the closed ones, the
assigned ones unless `--force`, and those already labelled `gt:queued`, counting each kind, and
enqueue the rest. They differ in where the labels come from: an epic's children carry them from
`getEpicChildren`, while a convoy's tracked issues are looked up one by one with `getBeadInfo`,
and an issue whose lookup fails is skipped without being counted. -/

namespace GastownQueue

def hasQueuedLabel (labels : List GoString) : Bool :=
  labels.any (· == labelQueued)

/-- What `getBeadInfo` returns that these commands read. -/
structure BeadInfo where
  title : GoString
  status : GoString
  assignee : GoString
  labels : List GoString
  deriving DecidableEq, Repr

/-- An issue the filter looks at, with its labels as the command reads them. -/
structure QueueChild where
  id : GoString
  title : GoString
  status : GoString
  assignee : GoString
  labels : Except GoString (List GoString)

/-- The locals of the filter: the candidates (ID and title), in order, and the three skip
counters. -/
structure QueueTally where
  candidates : List (GoString × GoString) := []
  skippedClosed : Nat := 0
  skippedAssigned : Nat := 0
  skippedQueued : Nat := 0
  deriving DecidableEq, Repr

/-- One turn of the filter loop the two commands share. -/
def filterStep (force : Bool) (t : QueueTally) (c : QueueChild) : QueueTally :=
  if c.status = "closed".toList ∨ c.status = "tombstone".toList then
    { t with skippedClosed := t.skippedClosed + 1 }
  else if c.assignee ≠ [] ∧ force = false then
    { t with skippedAssigned := t.skippedAssigned + 1 }
  else
    match c.labels with
    | .error _ => t
    | .ok labels =>
        if hasQueuedLabel labels then { t with skippedQueued := t.skippedQueued + 1 }
        else { t with candidates := t.candidates ++ [(c.id, c.title)] }

/-- The filter loop over the issues. -/
def queueCandidates (force : Bool) (children : List QueueChild) : QueueTally :=
  children.foldl (filterStep force) {}

structure EpicChild where
  id : GoString
  title : GoString
  status : GoString
  assignee : GoString
  labels : List GoString
  deriving DecidableEq, Repr

/-- An entry of `bd dep list <epic> --direction=down`. -/
structure EpicDep where
  id : GoString
  title : GoString
  status : GoString
  deriving DecidableEq, Repr

/-- The loop of `getEpicChildren` over the dependency list: each dependency with its info, or,
when `getBeadInfo` fails, with its own title and status and no assignee or labels. -/
def epicChildren (getBeadInfo : GoString → Except GoString BeadInfo) (deps : List EpicDep) :
    List EpicChild :=
  deps.map fun dep =>
    match getBeadInfo dep.id with
    | .error _ => ⟨dep.id, dep.title, dep.status, [], []⟩
    | .ok info => ⟨dep.id, info.title, info.status, info.assignee, info.labels⟩

/-- A child of an epic as the filter reads it: its own labels. -/
def EpicChild.toQueueChild (c : EpicChild) : QueueChild :=
  ⟨c.id, c.title, c.status, c.assignee, .ok c.labels⟩

/-- The filter of `runQueueEpic`. -/
def queueEpicCandidates (queueEpicForce : Bool) (children : List EpicChild) : QueueTally :=
  queueCandidates queueEpicForce (children.map EpicChild.toQueueChild)

/-- A tracked issue of a convoy as `getTrackedIssues` returns it. -/
structure TrackedIssue where
  id : GoString
  title : GoString
  status : GoString
  assignee : GoString
  deriving DecidableEq, Repr

/-- A tracked issue as the filter reads it: its labels from `getBeadInfo`. -/
def TrackedIssue.toQueueChild (getBeadInfo : GoString → Except GoString BeadInfo)
    (t : TrackedIssue) : QueueChild :=
  ⟨t.id, t.title, t.status, t.assignee, (getBeadInfo t.id).map (·.labels)⟩

/-- The filter of `runConvoyQueue`. -/
def convoyQueueCandidates (convoyQueueForce : Bool)
    (getBeadInfo : GoString → Except GoString BeadInfo) (tracked : List TrackedIssue) :
    QueueTally :=
  queueCandidates convoyQueueForce (tracked.map (TrackedIssue.toQueueChild getBeadInfo))

/-- Closed or tombstoned. -/
def QueueChild.closed (c : QueueChild) : Bool :=
  c.status = "closed".toList ∨ c.status = "tombstone".toList

/-- Assigned, and `--force` not given. -/
def QueueChild.held (force : Bool) (c : QueueChild) : Bool :=
  c.assignee ≠ [] ∧ force = false

/-- Past the status and assignee checks, the lookup of the labels failed. -/
def QueueChild.lookupFailed (force : Bool) (c : QueueChild) : Bool :=
  !c.closed && !c.held force && c.labels matches .error _

/-- What the filter queues: open, unassigned unless forced, labels read and without
`gt:queued`. -/
def QueueChild.queueable (force : Bool) (c : QueueChild) : Bool :=
  !c.closed && !c.held force &&
    match c.labels with
    | .ok labels => !hasQueuedLabel labels
    | .error _ => false

/-- The counters and the candidates together. -/
def QueueTally.total (t : QueueTally) : Nat :=
  t.skippedClosed + t.skippedAssigned + t.skippedQueued + t.candidates.length

/-- One turn counts the issue once, or not at all when its lookup fails, and appends it when it
is queueable. -/
theorem filterStep_spec (force : Bool) (t : QueueTally) (c : QueueChild) :
    (filterStep force t c).total + (if c.lookupFailed force then 1 else 0) = t.total + 1 ∧
      (filterStep force t c).candidates =
        t.candidates ++ if c.queueable force then [(c.id, c.title)] else [] := by
  unfold filterStep QueueChild.lookupFailed QueueChild.queueable QueueChild.closed QueueChild.held
  generalize "closed".toList = closed
  generalize "tombstone".toList = tombstone
  by_cases hc : c.status = closed ∨ c.status = tombstone
  · simp [hc, QueueTally.total]; omega
  · by_cases ha : c.assignee ≠ [] ∧ force = false
    · simp [hc, ha, QueueTally.total]; omega
    · rcases hl : c.labels with err | labels
      · simp [hc, ha, hl]
      · by_cases hq : hasQueuedLabel labels = true <;>
          simp [hc, ha, hl, hq, QueueTally.total] <;> omega

/-- Each issue is counted once, or, when its lookup fails, not at all; the candidates are the
queueable issues in order. -/
theorem foldl_filterStep (force : Bool) (cs : List QueueChild) (t : QueueTally) :
    (cs.foldl (filterStep force) t).total + cs.countP (·.lookupFailed force) = t.total + cs.length ∧
      (cs.foldl (filterStep force) t).candidates =
        t.candidates ++ (cs.filter (·.queueable force)).map fun c => (c.id, c.title) := by
  induction cs generalizing t with
  | nil => simp
  | cons c cs ih =>
      obtain ⟨h₁, h₂⟩ := ih (filterStep force t c)
      obtain ⟨s₁, s₂⟩ := filterStep_spec force t c
      rw [List.foldl_cons, List.countP_cons, List.filter_cons, List.length_cons, h₂, s₂]
      refine ⟨by omega, ?_⟩
      split <;> simp

/-- A dependency whose lookup fails reaches the filter as an unassigned child without labels. -/
theorem queueable_epicChild_of_error {getBeadInfo : GoString → Except GoString BeadInfo}
    {dep : EpicDep} (force : Bool) (hinfo : (getBeadInfo dep.id).toBool = false)
    (hclosed : dep.status ≠ "closed".toList) (htomb : dep.status ≠ "tombstone".toList) :
    ∃ c ∈ epicChildren getBeadInfo [dep], c.toQueueChild.queueable force = true ∧
      c.id = dep.id ∧ c.title = dep.title := by
  rcases h : getBeadInfo dep.id with err | info
  · refine ⟨⟨dep.id, dep.title, dep.status, [], []⟩, by simp [epicChildren, h], ?_, rfl, rfl⟩
    simp at hclosed htomb
    simp [EpicChild.toQueueChild, QueueChild.queueable, QueueChild.closed, QueueChild.held,
      hasQueuedLabel, hclosed, htomb]
  · rw [h] at hinfo; cases hinfo

/-- **The batch filters account for every issue but a failed lookup.** For every list of an
epic's children, `queue epic`'s three skip counters and its candidates add up to the number of
children. For every list of a convoy's tracked issues and every outcome of `getBeadInfo`,
`convoy queue`'s add up to the number of issues less those that passed the status and assignee
checks and whose lookup failed, which no counter and no candidate records. In both, the
candidates are, in order, the issues that are neither closed nor tombstoned, unassigned unless
`--force` is given, and not labelled `gt:queued`. A dependency of an epic that `getBeadInfo`
cannot read is queued unless the dependency list itself says it is closed or tombstoned. -/
theorem batch_filters_account_for_issues (force : Bool)
    (getBeadInfo : GoString → Except GoString BeadInfo) (children : List EpicChild)
    (tracked : List TrackedIssue) (deps : List EpicDep) :
    (queueEpicCandidates force children).total = children.length ∧
      (queueEpicCandidates force children).candidates =
        ((children.map EpicChild.toQueueChild).filter (·.queueable force)).map
          (fun c => (c.id, c.title)) ∧
      (convoyQueueCandidates force getBeadInfo tracked).total +
          (tracked.map (TrackedIssue.toQueueChild getBeadInfo)).countP (·.lookupFailed force) =
        tracked.length ∧
      (convoyQueueCandidates force getBeadInfo tracked).candidates =
        ((tracked.map (TrackedIssue.toQueueChild getBeadInfo)).filter (·.queueable force)).map
          (fun c => (c.id, c.title)) ∧
      ∀ dep ∈ deps, (getBeadInfo dep.id).toBool = false → dep.status ≠ "closed".toList →
        dep.status ≠ "tombstone".toList →
        (dep.id, dep.title) ∈ (queueEpicCandidates force (epicChildren getBeadInfo deps)).candidates := by
  obtain ⟨e₁, e₂⟩ := foldl_filterStep force (children.map EpicChild.toQueueChild) {}
  obtain ⟨c₁, c₂⟩ := foldl_filterStep force (tracked.map (TrackedIssue.toQueueChild getBeadInfo)) {}
  have hnone : (children.map EpicChild.toQueueChild).countP (·.lookupFailed force) = 0 :=
    List.countP_eq_zero.mpr fun c hc => by
      obtain ⟨c, -, rfl⟩ := List.mem_map.mp hc
      simp [QueueChild.lookupFailed, EpicChild.toQueueChild]
  refine ⟨?_, e₂, ?_, c₂, fun dep hdep hinfo hclosed htomb => ?_⟩
  · simpa [hnone, QueueTally.total] using e₁
  · simpa [QueueTally.total] using c₁
  · obtain ⟨c, hc, hq, hid, htitle⟩ := queueable_epicChild_of_error force hinfo hclosed htomb
    obtain ⟨d₁, d₂⟩ :=
      foldl_filterStep force ((epicChildren getBeadInfo deps).map EpicChild.toQueueChild) {}
    unfold queueEpicCandidates queueCandidates
    rw [d₂, List.nil_append, List.mem_map]
    refine ⟨c.toQueueChild, List.mem_filter.mpr ⟨List.mem_map_of_mem _ ?_, hq⟩, ?_⟩
    · simp only [epicChildren, List.mem_map, List.mem_singleton] at hc ⊢
      obtain ⟨d, rfl, rfl⟩ := hc
      exact ⟨d, hdep, rfl⟩
    · rw [← hid, ← htitle]; rfl

/-- A child the bead store no longer finds: the dependency list says it is open. -/
def goneDep : EpicDep := ⟨"gt-1".toList, "Fix it".toList, "open".toList⟩

theorem batch_filters_queue_unreadable_child :
    (Except.error "not found".toList : Except GoString BeadInfo).toBool = false ∧
      goneDep.status ≠ "closed".toList ∧ goneDep.status ≠ "tombstone".toList ∧
      (goneDep.id, goneDep.title) ∈ (queueEpicCandidates false
        (epicChildren (fun _ => .error "not found".toList) [goneDep])).candidates :=
  ⟨rfl, by decide, by decide,
    (batch_filters_account_for_issues false (fun _ => .error "not found".toList) [] []
      [goneDep]).2.2.2.2 goneDep (List.mem_singleton_self _) rfl (by decide) (by decide)⟩

end GastownQueue
