import GastownQueue.Labels

/-! Label-last commit. `enqueueBead` writes the metadata block before it adds `gt:queued`, and
writes the old description back when the label add fails, so that the dispatcher does not find
an open queued bead without a target rig. Enqueue executions may overlap in any way; what breaks
the commit is a rollback write that lands on a bead another execution has committed (an open
bead with `gt:queued`) or between another execution's metadata write and its label add, which
then commits the label on the stripped description. The next dispatch cycle quarantines such a
bead.

The invariant says what each party knows of the bead at each point of its execution. -/

namespace GastownQueue

open Strings

theorem readyQueuedBeadOf_description {r : RawBead} {q : ReadyQueuedBead}
    (h : readyQueuedBeadOf r = some q) : q.description = r.description := by
  unfold readyQueuedBeadOf at h
  split at h
  · split_ifs at h
    cases h; rfl
  · cases h; rfl

/-- A bead whose description has a target rig passes the metadata check of
`dispatchSingleBead`. -/
theorem slingParams_isSome {r : ReadyQueuedBead} (h : HasTargetRig r.description) :
    (slingParams r).isSome := by
  obtain ⟨m, hm, hne, -⟩ := h
  simp [slingParams, hm, hne]

/-- The failure record keeps the target rig, whatever the error text. -/
theorem hasTargetRig_failureDescription {r : ReadyQueuedBead} (h : HasTargetRig r.description)
    (err : GoString) : HasTargetRig (failureDescription r err) := by
  obtain ⟨m, hm, hne, hnl, htrim⟩ := h
  have hrig : (failureMetadata r err).targetRig = m.targetRig := by simp [failureMetadata, hm]
  exact hasTargetRig_withMetadataBlock (index_stripQueueMetadata _) (hrig ▸ hnl)
    (by rw [hrig, htrim]; exact hne)

namespace Store

/-- The bead is open and carries `gt:queued`: what the ready snapshot selects. -/
def QueuedOpen (b : Bead) : Prop :=
  labelQueued ∈ b.labels ∧ b.status = .open

instance : DecidablePred QueuedOpen := fun _ => inferInstanceAs (Decidable (_ ∧ _))

/-- An open bead has a target rig in its description. -/
def RigWhenOpen (b : Bead) : Prop :=
  b.status = .open → HasTargetRig b.description

/-- The block an enqueue execution is to write: its target rig is a line, and it goes after a
description without a block. -/
def BlockPlan (meta : QueueMetadata) (baseDesc : GoString) : Prop :=
  LineValue meta.targetRig ∧ index baseDesc queueMetadataDelimiter = none

/-- What an enqueue execution knows of the bead at each point: the block it is to write and,
while its label add is pending, that an open bead has a target rig. -/
def EnqOk (b : Bead) (call : EnqueueCall) : EnqPc → Prop
  | .start => LineValue call.rigName
  | .writeMeta meta baseDesc | .convoy meta baseDesc => BlockPlan meta baseDesc
  | .addLabel meta baseDesc => BlockPlan meta baseDesc ∧ RigWhenOpen b
  | .repersist desc => HasTargetRig desc
  | .rollback _ | .done => True

/-- What the dispatcher knows at each point: the bead of its snapshot had a target rig, and
while the bead is open every description it is still to write has one. -/
def DispOk (b : Bead) : DispPc → Prop
  | .idle => True
  | .slinging r => HasTargetRig r.description
  | .updating pending _ => b.status = .open → ∀ t, .description t ∈ pending → HasTargetRig t

/-- Between the metadata write and the label add. -/
def EnqPc.labelPending : EnqPc → Bool
  | .addLabel _ _ => true
  | _ => false

/-- The label-last invariant of a state. -/
structure CommitInv (s : Sys) : Prop where
  /-- A queued bead that is open has a target rig. -/
  bead : labelQueued ∈ s.bead.labels → RigWhenOpen s.bead
  /-- The dispatcher's facts at its point. -/
  disp : DispOk s.bead s.disp
  /-- The dispatcher's pending label updates take `gt:queued` away. -/
  unqueues : s.disp.Unqueues
  /-- Each enqueue execution's facts at its point. -/
  enq : ∀ (i : Nat) (x : EnqueueCall × EnqPc), s.enqueues[i]? = some x → EnqOk s.bead x.1 x.2

/-- A rollback that writes the description back. -/
def Action.rollbackWrite : Action → Bool
  | .enqRollback _ true => true
  | _ => false

/-- No operator changes the status, and a rollback that writes lands neither on an open bead
that carries `gt:queued` nor while an execution is between its metadata write and its label
add. -/
def rollbackSafe (s : Sys) : Action → Bool
  | .setStatus _ => false
  | a => !a.rollbackWrite ||
      (!decide (QueuedOpen s.bead) && s.enqueues.all fun x => !x.2.labelPending)

theorem rollbackSafe_rollback {s : Sys} {a : Action} (hp : rollbackSafe s a = true)
    (hr : a.rollbackWrite = true) :
    ¬ QueuedOpen s.bead ∧ ∀ x ∈ s.enqueues, x.2.labelPending = false := by
  cases a <;> simp only [Action.rollbackWrite, reduceCtorEq] at hr
  rename_i ok
  cases ok
  · cases hr
  · simp only [rollbackSafe, Action.rollbackWrite, Bool.not_true, Bool.false_or, Bool.and_eq_true,
      Bool.not_eq_true', decide_eq_false_iff_not, List.all_eq_true, Bool.not_eq_eq_eq_not,
      Bool.not_true] at hp
    exact hp

theorem hasTargetRig_of_blockPlan {meta : QueueMetadata} {baseDesc : GoString}
    (h : BlockPlan meta baseDesc) :
    HasTargetRig (withMetadataBlock baseDesc (formatQueueMetadata meta)) :=
  hasTargetRig_withMetadataBlock h.2 h.1.2.1 (by rw [h.1.2.2]; exact h.1.1)

theorem enqueueDecision_spec {call : EnqueueCall} {b : Bead} {meta : QueueMetadata}
    {baseDesc : GoString} (h : enqueueDecision call b = some (meta, baseDesc)) :
    ¬ QueuedOpen b ∧ meta = enqueueMetadata call.rigName call.now call.opts ∧
      baseDesc = stripQueueMetadata b.description := by
  unfold enqueueDecision at h
  split_ifs at h with h1
  cases h
  exact ⟨h1, rfl, rfl⟩

/-- Only a pending label add depends on the bead. -/
theorem EnqOk.of_not_pending {b b' : Bead} {call : EnqueueCall} {pc : EnqPc}
    (hp : pc.labelPending = false) (h : EnqOk b call pc) : EnqOk b' call pc := by
  cases pc <;> first | exact h | cases hp

theorem EnqOk.mono {b b' : Bead} {call : EnqueueCall} {pc : EnqPc}
    (hr : RigWhenOpen b → RigWhenOpen b') (h : EnqOk b call pc) : EnqOk b' call pc := by
  cases pc with
  | addLabel => exact ⟨h.1, hr h.2⟩
  | _ => exact h

theorem DispOk.of_status {b b' : Bead} {pc : DispPc} (hs : b'.status = b.status)
    (h : DispOk b pc) : DispOk b' pc := by
  cases pc with
  | updating => exact fun ho => h (hs ▸ ho)
  | _ => exact h

/-- One step of an enqueue execution keeps the bead's part of the invariant, reaches a point
whose facts hold, leaves the status as it was, and, unless it is a rollback write, keeps an open
bead's target rig. -/
theorem enqTransition_ok {call : EnqueueCall} {b : Bead} {pc pc' : EnqPc} {a : Action}
    {w : Option BeadWrite} (hok : EnqOk b call pc)
    (hb : labelQueued ∈ b.labels → RigWhenOpen b)
    (hsafe : a.rollbackWrite = true → ¬ QueuedOpen b)
    (h : enqTransition call b pc a = some (pc', w)) :
    (labelQueued ∈ (b.writeOpt w).labels → RigWhenOpen (b.writeOpt w)) ∧
      EnqOk (b.writeOpt w) call pc' ∧ (b.writeOpt w).status = b.status ∧
      (a.rollbackWrite = false → RigWhenOpen b → RigWhenOpen (b.writeOpt w)) := by
  cases pc <;> cases a <;> simp only [enqTransition, reduceCtorEq] at h
  case start.enqRead _ checksPass =>
    obtain ⟨rfl, rfl⟩ := Prod.mk.inj (Option.some.inj h)
    refine ⟨hb, ?_, rfl, fun _ => id⟩
    split
    · split
      · trivial
      · rename_i meta baseDesc hd
        obtain ⟨-, rfl, rfl⟩ := enqueueDecision_spec hd
        exact ⟨hok, index_stripQueueMetadata _⟩
    · trivial
  case writeMeta.enqWrite meta baseDesc _ ok =>
    cases ok <;> obtain ⟨rfl, rfl⟩ := Prod.mk.inj (Option.some.inj h)
    · exact ⟨hb, trivial, rfl, fun _ => id⟩
    · have hrig : RigWhenOpen (b.writeOpt (some (.update (.description
          (withMetadataBlock baseDesc (formatQueueMetadata meta)))))) :=
        fun _ => hasTargetRig_of_blockPlan hok
      exact ⟨fun _ => hrig, ⟨hok, hrig⟩, rfl, fun _ _ => hrig⟩
  case addLabel.enqLabel meta baseDesc _ ok =>
    cases ok <;> obtain ⟨rfl, rfl⟩ := Prod.mk.inj (Option.some.inj h)
    · exact ⟨hb, trivial, rfl, fun _ => id⟩
    · have hrig : RigWhenOpen (b.writeOpt (some (.update queueLabelUpdate))) := by
        simpa [RigWhenOpen, Bead.writeOpt, queueLabelUpdate] using hok.2
      refine ⟨fun _ => hrig, ?_, rfl, fun _ _ => hrig⟩
      split
      · trivial
      · exact hok.1
  case rollback.enqRollback baseDesc _ ok =>
    obtain ⟨rfl, rfl⟩ := Prod.mk.inj (Option.some.inj h)
    cases ok
    · exact ⟨hb, trivial, rfl, fun _ => id⟩
    · exact ⟨fun hq ho => absurd ⟨hq, ho⟩ (hsafe rfl), trivial, rfl,
        fun h => absurd h (by simp [Action.rollbackWrite])⟩
  case convoy.enqConvoy meta baseDesc _ created =>
    obtain ⟨rfl, rfl⟩ := Prod.mk.inj (Option.some.inj h)
    refine ⟨hb, ?_, rfl, fun _ => id⟩
    split
    · trivial
    · exact hasTargetRig_of_blockPlan hok
  case repersist.enqRepersist desc _ ok =>
    obtain ⟨rfl, rfl⟩ := Prod.mk.inj (Option.some.inj h)
    cases ok
    · exact ⟨hb, trivial, rfl, fun _ => id⟩
    · exact ⟨fun _ _ => hok, trivial, rfl, fun _ _ _ => hok⟩

/-- A write of the dispatcher never adds `gt:queued` or opens the bead, and keeps an open bead's
target rig. -/
theorem dispTransition_bead {b : Bead} {pc pc' : DispPc} {a : Action} {w : Option BeadWrite}
    {r : Bool} (hd : DispOk b pc) (hu : pc.Unqueues) (h : dispTransition b pc a = some (pc', w, r)) :
    (labelQueued ∈ (b.writeOpt w).labels → labelQueued ∈ b.labels) ∧
      ((b.writeOpt w).status = .open → b.status = .open) ∧
      (RigWhenOpen b → RigWhenOpen (b.writeOpt w)) := by
  rcases dispTransition_write h with rfl | rfl | ⟨u, rest, f, rfl, rfl⟩
  · exact ⟨id, id, id⟩
  · exact ⟨by simp [Bead.writeOpt], by simp [Bead.writeOpt, Bead.write], fun _ ho => by
      simp [Bead.writeOpt, Bead.write] at ho⟩
  · cases u with
    | description t =>
        exact ⟨by simp [Bead.writeOpt], by simp [Bead.writeOpt],
          fun _ ho => hd (by simpa [Bead.writeOpt] using ho) t (List.mem_cons_self _ _)⟩
    | labels add remove =>
        have hq : labelQueued ∉ add ∧ labelQueued ∈ remove := hu _ (List.mem_cons_self _ _)
        exact ⟨by simp [Bead.writeOpt, hq.1, hq.2], by simp [Bead.writeOpt],
          fun hr => by simpa [RigWhenOpen, Bead.writeOpt] using hr⟩

/-- The dispatcher reaches a point whose facts hold. -/
theorem dispTransition_dispOk {b : Bead} {pc pc' : DispPc} {a : Action} {w : Option BeadWrite}
    {r : Bool} (hb : labelQueued ∈ b.labels → RigWhenOpen b) (hd : DispOk b pc)
    (h : dispTransition b pc a = some (pc', w, r)) : DispOk (b.writeOpt w) pc' := by
  unfold dispTransition at h
  split at h
  · split_ifs at h with hq
    obtain ⟨q, hq', h⟩ := Option.map_eq_some'.mp h
    cases h
    show HasTargetRig q.description
    rw [readyQueuedBeadOf_description hq']
    exact hb hq.1 hq.2
  · rename_i q outcome
    cases h
    obtain ⟨p, hp⟩ := Option.isSome_iff_exists.mp (slingParams_isSome hd)
    cases outcome <;> simp only [dispatchSingleBead, hp]
    case error err =>
        intro _ t ht
        simp only [recordDispatchFailure, List.mem_cons] at ht
        rcases ht with ht | ht
        · cases ht; exact hasTargetRig_failureDescription hd err
        · split_ifs at ht <;> simp [quarantineUpdate] at ht
    case ok => intro ho; simp [Bead.writeOpt, Bead.write, Except.toBool] at ho
  · rename_i u rest f ok
    cases h
    have hs : (b.writeOpt (if ok then some (.update u) else none)).status = b.status := by
      cases ok <;> cases u <;> rfl
    by_cases hr : rest = []
    · rw [if_pos hr]; trivial
    · rw [if_neg hr]
      exact fun ho t ht => hd (hs ▸ ho) t (List.mem_cons_of_mem _ ht)
  · cases h

theorem CommitInv.step {s s' : Sys} {a : Action} (hi : CommitInv s)
    (hp : rollbackSafe s a = true) (h : step s a = some s') : CommitInv s' := by
  rcases step_cases h with ⟨st, rfl, -⟩ | ⟨e, call, pc, pc', w, he, ht, rfl⟩ |
    ⟨pc', w, r, ht, rfl⟩
  · cases hp
  · obtain ⟨hb', hok', hst, hkeep⟩ := enqTransition_ok (hi.enq e _ he) hi.bead
      (fun hr => (rollbackSafe_rollback hp hr).1) ht
    refine ⟨hb', hi.disp.of_status hst, hi.unqueues, fun j y hy => ?_⟩
    by_cases hj : j = e
    · subst hj
      simp only [List.getElem?_set_self (List.getElem?_eq_some_iff.mp he).1,
        Option.some.injEq] at hy
      exact hy ▸ hok'
    · rw [List.getElem?_set_ne (Ne.symm hj)] at hy
      -- another execution: a rollback write finds none of them with a label add pending
      cases hr : a.rollbackWrite
      · exact (hi.enq j y hy).mono (hkeep hr)
      · exact (hi.enq j y hy).of_not_pending
          ((rollbackSafe_rollback hp hr).2 y (List.getElem?_mem hy))
  · obtain ⟨hlab, -, hrig⟩ := dispTransition_bead hi.disp hi.unqueues ht
    exact ⟨fun hq => hrig (hi.bead (hlab hq)), dispTransition_dispOk hi.bead hi.disp ht,
      (dispTransition_unqueues hi.unqueues ht).1, fun j y hy => (hi.enq j y hy).mono hrig⟩

theorem CommitInv.init {bead : Bead} {calls : List EnqueueCall} (hb : labelQueued ∉ bead.labels)
    (hr : ∀ c ∈ calls, LineValue c.rigName) : CommitInv (Sys.init bead calls) := by
  refine ⟨fun hq => absurd hq hb, trivial, trivial, fun i x hx => ?_⟩
  obtain ⟨c, hc, rfl⟩ := List.mem_map.mp (List.getElem?_mem hx)
  exact hr c hc

/-- **Label-last commit.** From a bead without `gt:queued` and enqueue calls whose rig names are
lines, with the enqueue executions overlapping in any way, every update free to fail and the
executor answering anything: as long as no operator changes the status and no rollback write
lands on an open bead that carries `gt:queued` or while an execution is between its metadata
write and its label add, in every state reached an open bead that carries `gt:queued` has a
block with a non-empty target rig, and the bead of every ready snapshot passes the metadata
check of `dispatchSingleBead`, so it is never quarantined for missing metadata. -/
theorem queued_bead_has_target_rig (bead : Bead) (calls : List EnqueueCall) (acts : List Action)
    (s : Sys) (hb : labelQueued ∉ bead.labels) (hr : ∀ c ∈ calls, LineValue c.rigName)
    (hrun : run (Sys.init bead calls) acts = some s)
    (hsafe : everyStep rollbackSafe (Sys.init bead calls) acts = true) :
    (QueuedOpen s.bead → ∃ m, parseQueueMetadata s.bead.description = some m ∧ m.targetRig ≠ []) ∧
      ∀ q, s.disp = .slinging q → slingParams q ≠ none := by
  have hi := run_invariant (fun hi hp h => hi.step hp h) hrun hsafe (CommitInv.init hb hr)
  refine ⟨fun hq => ?_, fun q hq => ?_⟩
  · obtain ⟨m, hm, hne, -⟩ := hi.bead hq.1 hq.2
    exact ⟨m, hm, hne⟩
  · have hd := hi.disp
    rw [hq] at hd
    exact Option.ne_none_iff_isSome.mpr (slingParams_isSome hd)

/-- Two enqueues that overlap all the way, both committing, then a ready snapshot. -/
def overlappingEnqueues : List Action :=
  [.enqRead 0 true, .enqRead 1 true, .enqWrite 0 true, .enqWrite 1 true, .enqLabel 0 true,
    .enqLabel 1 true, .snapshot]

theorem queued_bead_has_target_rig_after_enqueue :
    ∃ s, run (Sys.init sampleBead [sampleCall, sampleCall]) overlappingEnqueues = some s ∧
      (QueuedOpen s.bead → ∃ m, parseQueueMetadata s.bead.description = some m ∧
        m.targetRig ≠ []) ∧ ∀ q, s.disp = .slinging q → slingParams q ≠ none := by
  obtain ⟨s, hs⟩ := Option.isSome_iff_exists.mp
    (show (run (Sys.init sampleBead [sampleCall, sampleCall]) overlappingEnqueues).isSome by
      decide)
  exact ⟨s, hs, queued_bead_has_target_rig sampleBead [sampleCall, sampleCall]
    overlappingEnqueues s (by decide) (by decide) hs (by decide)⟩

/-- Two enqueues read the bead before either writes; the first commits, the second's label add
fails and its rollback writes the description without a block after that commit. The next
snapshot finds `gt:queued` without metadata, and the dispatcher is left with the quarantine. -/
theorem rollback_after_commit_quarantines :
    (run (Sys.init sampleBead [sampleCall, sampleCall])
        [.enqRead 0 true, .enqRead 1 true, .enqWrite 0 true, .enqLabel 0 true, .enqWrite 1 true,
          .enqLabel 1 false, .enqRollback 1 true, .snapshot, .sling (.ok "p".toList)]).map
      (·.disp) = some (.updating [quarantineUpdate] false) := by
  decide

/-- The other rollback hazard: the second enqueue's rollback lands while the first is between
its metadata write and its label add, and the first's label then commits onto the description
without a block. -/
theorem rollback_before_commit_quarantines :
    (run (Sys.init sampleBead [sampleCall, sampleCall])
        [.enqRead 0 true, .enqRead 1 true, .enqWrite 0 true, .enqWrite 1 true, .enqLabel 1 false,
          .enqRollback 1 true, .enqLabel 0 true, .snapshot, .sling (.ok "p".toList)]).map
      (·.disp) = some (.updating [quarantineUpdate] false) := by
  decide

/-- One enqueue whose metadata write succeeds, whose label add fails, and whose rollback
succeeds. -/
def failedLabelAdd : List Action :=
  [.enqRead 0 true, .enqWrite 0 true, .enqLabel 0 false, .enqRollback 0 true]

/-- **Rollback.** When `enqueueBead` reaches its metadata write, the label add fails and the
rollback succeeds, the call returns with the bead's labels and status as they were and its
description the stripped one it read: the description before the call exactly when that had no
block. -/
theorem rollback_restores_stripped_description (bead : Bead) (call : EnqueueCall)
    (hreach : (enqueueDecision call bead).isSome) :
    ∃ s, run (Sys.init bead [call]) failedLabelAdd = some s ∧ s.enqueues = [(call, .done)] ∧
      s.bead.description = stripQueueMetadata bead.description ∧ s.bead.labels = bead.labels ∧
      s.bead.status = bead.status ∧
      (s.bead.description = bead.description ↔ parseQueueMetadata bead.description = none) := by
  obtain ⟨⟨meta, baseDesc⟩, hd⟩ := Option.isSome_iff_exists.mp hreach
  obtain ⟨-, -, rfl⟩ := enqueueDecision_spec hd
  have h1 := step_of_enqTransition (s := Sys.init bead [call]) (a := .enqRead 0 true) rfl rfl
    (show enqTransition call bead .start (.enqRead 0 true) =
      some (.writeMeta meta (stripQueueMetadata bead.description), none) by
      rw [enqTransition, if_pos rfl, hd])
  refine ⟨⟨⟨stripQueueMetadata bead.description, bead.labels, bead.status⟩, [(call, .done)],
    .idle, 0⟩, ?_, rfl, rfl, rfl, rfl, stripQueueMetadata_eq_self_iff _⟩
  -- the write, the failed label add and the rollback do not read the bead
  rw [failedLabelAdd, run, h1, Option.some_bind]
  rfl

theorem rollback_restores_stripped_description_sample :
    ∃ s, run (Sys.init sampleBead [sampleCall]) failedLabelAdd = some s ∧
      s.bead = sampleBead := by
  obtain ⟨s, hs, -, hd, hl, hst, -⟩ :=
    rollback_restores_stripped_description sampleBead sampleCall (by decide)
  exact ⟨s, hs, by rw [Bead.mk.injEq]; exact ⟨hd.trans (by decide), hl, hst⟩⟩

/-- A bead quarantined once, with its failure record, enqueued again: after the failed label add
the rollback writes the description without the block, and the failure record is gone. -/
def quarantinedBead : Bead :=
  ⟨"Fix it\n---gt:queue:v1---\ntarget_rig: gastown\ndispatch_failures: 3\nlast_failure: boom".toList,
    [labelDispatchFailed], .open⟩

theorem rollback_drops_failure_record :
    (run (Sys.init quarantinedBead [sampleCall]) failedLabelAdd).map (·.bead) =
        some ⟨"Fix it".toList, [labelDispatchFailed], .open⟩ ∧
      "Fix it".toList ≠ quarantinedBead.description := by
  decide

end Store

end GastownQueue
