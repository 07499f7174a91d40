import GastownQueue.ProtocolLaws

/-! The queue labels of a bead. Every update the dispatcher issues after a snapshot either writes
the description or takes `gt:queued` away, so only an enqueue's label commit can put `gt:queued`
beside an audit label: the one of a dispatched bead (`gt:queue-dispatched`) or of a quarantined
one (`gt:dispatch-failed`). `enqueueBead` does not look at those labels, and commits on a
reopened or quarantined bead all the same. -/

namespace GastownQueue

/-- A description write, or a label update that takes `gt:queued` away. -/
def BeadUpdate.Unqueues : BeadUpdate → Prop
  | .description _ => True
  | .labels add remove => labelQueued ∉ add ∧ labelQueued ∈ remove

instance : DecidablePred BeadUpdate.Unqueues := fun u => by
  cases u <;> unfold BeadUpdate.Unqueues <;> infer_instance

/-- Every update `dispatchSingleBead` issues takes `gt:queued` away or writes the
description. -/
theorem dispatchSingleBead_unqueues (executeSling : SlingParams → Except GoString GoString)
    (b : ReadyQueuedBead) : ∀ u ∈ (dispatchSingleBead executeSling b).2, u.Unqueues := by
  have hq : quarantineUpdate.Unqueues := by decide
  have hs : swapUpdate.Unqueues := by decide
  unfold dispatchSingleBead
  split
  · simpa using hq
  · split
    · simp only [recordDispatchFailure, List.mem_cons]
      rintro u (rfl | hu)
      · trivial
      · split_ifs at hu <;> simp_all
    · simp only [dispatchedUpdates, List.mem_append, List.mem_singleton]
      rintro u (hu | rfl)
      · split_ifs at hu <;> simp_all [BeadUpdate.Unqueues]
      · exact hs

namespace Store

/-- `gt:queued` does not stand beside `gt:queue-dispatched` or `gt:dispatch-failed`. -/
def QueueLabelsExclusive (b : Bead) : Prop :=
  labelQueued ∈ b.labels → labelQueueDispatched ∉ b.labels ∧ labelDispatchFailed ∉ b.labels

instance : DecidablePred QueueLabelsExclusive := fun _ => inferInstanceAs (Decidable (_ → _))

/-- The dispatcher's pending updates all take `gt:queued` away or write the description. -/
def DispPc.Unqueues : DispPc → Prop
  | .updating pending _ => ∀ u ∈ pending, u.Unqueues
  | _ => True

/-- The step commits an enqueue on a bead that carries an audit label. -/
def queuesAudited (s : Sys) : Action → Bool
  | .enqLabel _ true =>
      decide (labelQueueDispatched ∈ s.bead.labels ∨ labelDispatchFailed ∈ s.bead.labels)
  | _ => false

/-- No step of the run commits an enqueue on a bead that carries an audit label. -/
def noQueueOnAudited : Sys → List Action → Bool :=
  everyStep fun s a => !queuesAudited s a

theorem exclusive_update {b : Bead} {u : BeadUpdate} (hu : u.Unqueues)
    (hi : QueueLabelsExclusive b) : QueueLabelsExclusive (b.update u) := by
  cases u with
  | description t => exact hi
  | labels add remove =>
      intro hq
      simp only [mem_update_labels] at hq
      rcases hq with hq | ⟨-, hq⟩
      · exact absurd hq hu.1
      · exact absurd hu.2 hq

theorem dispTransition_unqueues {bead : Bead} {pc pc' : DispPc} {a : Action}
    {w : Option BeadWrite} {recorded : Bool} (hd : pc.Unqueues)
    (h : dispTransition bead pc a = some (pc', w, recorded)) :
    pc'.Unqueues ∧ ∀ u, w = some (.update u) → u.Unqueues := by
  unfold dispTransition at h
  split at h
  · split_ifs at h
    obtain ⟨_, -, h⟩ := Option.map_eq_some'.mp h
    cases h; exact ⟨trivial, by simp⟩
  · cases h
    refine ⟨dispatchSingleBead_unqueues _ _, ?_⟩
    split <;> simp
  · cases h
    simp only [DispPc.Unqueues, List.mem_cons, forall_eq_or_imp] at hd
    refine ⟨?_, ?_⟩
    · split
      · trivial
      · exact hd.2
    · split <;> simp_all
  · cases h

/-- One step keeps the labels exclusive, unless it commits an enqueue on an audited bead. -/
theorem exclusive_step {s s' : Sys} {a : Action} (h : step s a = some s')
    (hi : QueueLabelsExclusive s.bead) (hd : s.disp.Unqueues) (ha : queuesAudited s a = false) :
    QueueLabelsExclusive s'.bead ∧ s'.disp.Unqueues := by
  rcases step_cases h with ⟨st, rfl, rfl⟩ | ⟨e, call, pc, pc', w, -, ht, rfl⟩ |
    ⟨pc', w, r, ht, rfl⟩
  · exact ⟨fun hq => hi (by simpa using hq) |>.imp (by simpa using ·) (by simpa using ·), hd⟩
  · refine ⟨?_, hd⟩
    rcases enqTransition_write ht with rfl | ⟨t, rfl⟩ | ⟨rfl, ⟨e', rfl⟩, -⟩
    · exact hi
    · exact hi
    · simp only [queuesAudited, decide_eq_false_iff_not, not_or] at ha
      intro _
      simp only [Bead.writeOpt, write_update, queueLabelUpdate, mem_update_labels,
        List.mem_singleton, List.not_mem_nil, not_false_eq_true, and_true]
      exact ⟨by rintro (h | h) <;> [exact absurd h (by decide); exact ha.1 h],
        by rintro (h | h) <;> [exact absurd h (by decide); exact ha.2 h]⟩
  · obtain ⟨hd', hw⟩ := dispTransition_unqueues hd ht
    refine ⟨?_, hd'⟩
    rcases dispTransition_write ht with rfl | rfl | ⟨u, -, -, -, rfl⟩
    · exact hi
    · exact fun hq => hi (by simpa [Bead.writeOpt] using hq) |>.imp
        (by simpa [Bead.writeOpt] using ·) (by simpa [Bead.writeOpt] using ·)
    · exact exclusive_update (hw u rfl) hi

theorem exclusive_run {s s' : Sys} {acts : List Action} (hrun : run s acts = some s')
    (hi : QueueLabelsExclusive s.bead) (hd : s.disp.Unqueues)
    (hclean : noQueueOnAudited s acts = true) : QueueLabelsExclusive s'.bead :=
  (run_invariant (I := fun s => QueueLabelsExclusive s.bead ∧ s.disp.Unqueues)
    (fun hi ha h => exclusive_step h hi.1 hi.2 (by simpa using ha)) hrun hclean ⟨hi, hd⟩).1

/-- **Queue labels stay exclusive.** From a bead whose labels are exclusive, with the enqueue
calls not started and the dispatcher between cycles, every run of enqueue steps, dispatch cycles
and status changes keeps `gt:queued` apart from `gt:queue-dispatched` and `gt:dispatch-failed`,
as long as no enqueue commits its label on a bead that already carries one of those two. -/
theorem queue_labels_exclusive (bead : Bead) (calls : List EnqueueCall) (acts : List Action)
    (s : Sys) (hb : QueueLabelsExclusive bead) (hrun : run (Sys.init bead calls) acts = some s)
    (hclean : noQueueOnAudited (Sys.init bead calls) acts = true) :
    QueueLabelsExclusive s.bead :=
  exclusive_run hrun hb trivial hclean

/-- An open bead with no labels, and an enqueue call for it that makes no convoy. -/
def sampleBead : Bead := ⟨"Fix it".toList, [], .open⟩

def sampleCall : EnqueueCall := ⟨"gastown".toList, { noConvoy := true }, sampleTime⟩

/-- One enqueue and a successful dispatch cycle. -/
def enqueueAndDispatch : List Action :=
  [.enqRead 0 true, .enqWrite 0 true, .enqLabel 0 true, .snapshot, .sling (.ok "p".toList),
    .dispUpdate true, .dispUpdate true]

theorem queue_labels_exclusive_after_dispatch :
    ∃ s, run (Sys.init sampleBead [sampleCall]) enqueueAndDispatch = some s ∧
      QueueLabelsExclusive s.bead := by
  obtain ⟨s, hs⟩ := Option.isSome_iff_exists.mp
    (show (run (Sys.init sampleBead [sampleCall]) enqueueAndDispatch).isSome by decide)
  exact ⟨s, hs, queue_labels_exclusive sampleBead [sampleCall] enqueueAndDispatch s
    (by decide) hs (by decide)⟩

/-- A bead dispatched, reopened by an operator and enqueued again carries `gt:queued` beside
`gt:queue-dispatched`. -/
theorem requeue_keeps_dispatched_label :
    (run (Sys.init sampleBead [sampleCall, sampleCall])
        (enqueueAndDispatch ++ [.setStatus .open, .enqRead 1 true, .enqWrite 1 true,
          .enqLabel 1 true])).map
      (fun s => decide (labelQueued ∈ s.bead.labels ∧ labelQueueDispatched ∈ s.bead.labels)) =
      some true := by
  decide

end Store

end GastownQueue
