import GastownQueue.Commit

/-! The circuit-breaker counter across one enqueue and the dispatch cycles that follow it. The
dispatcher rewrites `dispatch_failures` from the description of its ready snapshot, under its
lock, so dispatch cycles do not lose increments to each other. The enqueue's convoy re-persist
writes a description it computed before any dispatch, with the counter at `0`: when it lands
after a failure record, the counter goes back to `0` while the bead stays queued. Error texts
and option texts of several lines change the counter through the line format (the
`LastFailure` defect), so the law below is stated for single-line texts. -/

namespace GastownQueue

open Strings

/-- The description carries a block with single-line text fields and `n` failures. -/
def CounterAt (n : Nat) (d : GoString) : Prop :=
  ∃ m, parseQueueMetadata d = some m ∧ m.SingleLine ∧ m.dispatchFailures.val = n

theorem QueueMetadata.SingleLine.normalize {m : QueueMetadata} (h : m.SingleLine) :
    m.normalize.SingleLine := by
  intro v hv
  rw [show m.normalize.textFields = m.textFields.map trimSpace from rfl, List.mem_map] at hv
  obtain ⟨u, hu, rfl⟩ := hv
  exact fun hn => h u hu (mem_of_mem_trimSpace hn)

/-- A single-line block after a description without a block reads back with its counter. -/
theorem counterAt_withMetadataBlock {s : GoString} (hs : index s queueMetadataDelimiter = none)
    {m : QueueMetadata} (hm : m.SingleLine) {n : Nat} (hn : m.dispatchFailures.val = n) :
    CounterAt n (withMetadataBlock s (formatQueueMetadata m)) := by
  refine ⟨_, parseQueueMetadata_withMetadataBlock hs hm, hm.normalize, ?_⟩
  simp only [QueueMetadata.normalize]
  split_ifs
  · exact hn
  · simp only [GoInt.zero_val]; omega

/-- The failure record of a snapshot with `n < 3` failures and a one-line error holds
`n + 1`. -/
theorem counterAt_failureDescription {q : ReadyQueuedBead} {n : Nat}
    (h : CounterAt n q.description) (hn : n < 3) {err : GoString} (herr : '\n' ∉ err) :
    CounterAt (n + 1) (failureDescription q err) := by
  obtain ⟨m, hm, hsl, hdf⟩ := h
  have hmeta : failureMetadata q err =
      { m with dispatchFailures := m.dispatchFailures + 1, lastFailure := err } := by
    simp [failureMetadata, hm]
  refine counterAt_withMetadataBlock (index_stripQueueMetadata _) ?_ ?_ <;> rw [hmeta]
  · intro v hv
    simp only [QueueMetadata.textFields, List.mem_cons, List.not_mem_nil, or_false] at hv
    rcases hv with rfl | rfl | rfl | rfl | rfl | rfl | rfl | rfl | rfl | rfl
    all_goals first | exact herr | exact hsl _ (by simp [QueueMetadata.textFields])
  · rw [GoInt.succ_val (by omega), hdf]; rfl

/-- The metadata `enqueueBead` builds from one-line option texts is single-line, with no
failures. -/
theorem enqueueMetadata_singleLine {rigName : GoString} {now : Rfc3339} {opts : EnqueueOptions}
    (h : ∀ v ∈ [rigName, opts.formula, opts.args, opts.merge, opts.baseBranch, opts.account,
      opts.agent], '\n' ∉ v) :
    (enqueueMetadata rigName now opts).SingleLine ∧
      (enqueueMetadata rigName now opts).dispatchFailures = 0 := by
  rw [enqueueMetadata_eq]
  refine ⟨fun v hv => ?_, rfl⟩
  simp only [QueueMetadata.textFields, List.mem_cons, List.not_mem_nil, or_false] at hv
  simp only [List.mem_cons, List.not_mem_nil, or_false, forall_eq_or_imp, forall_eq] at h
  rcases hv with rfl | rfl | rfl | rfl | rfl | rfl | rfl | rfl | rfl | rfl
  all_goals first | exact now.fieldText.1 | simp_all

namespace Store

/-- Before the enqueue commits: the bead is not queued, the dispatcher has not started, and no
failure is recorded. -/
def Uncommitted (s : Sys) : Prop :=
  labelQueued ∉ s.bead.labels ∧ s.disp = .idle ∧ s.failuresRecorded = 0

/-- The block an enqueue execution is to write: single-line, with no failures, after a
description without a block. -/
def FreshPlan (meta : QueueMetadata) (baseDesc : GoString) : Prop :=
  meta.SingleLine ∧ meta.dispatchFailures = 0 ∧ index baseDesc queueMetadataDelimiter = none

/-- What the enqueue execution knows at each point. Its label add succeeds, so it never rolls
back. -/
def EnqCounterOk (call : EnqueueCall) (s : Sys) : EnqPc → Prop
  | .start => (enqueueMetadata call.rigName call.now call.opts).SingleLine ∧ Uncommitted s
  | .writeMeta meta baseDesc => FreshPlan meta baseDesc ∧ Uncommitted s
  | .addLabel meta baseDesc =>
      FreshPlan meta baseDesc ∧ Uncommitted s ∧ CounterAt 0 s.bead.description
  | .rollback _ => False
  | .convoy meta baseDesc => FreshPlan meta baseDesc
  | .repersist desc => CounterAt 0 desc
  | .done => True

def NoDescription (pending : List BeadUpdate) : Prop :=
  ∀ t, .description t ∉ pending

/-- What the dispatcher knows, with `n` failures recorded: the bead of its snapshot has `n`
failures, the failure record it is about to write has `n + 1`, and after a success it writes
descriptions only once the bead is no longer open. -/
def DispCounterOk (b : Bead) (n : Nat) : DispPc → Prop
  | .idle => True
  | .slinging q => CounterAt n q.description ∧ n < 3
  | .updating pending true =>
      (∃ t rest, pending = .description t :: rest ∧ CounterAt (n + 1) t ∧ NoDescription rest) ∨
        NoDescription pending
  | .updating pending false => b.status = .open → NoDescription pending

/-- The counter invariant of a state of the run of one enqueue `call`. -/
structure CounterInv (call : EnqueueCall) (s : Sys) : Prop where
  /-- An open queued bead holds the count of failure records. -/
  bead : QueuedOpen s.bead → CounterAt s.failuresRecorded s.bead.description
  /-- The dispatcher's facts at its point. -/
  disp : DispCounterOk s.bead s.failuresRecorded s.disp
  /-- The dispatcher's pending label updates take `gt:queued` away. -/
  unqueues : s.disp.Unqueues
  /-- The one enqueue execution, and its facts at its point. -/
  enq : ∃ pc, s.enqueues = [(call, pc)] ∧ EnqCounterOk call s pc

/-- Every update succeeds, the executor's errors and the convoy IDs are one line, no operator
changes the status, and the convoy re-persist lands before the first failure record. -/
def cleanStep (s : Sys) : Action → Bool
  | .enqWrite _ ok | .enqLabel _ ok | .enqRollback _ ok | .dispUpdate ok => ok
  | .enqRepersist _ ok => ok && s.failuresRecorded == 0
  | .enqConvoy _ (some convoyID) => decide ('\n' ∉ convoyID)
  | .sling (.error err) => decide ('\n' ∉ err)
  | .setStatus _ => false
  | _ => true

theorem EnqCounterOk.uncommitted_or {call : EnqueueCall} {s : Sys} {pc : EnqPc}
    (h : EnqCounterOk call s pc) : Uncommitted s ∨ ∀ s', EnqCounterOk call s' pc := by
  cases pc with
  | start => exact .inl h.2
  | writeMeta => exact .inl h.2
  | addLabel => exact .inl h.2.1
  | rollback => exact h.elim
  | _ => exact .inr fun _ => h

theorem DispCounterOk.of_status {b b' : Bead} {n : Nat} {pc : DispPc}
    (hs : b'.status = b.status) (h : DispCounterOk b n pc) : DispCounterOk b' n pc := by
  rcases pc with _ | _ | ⟨pending, _ | _⟩
  · exact h
  · exact h
  · exact fun ho => h (hs ▸ ho)
  · exact h

theorem readyQueuedBeadOf_counter_lt {r : RawBead} {q : ReadyQueuedBead} {m : QueueMetadata}
    (h : readyQueuedBeadOf r = some q) (hm : parseQueueMetadata r.description = some m) :
    m.dispatchFailures.val < 3 := by
  have h3 : maxDispatchFailures.val = 3 := by decide
  simp only [readyQueuedBeadOf, hm] at h
  split_ifs at h with hlt
  simpa only [GoInt.le_def, h3, Int.not_le] using hlt

theorem enqTransition_counter {call : EnqueueCall} {s : Sys} {pc pc' : EnqPc} {a : Action}
    {w : Option BeadWrite} (hi : QueuedOpen s.bead → CounterAt s.failuresRecorded s.bead.description)
    (hok : EnqCounterOk call s pc) (hp : cleanStep s a = true)
    (h : enqTransition call s.bead pc a = some (pc', w)) :
    (QueuedOpen (s.bead.writeOpt w) →
        CounterAt s.failuresRecorded (s.bead.writeOpt w).description) ∧
      EnqCounterOk call { s with bead := s.bead.writeOpt w } pc' ∧
      (s.bead.writeOpt w).status = s.bead.status := by
  cases pc <;> cases a <;> simp only [enqTransition, reduceCtorEq] at h
  case start.enqRead _ checksPass =>
    obtain ⟨rfl, rfl⟩ := Prod.mk.inj (Option.some.inj h)
    refine ⟨hi, ?_, rfl⟩
    split
    · split
      · trivial
      · rename_i meta baseDesc hd
        obtain ⟨-, rfl, rfl⟩ := enqueueDecision_spec hd
        exact ⟨⟨hok.1, rfl, index_stripQueueMetadata _⟩, hok.2⟩
    · trivial
  case writeMeta.enqWrite meta baseDesc _ ok =>
    cases ok <;> obtain ⟨rfl, rfl⟩ := Prod.mk.inj (Option.some.inj h)
    · exact ⟨hi, trivial, rfl⟩
    · refine ⟨fun hq => absurd (by simpa [Bead.writeOpt] using hq.1) hok.2.1, ⟨hok.1, ?_, ?_⟩, rfl⟩
      · simpa [Uncommitted, Bead.writeOpt] using hok.2
      · exact counterAt_withMetadataBlock hok.1.2.2 hok.1.1 (by rw [hok.1.2.1]; rfl)
  case addLabel.enqLabel meta baseDesc _ ok =>
    cases ok
    · cases hp
    · obtain ⟨rfl, rfl⟩ := Prod.mk.inj (Option.some.inj h)
      refine ⟨fun _ => ?_, ?_, rfl⟩
      · rw [hok.2.1.2.2]
        simpa [Bead.writeOpt, queueLabelUpdate] using hok.2.2
      · split
        · trivial
        · exact hok.1
  case rollback => exact hok.elim
  case convoy.enqConvoy meta baseDesc _ created =>
    obtain ⟨rfl, rfl⟩ := Prod.mk.inj (Option.some.inj h)
    refine ⟨hi, ?_, rfl⟩
    split
    · trivial
    · rename_i convoyID
      have hid : '\n' ∉ convoyID := by simpa [cleanStep] using hp
      refine counterAt_withMetadataBlock hok.2.2 (fun v hv => ?_) (by rw [hok.2.1]; rfl)
      simp only [QueueMetadata.textFields, List.mem_cons, List.not_mem_nil, or_false] at hv
      rcases hv with rfl | rfl | rfl | rfl | rfl | rfl | rfl | rfl | rfl | rfl
      all_goals first | exact hid | exact hok.1 _ (by simp [QueueMetadata.textFields])
  case repersist.enqRepersist desc _ ok =>
    obtain ⟨rfl, rfl⟩ := Prod.mk.inj (Option.some.inj h)
    simp only [cleanStep, Bool.and_eq_true, beq_iff_eq] at hp
    obtain ⟨rfl, hz⟩ := hp
    exact ⟨fun _ => by rw [hz]; exact hok, trivial, rfl⟩

theorem not_queuedOpen_update_labels {b : Bead} {add remove : List GoString}
    (hu : (BeadUpdate.labels add remove).Unqueues) :
    ¬ QueuedOpen (b.update (.labels add remove)) := fun hq => by
  simp only [QueuedOpen, mem_update_labels] at hq
  exact hq.1.elim (hu.1 ·) fun h => h.2 hu.2

theorem dispTransition_counter {s : Sys} {b : Bead} {n : Nat} {pc pc' : DispPc} {a : Action}
    {w : Option BeadWrite} {r : Bool} (hb : QueuedOpen b → CounterAt n b.description)
    (hd : DispCounterOk b n pc) (hu : pc.Unqueues) (hp : cleanStep s a = true)
    (h : dispTransition b pc a = some (pc', w, r)) :
    (QueuedOpen (b.writeOpt w) → CounterAt (if r then n + 1 else n) (b.writeOpt w).description) ∧
      DispCounterOk (b.writeOpt w) (if r then n + 1 else n) pc' := by
  unfold dispTransition at h
  split at h
  case h_1 =>
    split_ifs at h with hq
    obtain ⟨q, hq', h⟩ := Option.map_eq_some'.mp h
    cases h
    obtain ⟨m, hm, hsl, hdf⟩ := hb hq
    have hlt := readyQueuedBeadOf_counter_lt hq' hm
    simp only [Bool.false_eq_true, if_false]
    exact ⟨hb, ⟨m, readyQueuedBeadOf_description hq' ▸ hm, hsl, hdf⟩, by omega⟩
  case h_2 q outcome =>
    cases h
    simp only [Bool.false_eq_true, if_false]
    obtain ⟨hc, hlt⟩ := hd
    cases hs : slingParams q with
    | none =>
        simp only [dispatchSingleBead, hs, Except.toBool, Option.isSome_none, Bool.false_and,
          Bool.false_eq_true, if_false]
        exact ⟨hb, fun _ t ht => by simp [quarantineUpdate] at ht⟩
    | some p =>
        cases outcome with
        | error err =>
            have herr : '\n' ∉ err := by simpa [cleanStep] using hp
            simp only [dispatchSingleBead, hs, Except.toBool, Option.isSome_some, Bool.not_false,
              Bool.and_self, Bool.false_eq_true, if_false]
            refine ⟨hb, .inl ⟨_, _, rfl, counterAt_failureDescription hc hlt herr, fun t ht => ?_⟩⟩
            split_ifs at ht <;> simp [quarantineUpdate] at ht
        | ok _ =>
            simp only [dispatchSingleBead, hs, Except.toBool, if_true]
            exact ⟨fun hq => by simp [QueuedOpen, Bead.writeOpt, Bead.write] at hq,
              fun ho => by simp [Bead.writeOpt, Bead.write] at ho⟩
  case h_3 u rest failure ok =>
    cases h
    have hok : ok = true := by simpa [cleanStep] using hp
    subst hok
    have hs : (b.writeOpt (some (.update u))).status = b.status := by cases u <;> rfl
    simp only [if_true, Bool.and_true]
    cases u with
    | description t =>
        cases failure <;> simp only [BeadUpdate.isDescription, Bool.false_and, Bool.and_true,
          Bool.false_eq_true, if_false, if_true]
        · have hno : b.status ≠ .open := fun ho => hd ho t (List.mem_cons_self _ _)
          refine ⟨fun hq => (hno (hs ▸ hq.2)).elim, ?_⟩
          split
          · trivial
          · exact fun ho => (hno (hs ▸ ho)).elim
        · rcases hd with ⟨t', rest', he, hc, hr⟩ | hno
          · obtain ⟨h1, rfl⟩ := List.cons.inj he
            cases h1
            refine ⟨fun _ => hc, ?_⟩
            split
            · trivial
            · exact .inr hr
          · exact absurd (List.mem_cons_self _ _) (hno t)
    | labels add remove =>
        have hq := not_queuedOpen_update_labels (b := b) (hu _ (List.mem_cons_self _ _))
        simp only [BeadUpdate.isDescription, Bool.and_false, Bool.false_eq_true, if_false]
        refine ⟨fun h => (hq h).elim, ?_⟩
        split
        · trivial
        · cases failure
          · exact fun ho t ht => hd (hs ▸ ho) t (List.mem_cons_of_mem _ ht)
          · rcases hd with ⟨t', rest', he, -, -⟩ | hno
            · cases (List.cons.inj he).1
            · exact .inr fun t ht => hno t (List.mem_cons_of_mem _ ht)
  case h_4 => cases h

/-- The dispatcher leaves its idle point only for a snapshot of an open queued bead. -/
theorem dispTransition_idle {b : Bead} {a : Action} {x : DispPc × Option BeadWrite × Bool}
    (h : dispTransition b .idle a = some x) : QueuedOpen b := by
  cases a <;> simp only [dispTransition, reduceCtorEq] at h
  split_ifs at h with hq
  exact hq

theorem CounterInv.step {call : EnqueueCall} {s s' : Sys} {a : Action} (hi : CounterInv call s)
    (hp : cleanStep s a = true) (h : step s a = some s') : CounterInv call s' := by
  obtain ⟨pc, hes, hok⟩ := hi.enq
  rcases step_cases h with ⟨st, rfl, -⟩ | ⟨e, call', pc₀, pc', w, he, ht, rfl⟩ |
    ⟨pc', w, r, ht, rfl⟩
  · cases hp
  · rw [hes] at he
    obtain ⟨rfl, he⟩ : e = 0 ∧ (call, pc) = (call', pc₀) := by
      rcases e with _ | e
      · simpa using he
      · simp at he
    cases he
    obtain ⟨hb', hok', hst⟩ := enqTransition_counter hi.bead hok hp ht
    exact ⟨hb', hi.disp.of_status hst, hi.unqueues, pc', by simp [hes], hok'⟩
  · obtain ⟨hb', hd'⟩ := dispTransition_counter hi.bead hi.disp hi.unqueues hp ht
    refine ⟨hb', hd', (dispTransition_unqueues hi.unqueues ht).1, pc, hes, ?_⟩
    rcases hok.uncommitted_or with ⟨hq, hidle, -⟩ | hany
    · rw [hidle] at ht
      exact absurd (dispTransition_idle ht).1 hq
    · exact hany _

theorem CounterInv.init {bead : Bead} {call : EnqueueCall} (hb : labelQueued ∉ bead.labels)
    (hcall : (enqueueMetadata call.rigName call.now call.opts).SingleLine) :
    CounterInv call (Sys.init bead [call]) :=
  ⟨fun hq => absurd hq.1 hb, trivial, trivial, .start, rfl, hcall, hb, rfl, rfl⟩

/-- **No lost circuit-breaker increment, for a re-persist before the first failure.** One enqueue
of a bead without `gt:queued`, with one-line option texts, interleaved with dispatch cycles in
which every update succeeds, the executor's errors and the convoy IDs are one line, and the
convoy re-persist lands before the first failure record: between any two states of the run at
which the bead is open and queued, the parsed `dispatch_failures` does not decrease, and it
equals the number of failure records written so far. -/
theorem failure_counter_monotone (bead : Bead) (call : EnqueueCall) (acts₁ acts₂ : List Action)
    (s₁ s₂ : Sys) (hb : labelQueued ∉ bead.labels)
    (hopts : ∀ v ∈ [call.rigName, call.opts.formula, call.opts.args, call.opts.merge,
      call.opts.baseBranch, call.opts.account, call.opts.agent], '\n' ∉ v)
    (hrun₁ : run (Sys.init bead [call]) acts₁ = some s₁) (hrun₂ : run s₁ acts₂ = some s₂)
    (hclean : everyStep cleanStep (Sys.init bead [call]) (acts₁ ++ acts₂) = true)
    (hq₁ : QueuedOpen s₁.bead) (hq₂ : QueuedOpen s₂.bead) :
    ∃ m₁ m₂, parseQueueMetadata s₁.bead.description = some m₁ ∧
      parseQueueMetadata s₂.bead.description = some m₂ ∧
      m₁.dispatchFailures.val ≤ m₂.dispatchFailures.val ∧
      m₂.dispatchFailures.val = s₂.failuresRecorded := by
  obtain ⟨hc₁, hc₂⟩ := everyStep_append hclean hrun₁
  have hi₁ := run_invariant (fun hi hp h => hi.step hp h) hrun₁ hc₁
    (CounterInv.init hb (enqueueMetadata_singleLine hopts).1)
  have hi₂ := run_invariant (fun hi hp h => hi.step hp h) hrun₂ hc₂ hi₁
  obtain ⟨m₁, h₁, -, e₁⟩ := hi₁.bead hq₁
  obtain ⟨m₂, h₂, -, e₂⟩ := hi₂.bead hq₂
  have hle := run_failuresRecorded_le hrun₂
  exact ⟨m₁, m₂, h₁, h₂, by omega, e₂⟩

/-- An enqueue call that makes a convoy. -/
def convoyCall : EnqueueCall := ⟨"gastown".toList, {}, sampleTime⟩

/-- The enqueue up to its convoy, and a dispatch cycle whose executor fails. -/
def enqueueToConvoy : List Action :=
  [.enqRead 0 true, .enqWrite 0 true, .enqLabel 0 true, .enqConvoy 0 (some "hq-cv-1".toList)]

def failedCycle : List Action :=
  [.snapshot, .sling (.error "boom".toList), .dispUpdate true]

theorem failure_counter_monotone_after_failure :
    ∃ s₁ s₂, run (Sys.init sampleBead [convoyCall]) (enqueueToConvoy ++ [.enqRepersist 0 true]) =
        some s₁ ∧ run s₁ failedCycle = some s₂ ∧
      ∃ m₁ m₂, parseQueueMetadata s₁.bead.description = some m₁ ∧
        parseQueueMetadata s₂.bead.description = some m₂ ∧
        m₁.dispatchFailures.val ≤ m₂.dispatchFailures.val ∧
        m₂.dispatchFailures.val = s₂.failuresRecorded := by
  have hall : (run (Sys.init sampleBead [convoyCall])
      (enqueueToConvoy ++ [.enqRepersist 0 true] ++ failedCycle)).map
        (fun s => decide (QueuedOpen s.bead)) = some true := by decide
  have h₁' : (run (Sys.init sampleBead [convoyCall]) (enqueueToConvoy ++ [.enqRepersist 0 true])).map
      (fun s => decide (QueuedOpen s.bead)) = some true := by decide
  obtain ⟨s₁, h₁, hq₁⟩ := Option.map_eq_some'.mp h₁'
  rw [run_append, h₁, Option.some_bind] at hall
  obtain ⟨s₂, h₂, hq₂⟩ := Option.map_eq_some'.mp hall
  exact ⟨s₁, s₂, h₁, h₂, failure_counter_monotone sampleBead convoyCall _ _ s₁ s₂ (by decide)
    (by decide) h₁ h₂ (by decide) (of_decide_eq_true hq₁) (of_decide_eq_true hq₂)⟩

/-- The counter the parser reads while the bead is open and queued, next to the failure records
written. -/
def counterView (s : Sys) : Bool × Option Int × Nat :=
  (decide (QueuedOpen s.bead), (parseQueueMetadata s.bead.description).map (·.dispatchFailures.val),
    s.failuresRecorded)

/-- The re-persist of the convoy lands after a failure record: the counter goes from `1` back to
`0` while the bead stays open and queued. -/
theorem repersist_resets_failure_counter :
    (run (Sys.init sampleBead [convoyCall]) (enqueueToConvoy ++ failedCycle)).map counterView =
        some (true, some 1, 1) ∧
      (run (Sys.init sampleBead [convoyCall])
          (enqueueToConvoy ++ failedCycle ++ [.enqRepersist 0 true])).map counterView =
        some (true, some 0, 1) := by
  decide

end Store

end GastownQueue
