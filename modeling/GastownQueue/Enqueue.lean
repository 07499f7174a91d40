import GastownQueue.DispatchLaws

/-! The enqueue side of the queue (`sling_queue.go`): the options of `enqueueBead`, the metadata
it builds from them, and the two descriptions it writes, the first metadata write and the
re-persist with the ID of the convoy it created. The dispatcher reads either of them back as
the parameters that were enqueued. -/

namespace GastownQueue

open Strings

structure EnqueueOptions where
  formula : GoString := []
  args : GoString := []
  vars : List GoString := []
  merge : GoString := []
  baseBranch : GoString := []
  noConvoy : Bool := false
  owned : Bool := false
  dryRun : Bool := false
  force : Bool := false
  noMerge : Bool := false
  account : GoString := []
  agent : GoString := []
  hookRawBead : Bool := false
  deriving DecidableEq, Repr

/-- The block of `enqueueBead` under "Build queue metadata": each `if opts.X != "" { meta.X =
opts.X }` becomes the value it leaves in the field. -/
def enqueueMetadata (rigName : GoString) (now : Rfc3339) (opts : EnqueueOptions) :
    QueueMetadata :=
  let meta := newQueueMetadata rigName now
  { meta with
    formula := if opts.formula ≠ [] then opts.formula else meta.formula
    args := if opts.args ≠ [] then opts.args else meta.args
    vars := if opts.vars.length > 0 then join opts.vars "\n".toList else meta.vars
    merge := if opts.merge ≠ [] then opts.merge else meta.merge
    baseBranch := if opts.baseBranch ≠ [] then opts.baseBranch else meta.baseBranch
    noMerge := opts.noMerge
    account := if opts.account ≠ [] then opts.account else meta.account
    agent := if opts.agent ≠ [] then opts.agent else meta.agent
    hookRawBead := opts.hookRawBead
    owned := opts.owned }

/-- The description `enqueueBead` writes: the one it read, stripped, with the block of `meta`.
The first write and the convoy re-persist differ only in `meta.convoy`. -/
def enqueueDescription (description : GoString) (meta : QueueMetadata) : GoString :=
  withMetadataBlock (stripQueueMetadata description) (formatQueueMetadata meta)

theorem ite_ne_nil_self (v : GoString) : (if v ≠ [] then v else []) = v := by
  split_ifs with h
  · rfl
  · exact (not_not.mp h).symm

/-- Every guarded assignment either sets its field or leaves the empty value there. -/
theorem enqueueMetadata_eq (rigName : GoString) (now : Rfc3339) (opts : EnqueueOptions) :
    enqueueMetadata rigName now opts =
      { targetRig := rigName, formula := opts.formula, args := opts.args,
        vars := join opts.vars "\n".toList, enqueuedAt := now.text, merge := opts.merge,
        baseBranch := opts.baseBranch, noMerge := opts.noMerge, account := opts.account,
        agent := opts.agent, hookRawBead := opts.hookRawBead, owned := opts.owned } := by
  have hvars : (if opts.vars.length > 0 then join opts.vars "\n".toList else []) =
      join opts.vars "\n".toList := by
    split_ifs with h
    · rfl
    · rw [List.eq_nil_of_length_eq_zero (by omega : opts.vars.length = 0)]; rfl
  simp only [enqueueMetadata, newQueueMetadata, ite_ne_nil_self, hvars]

/-- A text field value that the line format carries unchanged. -/
def FieldText (v : GoString) : Prop :=
  '\n' ∉ v ∧ trimSpace v = v

instance : DecidablePred FieldText := fun _ => inferInstanceAs (Decidable (_ ∧ _))

/-- The record of either write is well formed when every option text is. -/
theorem enqueueMetadata_wellFormed {rigName convoy : GoString} {now : Rfc3339}
    {opts : EnqueueOptions}
    (htext : ∀ v ∈ [rigName, opts.formula, opts.args, opts.merge, opts.baseBranch, opts.account,
      opts.agent], FieldText v)
    (h8 : FieldText convoy) (hvars : ∀ v ∈ opts.vars, v ≠ [] ∧ FieldText v) :
    { enqueueMetadata rigName now opts with convoy := convoy }.WellFormed := by
  simp only [List.forall_mem_cons, List.not_mem_nil, false_implies, implies_true,
    and_true] at htext
  obtain ⟨h1, h2, h3, h4, h5, h6, h7⟩ := htext
  have hentries : varEntries (join opts.vars "\n".toList) = opts.vars :=
    varEntries_join fun v hv => ⟨(hvars v hv).1, (hvars v hv).2⟩
  rw [enqueueMetadata_eq]
  refine ⟨?_, ?_, by simp⟩
  · simp only [QueueMetadata.textFields, List.forall_mem_cons, List.not_mem_nil, false_implies,
      implies_true, and_true]
    exact ⟨h1, h2, h3, now.fieldText, h4, h8, h5, h6, h7, by decide⟩
  · rw [splitVars_eq_varEntries, hentries]

/-- The parameters `slingParams` reads from a written description are the enqueued ones. -/
theorem enqueue_slingParams (r : GoString) (opts : EnqueueOptions) (now : Rfc3339)
    (d : GoString) (convoy : Option GoString) (id title : GoString) (labels : List GoString)
    (hr : r ≠ [])
    (htext : ∀ v ∈ [r, opts.formula, opts.args, opts.merge, opts.baseBranch, opts.account,
      opts.agent], FieldText v)
    (hconvoy : ∀ c ∈ convoy, FieldText c)
    (hvars : ∀ v ∈ opts.vars, v ≠ [] ∧ FieldText v) :
    let written := enqueueDescription d
      { enqueueMetadata r now opts with convoy := convoy.getD [] }
    ∃ b p, readyQueuedBeadOf ⟨id, title, written, labels⟩ = some b ∧ slingParams b = some p ∧
      p.rigName = r ∧ p.formulaName = opts.formula ∧ p.args = opts.args ∧ p.vars = opts.vars ∧
      p.merge = opts.merge ∧ p.baseBranch = opts.baseBranch ∧ p.noMerge = opts.noMerge ∧
      p.account = opts.account ∧ p.agent = opts.agent ∧ p.hookRawBead = opts.hookRawBead := by
  have hc : FieldText (convoy.getD []) := by
    cases convoy with
    | none => exact ⟨List.not_mem_nil _, rfl⟩
    | some c => exact hconvoy c rfl
  have hwf : { enqueueMetadata r now opts with convoy := convoy.getD [] }.WellFormed :=
    enqueueMetadata_wellFormed htext hc hvars
  have hparse := parseQueueMetadata_withMetadataBlock (index_stripQueueMetadata d) hwf.singleLine
  rw [hwf.normalize_eq, enqueueMetadata_eq] at hparse
  have hentries : varEntries (join opts.vars "\n".toList) = opts.vars :=
    varEntries_join fun v hv => ⟨(hvars v hv).1, (hvars v hv).2⟩
  dsimp only
  rw [enqueueMetadata_eq, enqueueDescription]
  refine ⟨⟨id, title, r, _, labels⟩, _, by simp only [readyQueuedBeadOf, hparse]; rfl,
    by simp only [slingParams, hparse, hr, if_false]; rfl, rfl, rfl, rfl, ?_, rfl, rfl, rfl, rfl,
    rfl, rfl⟩
  dsimp only
  split_ifs with hv
  · rw [← hentries, hv]; rfl
  · rw [splitVars_eq_varEntries, hentries]

/-- A bead with parameters: `dispatchSingleBead` calls the executor with them and follows its
answer, so it never issues the quarantine of a bead without metadata. -/
theorem dispatchSingleBead_of_slingParams {b : ReadyQueuedBead} {p : SlingParams}
    (hp : slingParams b = some p) (executeSling : SlingParams → Except GoString GoString) :
    dispatchSingleBead executeSling b =
        (match executeSling p with
          | .error err => (.error ("sling failed: ".toList ++ err), recordDispatchFailure b err)
          | .ok _ => (.ok (), dispatchedUpdates b)) ∧
      (dispatchSingleBead executeSling b).2 ≠ [quarantineUpdate] := by
  simp only [dispatchSingleBead, hp, true_and]
  cases executeSling p with
  | error err => simp [recordDispatchFailure, quarantineUpdate]
  | ok _ =>
      simp only [dispatchedUpdates]
      split_ifs <;> simp [swapUpdate, quarantineUpdate, labelQueueDispatched, labelDispatchFailed]

/-- **Enqueue-to-dispatch fidelity.** A description written by `enqueueBead`, first or with the
convoy ID, makes a ready bead that `dispatchSingleBead` does not quarantine: whatever the
executor, it is called with the enqueued parameters, and its answer alone decides the outcome, a
failure record or the cleanup of a dispatched bead. The rig name is non-empty: `IsRigName`
accepts only named rigs. -/
theorem enqueue_dispatch_fidelity (r : GoString) (opts : EnqueueOptions) (now : Rfc3339)
    (d : GoString) (convoy : Option GoString) (id title : GoString) (labels : List GoString)
    (hr : r ≠ [])
    (htext : ∀ v ∈ [r, opts.formula, opts.args, opts.merge, opts.baseBranch, opts.account,
      opts.agent], FieldText v)
    (hconvoy : ∀ c ∈ convoy, FieldText c)
    (hvars : ∀ v ∈ opts.vars, v ≠ [] ∧ FieldText v) :
    let written := enqueueDescription d
      { enqueueMetadata r now opts with convoy := convoy.getD [] }
    ∃ b, ∃ p : SlingParams, readyQueuedBeadOf ⟨id, title, written, labels⟩ = some b ∧
      p.rigName = r ∧ p.formulaName = opts.formula ∧ p.args = opts.args ∧ p.vars = opts.vars ∧
      p.merge = opts.merge ∧ p.baseBranch = opts.baseBranch ∧ p.noMerge = opts.noMerge ∧
      p.account = opts.account ∧ p.agent = opts.agent ∧ p.hookRawBead = opts.hookRawBead ∧
      ∀ executeSling : SlingParams → Except GoString GoString,
        dispatchSingleBead executeSling b =
          (match executeSling p with
            | .error err => (.error ("sling failed: ".toList ++ err), recordDispatchFailure b err)
            | .ok _ => (.ok (), dispatchedUpdates b)) ∧
        (dispatchSingleBead executeSling b).2 ≠ [quarantineUpdate] := by
  obtain ⟨b, p, hb, hp, h₁, h₂, h₃, h₄, h₅, h₆, h₇, h₈, h₉, h₁₀⟩ :=
    enqueue_slingParams r opts now d convoy id title labels hr htext hconvoy hvars
  exact ⟨b, p, hb, h₁, h₂, h₃, h₄, h₅, h₆, h₇, h₈, h₉, h₁₀, dispatchSingleBead_of_slingParams hp⟩

/-- The options `runBatchEnqueue` passes for one bead with a formula variable, after a convoy
was created. -/
def sampleOptions : EnqueueOptions :=
  { formula := "mol-polecat-work".toList, vars := ["issue=42".toList], noMerge := true }

/-- The executor refuses the bead: its error is the failure record's. -/
theorem enqueue_dispatch_fidelity_sample :
    ∃ b, ∃ p : SlingParams, readyQueuedBeadOf ⟨"gt-1".toList, [], enqueueDescription "Fix it".toList
        { enqueueMetadata "gastown".toList sampleTime sampleOptions with
          convoy := "hq-cv-1".toList }, []⟩ = some b ∧
      p.rigName = "gastown".toList ∧ p.formulaName = "mol-polecat-work".toList ∧
      p.vars = ["issue=42".toList] ∧
      dispatchSingleBead (fun _ => .error "boom".toList) b =
        (.error "sling failed: boom".toList, recordDispatchFailure b "boom".toList) := by
  obtain ⟨b, p, hb, hr, hf, -, hv, -, -, -, -, -, -, hd⟩ := enqueue_dispatch_fidelity
    "gastown".toList sampleOptions sampleTime "Fix it".toList (some "hq-cv-1".toList) "gt-1".toList
    [] [] (by decide) (by decide) (by decide) (by decide)
  exact ⟨b, p, hb, hr, hf, hv, (hd _).1⟩

end GastownQueue
