import GastownQueue.Protocol

/-! What each step of the store protocol can write, said once, so that every invariant of the
protocol is a case analysis over these lemmas and never over the step function itself. -/

namespace GastownQueue

namespace Store

variable {s s' : Sys} {a : Action}

/-- What a step can do: an operator's status change, a step of one enqueue execution, or a step
of the dispatcher, each with the one write it makes. -/
theorem step_cases (h : step s a = some s') :
    (∃ st, a = .setStatus st ∧ s' = { s with bead := s.bead.write (.status st) }) ∨
    (∃ e call pc pc' w, s.enqueues[e]? = some (call, pc) ∧
      enqTransition call s.bead pc a = some (pc', w) ∧
      s' = { s with bead := s.bead.writeOpt w, enqueues := s.enqueues.set e (call, pc') }) ∨
    (∃ pc' w recorded, dispTransition s.bead s.disp a = some (pc', w, recorded) ∧
      s' = { s with bead := s.bead.writeOpt w, disp := pc',
                    failuresRecorded := if recorded then s.failuresRecorded + 1
                      else s.failuresRecorded }) := by
  unfold step at h
  split at h
  · exact .inl ⟨_, rfl, (Option.some.inj h).symm⟩
  · split at h
    · obtain ⟨⟨pc', w⟩, ht, rfl⟩ := Option.map_eq_some'.mp h
      exact .inr (.inl ⟨_, _, _, _, _, by assumption, ht, rfl⟩)
    · cases h
  · obtain ⟨⟨pc', w, r⟩, ht, rfl⟩ := Option.map_eq_some'.mp h
    exact .inr (.inr ⟨_, _, _, ht, rfl⟩)

/-- A step of an enqueue execution, read forward from its transition. -/
theorem step_of_enqTransition {e : Nat} {call : EnqueueCall} {pc pc' : EnqPc}
    {w : Option BeadWrite} (ha : a.enqueue? = some e) (hget : s.enqueues[e]? = some (call, pc))
    (ht : enqTransition call s.bead pc a = some (pc', w)) :
    step s a = some { s with bead := s.bead.writeOpt w, enqueues := s.enqueues.set e (call, pc') } := by
  have hstep : step s a = (match s.enqueues[e]? with
      | some (call, pc) => (enqTransition call s.bead pc a).map fun (pc', w) =>
          { s with bead := s.bead.writeOpt w, enqueues := s.enqueues.set e (call, pc') }
      | none => none) := by
    cases a <;> cases ha <;> rfl
  rw [hstep, hget]; dsimp only; rw [ht]; rfl

theorem run_cons {s : Sys} {a : Action} {rest : List Action} {s' : Sys}
    (h : run s (a :: rest) = some s') : ∃ s₁, step s a = some s₁ ∧ run s₁ rest = some s' := by
  simpa only [run, Option.bind_eq_some] using h

/-- A property that every step `p` allows keeps holds at the end of every run whose steps `p`
allows. -/
theorem run_invariant {I : Sys → Prop} {p : Sys → Action → Bool}
    (hstep : ∀ {s s' a}, I s → p s a = true → step s a = some s' → I s') {s s' : Sys}
    {acts : List Action} (hrun : run s acts = some s') (hp : everyStep p s acts = true)
    (hi : I s) : I s' := by
  induction acts generalizing s with
  | nil => cases hrun; exact hi
  | cons a rest ih =>
      obtain ⟨s₁, h₁, h₂⟩ := run_cons hrun
      simp only [everyStep, h₁, Bool.and_eq_true] at hp
      exact ih h₂ hp.2 (hstep hi hp.1 h₁)

theorem run_append (s : Sys) (acts₁ acts₂ : List Action) :
    run s (acts₁ ++ acts₂) = (run s acts₁).bind fun s₁ => run s₁ acts₂ := by
  induction acts₁ generalizing s with
  | nil => rfl
  | cons a rest ih =>
      simp only [List.cons_append, run, List.append_eq, Option.bind_assoc, ih]

/-- The steps of a run's prefix and of what follows it are allowed when the whole run's are. -/
theorem everyStep_append {p : Sys → Action → Bool} {s s₁ : Sys} {acts₁ acts₂ : List Action}
    (h : everyStep p s (acts₁ ++ acts₂) = true) (h₁ : run s acts₁ = some s₁) :
    everyStep p s acts₁ = true ∧ everyStep p s₁ acts₂ = true := by
  induction acts₁ generalizing s with
  | nil => cases h₁; exact ⟨rfl, h⟩
  | cons a rest ih =>
      obtain ⟨s', hs', hrest⟩ := run_cons h₁
      simp only [List.cons_append, everyStep, hs', Bool.and_eq_true] at h ⊢
      exact ⟨⟨h.1, (ih h.2 hrest).1⟩, (ih h.2 hrest).2⟩

/-- The ghost count of failure records only grows. -/
theorem step_failuresRecorded_le (h : step s a = some s') :
    s.failuresRecorded ≤ s'.failuresRecorded := by
  rcases step_cases h with ⟨-, -, rfl⟩ | ⟨-, -, -, -, -, -, -, rfl⟩ | ⟨-, -, r, -, rfl⟩
  · exact le_rfl
  · exact le_rfl
  · cases r <;> simp

theorem run_failuresRecorded_le {s s' : Sys} {acts : List Action} (h : run s acts = some s') :
    s.failuresRecorded ≤ s'.failuresRecorded := by
  induction acts generalizing s with
  | nil => cases h; exact le_rfl
  | cons a rest ih =>
      obtain ⟨s₁, h₁, h₂⟩ := run_cons h
      exact (step_failuresRecorded_le h₁).trans (ih h₂)

@[simp] theorem update_description_labels (b : Bead) (t : GoString) :
    (b.update (.description t)).labels = b.labels := rfl

@[simp] theorem update_description_status (b : Bead) (t : GoString) :
    (b.update (.description t)).status = b.status := rfl

@[simp] theorem update_description_description (b : Bead) (t : GoString) :
    (b.update (.description t)).description = t := rfl

@[simp] theorem write_status_labels (b : Bead) (st : BeadStatus) :
    (b.write (.status st)).labels = b.labels := rfl

@[simp] theorem write_status_description (b : Bead) (st : BeadStatus) :
    (b.write (.status st)).description = b.description := rfl

@[simp] theorem write_update (b : Bead) (u : BeadUpdate) : b.write (.update u) = b.update u := rfl

theorem mem_foldl_setKey (add keys : List GoString) (x : GoString) :
    x ∈ add.foldl setKey keys ↔ x ∈ add ∨ x ∈ keys := by
  induction add generalizing keys with
  | nil => simp
  | cons k add ih => rw [List.foldl_cons, ih, mem_setKey]; simp only [List.mem_cons]; tauto

@[simp] theorem mem_update_labels (b : Bead) (add remove : List GoString) (x : GoString) :
    x ∈ (b.update (.labels add remove)).labels ↔ x ∈ add ∨ (x ∈ b.labels ∧ x ∉ remove) := by
  simp [Bead.update, mem_foldl_setKey]

@[simp] theorem update_labels_description (b : Bead) (add remove : List GoString) :
    (b.update (.labels add remove)).description = b.description := rfl

@[simp] theorem update_labels_status (b : Bead) (add remove : List GoString) :
    (b.update (.labels add remove)).status = b.status := rfl

/-- The writes of an enqueue execution: none, a description, or the label commit from
`addLabel`. -/
theorem enqTransition_write {call : EnqueueCall} {bead : Bead} {pc pc' : EnqPc}
    {w : Option BeadWrite} (h : enqTransition call bead pc a = some (pc', w)) :
    w = none ∨ (∃ t, w = some (.update (.description t))) ∨
      (w = some (.update queueLabelUpdate) ∧ (∃ e, a = .enqLabel e true) ∧
        ∃ meta baseDesc, pc = .addLabel meta baseDesc) := by
  cases pc <;> cases a <;> simp only [enqTransition, reduceCtorEq] at h
  all_goals
    rename_i b
    cases b <;> simp only [Bool.false_eq_true, if_false, if_true, Option.some.injEq,
      Prod.mk.injEq] at h <;> obtain ⟨rfl, rfl⟩ := h <;> simp

/-- The writes of the dispatcher: none, the executor's hook, or the head of its pending
updates. -/
theorem dispTransition_write {bead : Bead} {pc pc' : DispPc} {w : Option BeadWrite}
    {recorded : Bool} (h : dispTransition bead pc a = some (pc', w, recorded)) :
    w = none ∨ w = some (.status .hooked) ∨
      ∃ u rest failure, pc = .updating (u :: rest) failure ∧ w = some (.update u) := by
  unfold dispTransition at h
  split at h
  · split_ifs at h
    obtain ⟨_, -, h⟩ := Option.map_eq_some'.mp h
    cases h; exact .inl rfl
  · cases h; split <;> simp
  · cases h; split <;> simp
  · cases h

end Store

end GastownQueue
