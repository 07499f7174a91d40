import GastownQueue.Labels

/-! Polecats spawned for one bead. The dispatcher's ready snapshot takes a bead only while it
carries `gt:queued`, and after a spawn `dispatchSingleBead` swaps that label for
`gt:queue-dispatched`, so every spawn uses up one commit of the queue label: the one the bead
started with or one an enqueue added. This holds whatever the enqueue executions interleaved with
the cycles do, whatever the executor returns and whatever status an operator sets, as long as
the dispatcher's `bd update`s land. -/

namespace GastownQueue

namespace Store

variable {s s' : Sys} {a : Action}

/-- The step is the executor spawning a polecat: the sling of the bead the dispatcher holds,
which `dispatchSingleBead` reports as a success. -/
def spawns (s : Sys) : Action → Bool
  | .sling outcome =>
      match s.disp with
      | .slinging b => (dispatchSingleBead (fun _ => outcome) b).1.toBool
      | _ => false
  | _ => false

/-- The steps of a run that `p` picks, each in the state it is taken from. -/
def countSteps (p : Sys → Action → Bool) : Sys → List Action → Nat
  | _, [] => 0
  | s, a :: rest =>
      match step s a with
      | some s' => (if p s a then 1 else 0) + countSteps p s' rest
      | none => 0

/-- A potential that pays for every picked step, and is paid back only by the steps `r` marks,
bounds the picked steps of every run whose steps `q` allows from a state where `I` holds. -/
theorem countSteps_add_le {p q : Sys → Action → Bool} {r : Action → Bool} {I : Sys → Prop}
    (P : Sys → Nat) (hstep : ∀ {s s' a}, I s → q s a = true → step s a = some s' →
      I s' ∧ (if p s a then 1 else 0) + P s' ≤ P s + (if r a then 1 else 0))
    {s s' : Sys} {steps : List Action} (hrun : run s steps = some s')
    (hq : everyStep q s steps = true) (hi : I s) :
    countSteps p s steps + P s' ≤ P s + steps.countP r := by
  induction steps generalizing s with
  | nil => cases hrun; simp [countSteps]
  | cons a rest ih =>
      obtain ⟨s₁, h₁, h₂⟩ := run_cons hrun
      simp only [everyStep, h₁, Bool.and_eq_true] at hq
      obtain ⟨hi₁, hpay⟩ := hstep hi hq.1 h₁
      have := ih h₂ hq.2 hi₁
      simp only [countSteps, h₁, List.countP_cons]
      omega

theorem everyStep_of_forall {q : Action → Bool} (s : Sys) (steps : List Action)
    (h : ∀ a ∈ steps, q a = true) : everyStep (fun _ a => q a) s steps = true := by
  induction steps generalizing s with
  | nil => rfl
  | cons a rest ih =>
      simp only [List.mem_cons, forall_eq_or_imp] at h
      simp only [everyStep, h.1, Bool.true_and]
      split
      · exact ih _ h.2
      · rfl

/-- The step commits an enqueue's `--add-label=gt:queued`. -/
def Action.addsQueued : Action → Bool
  | .enqLabel _ ok => ok
  | _ => false

/-- The step is a dispatcher `bd update` that fails. -/
def Action.updateFails : Action → Bool
  | .dispUpdate ok => !ok
  | _ => false

def queuedBit (b : Bead) : Nat :=
  if labelQueued ∈ b.labels then 1 else 0

/-- The spawns the queue label still allows: one while the dispatcher holds its snapshot, none
while an update that takes `gt:queued` away is pending, and otherwise one while the bead
carries `gt:queued`. -/
def queueCredit (s : Sys) : Nat :=
  match s.disp with
  | .slinging _ => 1
  | .updating pending _ => if pending.all BeadUpdate.isDescription then queuedBit s.bead else 0
  | .idle => queuedBit s.bead

theorem queuedBit_le_one (b : Bead) : queuedBit b ≤ 1 := by
  unfold queuedBit; split <;> omega

theorem queueCredit_le_one (s : Sys) : queueCredit s ≤ 1 := by
  have := queuedBit_le_one s.bead
  unfold queueCredit; split <;> [omega; split <;> omega; omega]

/-- The credit reads only the dispatcher's point and the labels. -/
theorem queueCredit_congr (hd : s'.disp = s.disp) (hl : s'.bead.labels = s.bead.labels) :
    queueCredit s' = queueCredit s := by
  simp only [queueCredit, queuedBit, hd, hl]

/-- An enqueue step writes no status, leaves the dispatcher where it is, records no failure, and
changes the labels only by committing `gt:queued`. -/
theorem step_enqueue {e : Nat} (ha : a.enqueue? = some e) (h : step s a = some s') :
    s'.bead.status = s.bead.status ∧ s'.disp = s.disp ∧
      s'.failuresRecorded = s.failuresRecorded ∧
      (s'.bead.labels = s.bead.labels ∨ a.addsQueued = true) := by
  rcases step_cases h with ⟨st, rfl, -⟩ | ⟨_, _, _, _, w, -, ht, rfl⟩ | ⟨_, _, _, ht, -⟩
  · cases ha
  · rcases enqTransition_write ht with rfl | ⟨t, rfl⟩ | ⟨rfl, ⟨e', rfl⟩, -⟩ <;>
      simp [Bead.writeOpt, Action.addsQueued, queueLabelUpdate]
  · cases a <;> cases ha <;> cases hd : s.disp <;> simp [dispTransition, hd] at ht

/-- A successful `dispatchSingleBead` ends with the label swap, which is no description
write. -/
theorem dispatchSingleBead_ok_swaps {executeSling : SlingParams → Except GoString GoString}
    {b : ReadyQueuedBead} (h : (dispatchSingleBead executeSling b).1.toBool = true) :
    (dispatchSingleBead executeSling b).2.all BeadUpdate.isDescription = false := by
  unfold dispatchSingleBead at h ⊢
  split at h
  · cases h
  · split at h
    · cases h
    · simp [dispatchedUpdates, swapUpdate, BeadUpdate.isDescription]

/-- The dispatcher's pending updates keep taking `gt:queued` away or writing the description. -/
theorem step_disp_unqueues (hd : s.disp.Unqueues) (h : step s a = some s') : s'.disp.Unqueues := by
  rcases step_cases h with ⟨-, -, rfl⟩ | ⟨-, -, -, -, -, -, -, rfl⟩ | ⟨pc', w, r, ht, rfl⟩
  · exact hd
  · exact hd
  · exact (dispTransition_unqueues hd ht).1

/-- A spawn uses up the credit, which only an enqueue's label commit raises again. -/
theorem step_queueCredit (hd : s.disp.Unqueues) (hf : a.updateFails = false)
    (h : step s a = some s') :
    (if spawns s a then 1 else 0) + queueCredit s' ≤
      queueCredit s + (if a.addsQueued then 1 else 0) := by
  cases a with
  | setStatus st =>
      cases h
      simp [spawns, queueCredit, queuedBit, Action.addsQueued]
  | snapshot =>
      obtain ⟨⟨pc', w, r⟩, ht, rfl⟩ := Option.map_eq_some'.mp h
      cases hd' : s.disp <;> simp only [dispTransition, hd', reduceCtorEq] at ht
      split_ifs at ht with hq
      obtain ⟨b, -, hb⟩ := Option.map_eq_some'.mp ht
      cases hb
      simp [spawns, queueCredit, queuedBit, hd', Bead.writeOpt, hq.1, Action.addsQueued]
  | sling outcome =>
      obtain ⟨⟨pc', w, r⟩, ht, rfl⟩ := Option.map_eq_some'.mp h
      cases hd' : s.disp with
      | slinging b =>
          simp only [dispTransition, hd', Option.some.injEq, Prod.mk.injEq] at ht
          obtain ⟨rfl, rfl, rfl⟩ := ht
          simp only [spawns, queueCredit, hd', Action.addsQueued]
          cases hsp : (dispatchSingleBead (fun _ => outcome) b).1.toBool
          · have := queuedBit_le_one (s.bead.writeOpt none)
            simp only [Bool.false_eq_true, if_false, Nat.zero_add]; split <;> omega
          · simp [dispatchSingleBead_ok_swaps hsp]
      | idle | updating => simp only [dispTransition, hd', reduceCtorEq] at ht
  | dispUpdate ok =>
      obtain rfl : ok = true := by simpa [Action.updateFails] using hf
      obtain ⟨⟨pc', w, r⟩, ht, rfl⟩ := Option.map_eq_some'.mp h
      cases hd' : s.disp with
      | updating pending failure =>
          rcases pending with _ | ⟨u, rest⟩
          · simp only [dispTransition, hd', reduceCtorEq] at ht
          simp only [dispTransition, hd', if_true, Option.some.injEq, Prod.mk.injEq] at ht
          obtain ⟨rfl, rfl, rfl⟩ := ht
          have hu : u.Unqueues := by
            rw [hd'] at hd; exact hd u (List.mem_cons_self _ _)
          -- a description write keeps the labels; the label update takes `gt:queued` away
          cases u with
          | description t =>
              by_cases hr : rest = [] <;>
                simp only [spawns, queueCredit, queuedBit, hd', hr, Bead.writeOpt, write_update,
                  update_description_labels, List.all_cons, List.all_nil, BeadUpdate.isDescription,
                  Action.addsQueued, Bool.true_and, Bool.false_eq_true, if_true, if_false,
                  Nat.zero_add, Nat.add_zero, le_refl]
          | labels add remove =>
              have h0 : queuedBit (s.bead.update (.labels add remove)) = 0 := by
                simp only [queuedBit, mem_update_labels, hu.1, hu.2, false_or, not_true_eq_false,
                  and_false, if_false]
              by_cases hr : rest = [] <;>
                simp only [spawns, queueCredit, hd', hr, Bead.writeOpt, write_update, h0,
                  Action.addsQueued, Bool.false_eq_true, if_true, if_false, ite_self, Nat.zero_add,
                  Nat.zero_le]
      | idle | slinging => simp only [dispTransition, hd', reduceCtorEq] at ht
  | enqRead e _ | enqWrite e _ | enqLabel e _ | enqRollback e _ | enqConvoy e _
  | enqRepersist e _ =>
      obtain ⟨-, hdisp, -, hl | hadd⟩ := step_enqueue (by rfl) h
      · simp only [spawns, queueCredit_congr hdisp hl, Bool.false_eq_true, if_false,
          Nat.zero_add, Nat.le_add_right]
      · have := queueCredit_le_one s'
        simp only [spawns, hadd, Bool.false_eq_true, if_false, if_true, Nat.zero_add]
        omega

/-- **One polecat per queue label.** In every interleaving of any number of `enqueueBead`
executions with dispatch cycles and status changes on a bead, whatever the executor returns and
whichever enqueue `bd update` fails, as long as the dispatcher's updates land, the executor spawns
polecats for the bead at most as often as an enqueue commits `gt:queued` to it, and once more
when the bead starts with the label. -/
theorem spawns_le_label_commits (bead : Bead) (calls : List EnqueueCall) (steps : List Action)
    (s' : Sys) (h : run (Sys.init bead calls) steps = some s')
    (hup : ∀ a ∈ steps, a.updateFails = false) :
    countSteps spawns (Sys.init bead calls) steps ≤
      (if labelQueued ∈ bead.labels then 1 else 0) + steps.countP (·.addsQueued) := by
  have h₀ : queueCredit (Sys.init bead calls) = if labelQueued ∈ bead.labels then 1 else 0 := rfl
  have := countSteps_add_le (p := spawns) (q := fun _ a => !a.updateFails) (r := (·.addsQueued))
    (I := fun s => s.disp.Unqueues) queueCredit
    (fun hi hq h => ⟨step_disp_unqueues hi h, step_queueCredit hi (by simpa using hq) h⟩) h
    (everyStep_of_forall _ _ fun a ha => by simp [hup a ha]) trivial
  omega

/-- Enqueue and dispatch, reopen, then enqueue and dispatch again. -/
def dispatchTwice : List Action :=
  enqueueAndDispatch ++ .setStatus .open ::
    [.enqRead 1 true, .enqWrite 1 true, .enqLabel 1 true, .snapshot, .sling (.ok "q".toList),
      .dispUpdate true, .dispUpdate true]

/-- Two polecats for two label commits: the bound is reached. -/
theorem spawns_le_label_commits_dispatch_twice :
    ∃ s', run (Sys.init sampleBead [sampleCall, sampleCall]) dispatchTwice = some s' ∧
      (∀ a ∈ dispatchTwice, a.updateFails = false) ∧
      countSteps spawns (Sys.init sampleBead [sampleCall, sampleCall]) dispatchTwice = 2 ∧
      countSteps spawns (Sys.init sampleBead [sampleCall, sampleCall]) dispatchTwice ≤
        (if labelQueued ∈ sampleBead.labels then 1 else 0) +
          dispatchTwice.countP (·.addsQueued) := by
  obtain ⟨s', hs⟩ := Option.isSome_iff_exists.mp
    (show (run (Sys.init sampleBead [sampleCall, sampleCall]) dispatchTwice).isSome by decide)
  have hup : ∀ a ∈ dispatchTwice, a.updateFails = false := by decide
  exact ⟨s', hs, hup, by decide, spawns_le_label_commits sampleBead _ dispatchTwice s' hs hup⟩

/-- When both cleanup updates fail, `gt:queued` and the block stay on the hooked bead, and the
next opening of the bead dispatches it again on the same label commit. -/
theorem failed_cleanup_dispatches_again :
    countSteps spawns (Sys.init sampleBead [sampleCall])
        (enqueueAndDispatch.take 5 ++ [.dispUpdate false, .dispUpdate false, .setStatus .open,
          .snapshot, .sling (.ok "q".toList)]) = 2 ∧
      (enqueueAndDispatch.take 5 ++ [Action.dispUpdate false, .dispUpdate false,
          .setStatus .open, .snapshot, .sling (.ok "q".toList)]).countP (·.addsQueued) = 1 := by
  decide

end Store

end GastownQueue
