import GastownQueue.Counter
import GastownQueue.Spawn

/-! What the circuit breaker is for: a bead whose sling keeps failing is not handed to the
executor without end. The dispatcher calls the executor only for a snapshot whose
`dispatch_failures` is below `maxDispatchFailures`, and every failed call writes the counter one
higher before the next snapshot, so along the run of one enqueue the executor is called at most
`maxDispatchFailures` times, whichever its outcomes and however the enqueue interleaves with the
cycles, as long as the failure records land (the setting of the counter invariant). -/

namespace GastownQueue

namespace Store

variable {s s' : Sys} {a : Action}

/-- The step calls the executor: the sling of a bead whose metadata gives `executeSling` its
parameters. -/
def invokes (s : Sys) : Action → Bool
  | .sling _ =>
      match s.disp with
      | .slinging b => (slingParams b).isSome
      | _ => false
  | _ => false

/-- The executor calls the breaker still allows: the ones left below the limit, one fewer while
a failure record is pending, and none once the bead is no longer open. -/
def retryCredit (s : Sys) : Nat :=
  match s.disp with
  | .slinging _ => 3 - s.failuresRecorded
  | .updating (.description _ :: _) true => 3 - (s.failuresRecorded + 1)
  | _ => if s.bead.status = .open then 3 - s.failuresRecorded else 0

/-- The credit reads only the dispatcher's point, the failure records and the status. -/
theorem retryCredit_congr (hd : s'.disp = s.disp) (hst : s'.bead.status = s.bead.status)
    (hf : s'.failuresRecorded = s.failuresRecorded) : retryCredit s' = retryCredit s := by
  simp only [retryCredit, hd, hst, hf]

/-- The sling of a bead under the limit pays for its executor call: a failure leaves its record
pending, a success hooks the bead, and a bead without parameters is quarantined uncalled. -/
theorem sling_retryCredit {b : ReadyQueuedBead} {outcome : Except GoString GoString}
    (hd : s.disp = .slinging b) (hlt : s.failuresRecorded < 3)
    (h : step s (.sling outcome) = some s') :
    (if invokes s (.sling outcome) then 1 else 0) + retryCredit s' ≤ retryCredit s := by
  simp only [step, Action.enqueue?, dispTransition, hd, Option.map_some', Option.some.injEq] at h
  subst h
  simp only [invokes, retryCredit, hd]
  rcases hsp : slingParams b with _ | params <;> simp only [dispatchSingleBead, hsp]
  · simp [quarantineUpdate, Bead.writeOpt, Except.toBool]; split <;> omega
  · cases outcome <;> simp [recordDispatchFailure, Bead.writeOpt, Bead.write, Except.toBool] <;>
      omega

/-- A `bd update` the dispatcher issues pays back only the failure record it writes. -/
theorem dispUpdate_retryCredit {call : EnqueueCall} {pending : List BeadUpdate} {failure : Bool}
    (hi : CounterInv call s) (hd : s.disp = .updating pending failure)
    (h : step s (.dispUpdate true) = some s') : retryCredit s' ≤ retryCredit s := by
  rcases pending with _ | ⟨u, rest⟩
  · simp [step, Action.enqueue?, dispTransition, hd] at h
  simp only [step, Action.enqueue?, dispTransition, hd, Option.map_some', Option.some.injEq] at h
  subst h
  have hst : (s.bead.writeOpt (some (.update u))).status = s.bead.status := by cases u <;> rfl
  cases failure with
  | false => rcases rest with _ | ⟨v, rest⟩ <;> simp [retryCredit, hd, hst]
  | true =>
      have hno : NoDescription rest := by
        rcases (hd ▸ hi.disp : DispCounterOk s.bead s.failuresRecorded (.updating (u :: rest) true))
          with ⟨_, _, hp, -, hr⟩ | hnd
        · cases hp; exact hr
        · exact fun t ht => hnd t (List.mem_cons_of_mem _ ht)
      -- no description is pending behind the update: the credit after it is the one of the
      -- counter it leaves, which a failure record moves up by what the credit already left out
      rcases rest with _ | ⟨_ | _, rest⟩
      · cases u <;> simp [retryCredit, hd, hst, BeadUpdate.isDescription]
        split <;> omega
      · exact absurd (List.mem_cons_self _ _) (hno _)
      · cases u <;> simp [retryCredit, hd, hst, BeadUpdate.isDescription]
        split <;> omega

/-- Along the counter invariant's steps, every executor call is paid out of the credit. -/
theorem step_retryCredit {call : EnqueueCall} (hi : CounterInv call s) (hp : cleanStep s a = true)
    (h : step s a = some s') :
    (if invokes s a then 1 else 0) + retryCredit s' ≤ retryCredit s := by
  cases a with
  | setStatus => cases hp
  | snapshot =>
      simp only [step, Action.enqueue?, Option.map_eq_some'] at h
      obtain ⟨⟨pc', w, r⟩, ht, rfl⟩ := h
      cases hd : s.disp <;> simp only [dispTransition, hd, reduceCtorEq] at ht
      split_ifs at ht with hq
      obtain ⟨b, -, hb⟩ := Option.map_eq_some'.mp ht
      cases hb
      simp [invokes, retryCredit, hd, Bead.writeOpt, hq.2]
  | sling outcome =>
      cases hd : s.disp with
      | slinging b => exact sling_retryCredit hd (hd ▸ hi.disp).2 h
      | idle | updating =>
          simp [step, Action.enqueue?, dispTransition, hd] at h
  | dispUpdate ok =>
      cases ok
      · cases hp
      cases hd : s.disp with
      | updating pending failure =>
          simpa [invokes] using dispUpdate_retryCredit hi hd h
      | idle | slinging =>
          simp [step, Action.enqueue?, dispTransition, hd] at h
  | enqRead e _ | enqWrite e _ | enqLabel e _ | enqRollback e _ | enqConvoy e _
  | enqRepersist e _ =>
      obtain ⟨hst, hdisp, hf, -⟩ := step_enqueue (by rfl) h
      simp only [invokes, retryCredit_congr hdisp hst hf, Bool.false_eq_true, if_false,
        Nat.zero_add, le_refl]

/-- **The circuit breaker bounds the executor.** One enqueue of a bead without `gt:queued`, with
one-line option texts, interleaved with dispatch cycles in which every update succeeds, the
executor's errors and the convoy IDs are one line, and the convoy re-persist lands before the
first failure record: whatever the executor returns and however the steps interleave, it is
called for the bead at most `maxDispatchFailures` times. -/
theorem executor_calls_le_max_failures (bead : Bead) (call : EnqueueCall) (steps : List Action)
    (s' : Sys) (hb : labelQueued ∉ bead.labels)
    (hopts : ∀ v ∈ [call.rigName, call.opts.formula, call.opts.args, call.opts.merge,
      call.opts.baseBranch, call.opts.account, call.opts.agent], '\n' ∉ v)
    (hrun : run (Sys.init bead [call]) steps = some s')
    (hclean : everyStep cleanStep (Sys.init bead [call]) steps = true) :
    countSteps invokes (Sys.init bead [call]) steps ≤ maxDispatchFailures.val.toNat := by
  have h₀ : retryCredit (Sys.init bead [call]) ≤ 3 := by
    simp only [retryCredit, Sys.init]; split <;> omega
  have := countSteps_add_le (p := invokes) (r := fun _ => false) (I := CounterInv call)
    retryCredit (fun hi hp h => ⟨hi.step hp h, by simpa using step_retryCredit hi hp h⟩)
    hrun hclean (CounterInv.init hb (enqueueMetadata_singleLine hopts).1)
  simp only [List.countP_false, Function.const_apply] at this
  exact (show maxDispatchFailures.val.toNat = 3 from rfl) ▸ by omega

/-- The enqueue up to its re-persist, then three failed cycles, the last one quarantining. -/
def threeFailures : List Action :=
  enqueueToConvoy ++ [.enqRepersist 0 true] ++ failedCycle ++ failedCycle ++
    [.snapshot, .sling (.error "boom".toList), .dispUpdate true, .dispUpdate true]

/-- Three failed calls, the third quarantining: the bound is reached. -/
theorem executor_calls_le_max_failures_three :
    ∃ s', run (Sys.init sampleBead [convoyCall]) threeFailures = some s' ∧
      everyStep cleanStep (Sys.init sampleBead [convoyCall]) threeFailures = true ∧
      countSteps invokes (Sys.init sampleBead [convoyCall]) threeFailures = 3 ∧
      countSteps invokes (Sys.init sampleBead [convoyCall]) threeFailures ≤
        maxDispatchFailures.val.toNat := by
  obtain ⟨s', hs⟩ := Option.isSome_iff_exists.mp
    (show (run (Sys.init sampleBead [convoyCall]) threeFailures).isSome by decide)
  have hclean : everyStep cleanStep (Sys.init sampleBead [convoyCall]) threeFailures = true := by
    decide
  exact ⟨s', hs, hclean, by decide, executor_calls_le_max_failures sampleBead convoyCall
    threeFailures s' (by decide) (by decide) hs hclean⟩

end Store

end GastownQueue
