import GastownQueue.DispatchLaws
import GastownQueue.ReadySet

/-! The ready set feeding a dispatch cycle. `dispatchQueuedWork` hands `dispatchSingleBead` a
prefix of the list `getReadyQueuedBeads` returned, and that list holds one bead per ID across all
the rig directories, so no cycle slings a bead twice, whichever directories list it. -/

namespace GastownQueue

/-- The ready list has one bead per ID. -/
theorem getReadyQueuedBeads_nodup {dirs : List (GoString × BdReadyOutput)}
    {l : List ReadyQueuedBead} (h : getReadyQueuedBeads dirs = .ok l) : (l.map (·.id)).Nodup := by
  obtain ⟨hres, -, -⟩ := ReadyScan.foldl_addDir dirs {}
  unfold getReadyQueuedBeads at h
  dsimp only at h
  split_ifs at h
  cases h
  rw [hres, List.nil_append]
  exact (nodup_firstByID _).sublist ((List.filter_sublist _).map _)

/-- The loop hands `dispatchSingleBead` the beads it indexes, in order. -/
theorem dispatchLoop_calls {executeSling : SlingParams → Except GoString GoString}
    {readyBeads : List ReadyQueuedBead} {i n : Nat} {t t' : DispatchTally}
    (h : dispatchLoop executeSling readyBeads i n t = some t') :
    t'.calls = t.calls ++ (readyBeads.drop i).take n := by
  induction n generalizing i t with
  | zero => cases h; simp
  | succ n ih =>
      simp only [dispatchLoop] at h
      split at h
      · cases h
      · rename_i b hb
        rw [ih h, dispatchOne_eq, List.drop_eq_getElem_cons (List.getElem?_eq_some_iff.mp hb).1,
          (List.getElem?_eq_some_iff.mp hb).2, List.take_succ_cons, List.append_assoc]
        rfl

/-- A run slings nothing, or a prefix of the ready list: every return before the loop hands
`dispatchSingleBead` nothing. -/
theorem dispatchQueuedWork_calls {env : DispatchEnv} {batchOverride maxPolOverride : GoInt}
    {dryRun : Bool} {run : DispatchRun}
    (h : dispatchQueuedWork env batchOverride maxPolOverride dryRun = some run) :
    run.calls = [] ∨ ∃ R, env.readyBeads = .ok R ∧ run.calls <+: R.toList := by
  have early : ∀ {r : Except GoString GoInt},
      some (⟨r, [], [], [], none⟩ : DispatchRun) = some run →
        run.calls = [] ∨ ∃ R, env.readyBeads = .ok R ∧ run.calls <+: R.toList := by
    rintro r ⟨⟩; exact .inl rfl
  unfold dispatchQueuedWork at h
  -- the lock, the queue state and the pause
  rcases hlock : env.tryLock with e | ⟨_ | _⟩ <;> simp only [hlock] at h
  any_goals exact early h
  rcases hst : loadQueueState env.stateFile with e | qs <;> simp only [hst] at h
  any_goals exact early h
  by_cases hp : qs.paused = true
  · rw [if_pos hp] at h; exact early h
  rw [if_neg hp] at h
  -- the settings, the daemon gate, the capacity and the ready query
  rcases hset : env.settings with e | queue <;> simp only [hset] at h
  any_goals exact early h
  split at h
  · exact early h
  split at h
  · exact early h
  split at h
  · exact early h
  rename_i R hR
  split at h
  · exact early h
  -- the dry run reads the beads; the loop slings a prefix of them
  split at h
  · obtain ⟨_, -, rfl⟩ := Option.map_eq_some'.mp h; exact .inl rfl
  · obtain ⟨t, ht, rfl⟩ := Option.map_eq_some'.mp h
    refine .inr ⟨R, hR, ?_⟩
    simp only [finishCycle, dispatchLoop_calls ht, List.drop_zero]
    exact List.take_prefix _ _

/-- **No bead slung twice in a cycle.** In every dispatch run over the beads that
`getReadyQueuedBeads` returned, whatever the rig directories list, the configuration, the
overrides and the executor do, the beads handed to `dispatchSingleBead` have pairwise different
IDs, also when several rig databases list the same bead. -/
theorem dispatch_cycle_slings_distinct_beads (dirs : List (GoString × BdReadyOutput))
    (env : DispatchEnv) (batchOverride maxPolOverride : GoInt) (dryRun : Bool) (run : DispatchRun)
    (hready : ∀ R, env.readyBeads = .ok R → getReadyQueuedBeads dirs = .ok R.toList)
    (h : dispatchQueuedWork env batchOverride maxPolOverride dryRun = some run) :
    (run.calls.map (·.id)).Nodup := by
  rcases dispatchQueuedWork_calls h with hc | ⟨R, hR, hp⟩
  · simp [hc]
  · exact (getReadyQueuedBeads_nodup (hready R hR)).sublist (hp.sublist.map _)

/-- Two rig databases list the same queued bead, without a metadata block. -/
def sampleDirs : List (GoString × BdReadyOutput) :=
  [("a".toList, .beads [⟨"gt-1".toList, [], [], [labelQueued]⟩]),
   ("b".toList, .beads [⟨"gt-1".toList, [], [], [labelQueued]⟩])]

/-- The one bead `getReadyQueuedBeads sampleDirs` returns. -/
def sampleQueued : ReadyQueuedBead :=
  ⟨"gt-1".toList, [], [], [], [labelQueued]⟩

/-- The town of `sampleEnv`, dispatching from that ready list. -/
def sampleReadyEnv : DispatchEnv :=
  { sampleEnv with readyBeads := .ok ⟨[sampleQueued], by decide⟩ }

theorem dispatch_cycle_slings_distinct_beads_sample :
    (∀ R, sampleReadyEnv.readyBeads = .ok R → getReadyQueuedBeads sampleDirs = .ok R.toList) ∧
      dispatchQueuedWork sampleReadyEnv 0 0 false =
        some ⟨.ok 0, [sampleQueued], [quarantineUpdate], [], none⟩ ∧
      ([sampleQueued].map (·.id)).Nodup :=
  have hready : ∀ R, sampleReadyEnv.readyBeads = .ok R →
      getReadyQueuedBeads sampleDirs = .ok R.toList := by
    rintro R ⟨⟩; rfl
  have h : dispatchQueuedWork sampleReadyEnv 0 0 false =
      some ⟨.ok 0, [sampleQueued], [quarantineUpdate], [], none⟩ := rfl
  ⟨hready, h, dispatch_cycle_slings_distinct_beads sampleDirs _ 0 0 false _ hready h⟩

end GastownQueue
