import GastownQueue.MetadataLaws
import GastownQueue.Dispatch

/-! Laws of the dispatcher. The loop of a cycle reads only in-range indices and hands
`dispatchSingleBead` a prefix of the ready list, as long as the capacity, the batch size and
the list allow; what it returns, wakes and saves is a fold over that prefix. -/

namespace GastownQueue

open Strings Strconv

/-- Whether `dispatchSingleBead` returns `nil`. -/
def dispatchSucceeds (executeSling : SlingParams → Except GoString GoString)
    (b : ReadyQueuedBead) : Bool :=
  match (dispatchSingleBead executeSling b).1 with
  | .ok _ => true
  | .error _ => false

@[simp] theorem GoSlice.len_val {α : Type} (s : GoSlice α) : s.len.val = s.toList.length := rfl

theorem computeDispatchCount_val (capacity batchSize readyCount : GoInt) :
    (computeDispatchCount capacity batchSize readyCount).val =
      min readyCount.val (if 0 < capacity.val then min capacity.val batchSize.val
        else batchSize.val) := by
  unfold computeDispatchCount
  simp only [GoInt.lt_def, GoInt.zero_val]
  split_ifs <;> omega

theorem availableCapacity_eq_none {maxPolecats activePolecats : GoInt}
    (ha : 0 ≤ activePolecats.val) :
    availableCapacity maxPolecats activePolecats = none ↔
      0 < maxPolecats.val ∧ maxPolecats.val ≤ activePolecats.val := by
  have := maxPolecats.lt_max
  have := activePolecats.lt_max
  by_cases h1 : 0 < maxPolecats.val
  · have hsub : (maxPolecats - activePolecats).val = maxPolecats.val - activePolecats.val :=
      GoInt.sub_val_of_mem (by omega) (by omega)
    simp only [availableCapacity, GoInt.lt_def, GoInt.le_def, GoInt.zero_val, hsub, h1, if_true]
    split_ifs <;> simp <;> omega
  · simp [availableCapacity, h1]

theorem availableCapacity_val {maxPolecats activePolecats capacity : GoInt}
    (ha : 0 ≤ activePolecats.val)
    (h : availableCapacity maxPolecats activePolecats = some capacity) :
    capacity.val = if 0 < maxPolecats.val then maxPolecats.val - activePolecats.val else 0 := by
  have := maxPolecats.lt_max
  have := activePolecats.lt_max
  by_cases h1 : 0 < maxPolecats.val
  · have hsub : (maxPolecats - activePolecats).val = maxPolecats.val - activePolecats.val :=
      GoInt.sub_val_of_mem (by omega) (by omega)
    simp only [availableCapacity, GoInt.lt_def, GoInt.le_def, GoInt.zero_val, hsub, h1, if_true]
      at h ⊢
    split_ifs at h
    obtain rfl := Option.some.inj h
    exact hsub
  · simp only [availableCapacity, GoInt.lt_def, GoInt.zero_val, h1, if_false] at h ⊢
    obtain rfl := Option.some.inj h
    rfl

theorem dryRunLoop_eq (readyBeads : List ReadyQueuedBead) (i n : Nat)
    (h : i + n ≤ readyBeads.length) : dryRunLoop readyBeads i n = some () := by
  induction n generalizing i with
  | zero => rfl
  | succ n ih =>
      simp only [dryRunLoop, List.getElem?_eq_getElem (show i < readyBeads.length by omega)]
      exact ih (i + 1) (by omega)

/-- In range, the loop is the fold of one iteration over the beads it indexes. -/
theorem dispatchLoop_eq (executeSling : SlingParams → Except GoString GoString)
    (readyBeads : List ReadyQueuedBead) (i n : Nat) (t : DispatchTally)
    (h : i + n ≤ readyBeads.length) :
    dispatchLoop executeSling readyBeads i n t =
      some (((readyBeads.drop i).take n).foldl (DispatchTally.dispatchOne executeSling) t) := by
  induction n generalizing i t with
  | zero => rfl
  | succ n ih =>
      simp only [dispatchLoop, List.getElem?_eq_getElem (show i < readyBeads.length by omega)]
      rw [ih (i + 1) _ (by omega), List.drop_eq_getElem_cons (show i < readyBeads.length by omega),
        List.take_succ_cons, List.foldl_cons]

theorem dispatchOne_eq (executeSling : SlingParams → Except GoString GoString)
    (t : DispatchTally) (b : ReadyQueuedBead) :
    t.dispatchOne executeSling b =
      { dispatched := if dispatchSucceeds executeSling b then t.dispatched + 1 else t.dispatched,
        successfulRigs := if dispatchSucceeds executeSling b ∧ b.targetRig ≠ [] then
            setKey t.successfulRigs b.targetRig else t.successfulRigs,
        calls := t.calls ++ [b],
        updates := t.updates ++ (dispatchSingleBead executeSling b).2 } := by
  unfold DispatchTally.dispatchOne dispatchSucceeds
  rcases dispatchSingleBead executeSling b with ⟨_ | _, ups⟩ <;> simp

theorem dispatchOne_successfulRigs (executeSling : SlingParams → Except GoString GoString)
    (t : DispatchTally) (b : ReadyQueuedBead) :
    (t.dispatchOne executeSling b).successfulRigs =
      if dispatchSucceeds executeSling b ∧ b.targetRig ≠ [] then
        setKey t.successfulRigs b.targetRig else t.successfulRigs := by
  rw [dispatchOne_eq]

theorem setKey_nodup {keys : List GoString} (h : keys.Nodup) (k : GoString) :
    (setKey keys k).Nodup := by
  unfold setKey; split_ifs with hk
  · exact h
  · exact List.nodup_cons.mpr ⟨hk, h⟩

@[simp] theorem mem_setKey (keys : List GoString) (k r : GoString) :
    r ∈ setKey keys k ↔ r = k ∨ r ∈ keys := by
  unfold setKey; split_ifs with hk
  · exact ⟨.inr, by rintro (rfl | h) <;> assumption⟩
  · exact List.mem_cons

section Fold

variable (executeSling : SlingParams → Except GoString GoString)

theorem foldl_dispatchOne_calls (bs : List ReadyQueuedBead) (t : DispatchTally) :
    (bs.foldl (DispatchTally.dispatchOne executeSling) t).calls = t.calls ++ bs := by
  induction bs generalizing t with
  | nil => simp
  | cons b bs ih => rw [List.foldl_cons, ih, dispatchOne_eq]; simp

/-- The counter counts the successes; it never reaches the top of `int` in a cycle. -/
theorem foldl_dispatchOne_dispatched (bs : List ReadyQueuedBead) (t : DispatchTally)
    (h : t.dispatched.val + bs.length < 2 ^ 63) (h0 : 0 ≤ t.dispatched.val) :
    (bs.foldl (DispatchTally.dispatchOne executeSling) t).dispatched.val =
      t.dispatched.val + (bs.filter (dispatchSucceeds executeSling)).length := by
  induction bs generalizing t with
  | nil => simp
  | cons b bs ih =>
      simp only [List.length_cons] at h
      have hsucc := GoInt.succ_val (a := t.dispatched) (by omega)
      rw [List.foldl_cons, dispatchOne_eq]
      by_cases hb : dispatchSucceeds executeSling b = true
      · rw [ih] <;> simp only [hb, if_true, hsucc, List.filter_cons, List.length_cons] <;> omega
      · rw [ih] <;> simp only [hb, Bool.false_eq_true, if_false, List.filter_cons] <;> omega

/-- Each rig with a success is woken once, and no other. -/
theorem foldl_dispatchOne_rigs (bs : List ReadyQueuedBead) (t : DispatchTally)
    (hnd : t.successfulRigs.Nodup) :
    (bs.foldl (DispatchTally.dispatchOne executeSling) t).successfulRigs.Nodup ∧
      ∀ r, r ∈ (bs.foldl (DispatchTally.dispatchOne executeSling) t).successfulRigs ↔
        r ∈ t.successfulRigs ∨
          (r ≠ [] ∧ ∃ b ∈ bs, dispatchSucceeds executeSling b ∧ b.targetRig = r) := by
  induction bs generalizing t with
  | nil => simp [hnd]
  | cons b bs ih =>
      rw [List.foldl_cons]
      have hstep := dispatchOne_successfulRigs executeSling t b
      obtain ⟨hnd', hmem⟩ := ih (t.dispatchOne executeSling b) (by
        rw [hstep]; split_ifs
        · exact setKey_nodup hnd _
        · exact hnd)
      refine ⟨hnd', fun r => ?_⟩
      rw [hmem, hstep]
      split_ifs with hb
      · rw [mem_setKey]
        constructor
        · rintro ((rfl | hr) | ⟨hr, c, hc, hs, rfl⟩)
          · exact .inr ⟨hb.2, b, List.mem_cons_self _ _, hb.1, rfl⟩
          · exact .inl hr
          · exact .inr ⟨hr, c, List.mem_cons_of_mem _ hc, hs, rfl⟩
        · rintro (hr | ⟨hr, c, hc, hs, rfl⟩)
          · exact .inl (.inr hr)
          · rcases List.mem_cons.mp hc with rfl | hc
            · exact .inl (.inl rfl)
            · exact .inr ⟨hr, c, hc, hs, rfl⟩
      · constructor
        · rintro (hr | ⟨hr, c, hc, hs, rfl⟩)
          · exact .inl hr
          · exact .inr ⟨hr, c, List.mem_cons_of_mem _ hc, hs, rfl⟩
        · rintro (hr | ⟨hr, c, hc, hs, rfl⟩)
          · exact .inl hr
          · rcases List.mem_cons.mp hc with rfl | hc
            · exact absurd ⟨hs, hr⟩ hb
            · exact .inr ⟨hr, c, hc, hs, rfl⟩

end Fold
/-- The run a cycle ends with once it has handed `bs` to `dispatchSingleBead`. -/
def cycleRun (env : DispatchEnv) (bs : List ReadyQueuedBead) : DispatchRun :=
  finishCycle env (bs.foldl (DispatchTally.dispatchOne env.executeSling) {})

/-- How many ready beads a cycle takes: `max(0, min(batch, ready, maxP - a when maxP > 0))`. -/
def admittedCount (maxP batch a ready : Int) : Int :=
  max 0 (if 0 < maxP then min (min batch ready) (maxP - a) else min batch ready)

/-- With the capacity `availableCapacity` leaves, `computeDispatchCount` takes the admitted
number of beads. -/
private theorem toNat_max_zero_left (x : Int) : (max 0 x).toNat = x.toNat := by omega

theorem computeDispatchCount_admitted {M B active capacity ready : GoInt}
    (hc : capacity.val = if 0 < M.val then M.val - active.val else 0)
    (hpos : ¬(0 < M.val ∧ M.val ≤ active.val)) :
    (computeDispatchCount capacity B ready).val.toNat =
      (admittedCount M.val B.val active.val ready.val).toNat := by
  rw [computeDispatchCount_val, admittedCount, toNat_max_zero_left]
  split_ifs at hc ⊢ with hcap hM hM
  · rw [hc]; congr 1; omega
  · exact absurd hc (by omega)
  · exact absurd ⟨hM, by omega⟩ hpos
  · rw [Int.min_comm]

theorem cycleRun_nil (env : DispatchEnv) : cycleRun env [] = ⟨.ok 0, [], [], [], none⟩ := by
  simp [cycleRun, finishCycle]

/-- A cycle that holds the lock, is not paused and is not gated off dispatches the first
`admittedCount` ready beads, or, in a dry run, only reads them. -/
theorem dispatchQueuedWork_eq_cycle (env : DispatchEnv) (batchOverride maxPolOverride : GoInt)
    (dryRun : Bool) {queueState : QueueState} {queue : Option WorkQueueConfig}
    {R : GoSlice ReadyQueuedBead}
    (hlock : env.tryLock = .ok true) (hstate : loadQueueState env.stateFile = .ok queueState)
    (hpaused : queueState.paused = false) (hsettings : env.settings = .ok queue)
    (hgate : ¬((queue.getD env.defaultConfig).enabled = false ∧ dryRun = false ∧ env.daemon = true))
    (hready : env.readyBeads = .ok R) (ha : 0 ≤ env.activePolecats.val) :
    let maxPolecats := if 0 < maxPolOverride then maxPolOverride
      else (queue.getD env.defaultConfig).maxPolecats
    let batchSize := if 0 < batchOverride then batchOverride
      else (queue.getD env.defaultConfig).batchSize
    dispatchQueuedWork env batchOverride maxPolOverride dryRun =
      some (if dryRun then ⟨.ok 0, [], [], [], none⟩ else cycleRun env (R.toList.take
        (admittedCount maxPolecats.val batchSize.val env.activePolecats.val R.toList.length).toNat)) := by
  have hgate' : (!(queue.getD env.defaultConfig).enabled && !dryRun && env.daemon) = false := by
    revert hgate
    cases (queue.getD env.defaultConfig).enabled <;> cases dryRun <;> cases env.daemon <;> simp
  simp only [dispatchQueuedWork, hlock, hstate, hpaused, hsettings, hgate', hready,
    Bool.false_eq_true, if_false]
  generalize (if 0 < maxPolOverride then maxPolOverride
    else (queue.getD env.defaultConfig).maxPolecats) = M
  generalize (if 0 < batchOverride then batchOverride
    else (queue.getD env.defaultConfig).batchSize) = B
  rcases hcap : availableCapacity M env.activePolecats with _ | capacity
  · obtain ⟨h1, h2⟩ := (availableCapacity_eq_none ha).mp hcap
    have hk : admittedCount M.val B.val env.activePolecats.val R.toList.length = 0 := by
      simp only [admittedCount, h1, if_true]; omega
    rw [hk]
    cases dryRun <;> simp [cycleRun_nil]
  · have hc := availableCapacity_val ha hcap
    have hpos : ¬(0 < M.val ∧ M.val ≤ env.activePolecats.val) := fun h => by
      rw [(availableCapacity_eq_none ha).mpr h] at hcap; cases hcap
    dsimp only
    by_cases hR : R.len = 0
    · have hnil : R.toList = [] := List.length_eq_zero.mp (by
        have := congrArg GoInt.val hR; rw [GoSlice.len_val, GoInt.zero_val] at this; omega)
      rw [if_pos hR, hnil]
      cases dryRun <;> simp [cycleRun_nil]
    · have hR' : 0 < R.toList.length := by
        rcases Nat.eq_zero_or_pos R.toList.length with h | h
        · exact absurd (GoInt.ext (by simp [h])) hR
        · exact h
      have hlen : (computeDispatchCount capacity B R.len).val.toNat =
          (admittedCount M.val B.val env.activePolecats.val R.toList.length).toNat :=
        computeDispatchCount_admitted hc hpos
      have hle : (admittedCount M.val B.val env.activePolecats.val R.toList.length).toNat ≤
          R.toList.length := by
        unfold admittedCount; split_ifs <;> omega
      rw [if_neg hR, hlen]
      cases dryRun
      · simp only [Bool.false_eq_true, if_false]
        rw [dispatchLoop_eq _ _ 0 _ _ (by omega)]
        rfl
      · simp only [if_true]
        rw [dryRunLoop_eq _ 0 _ (by omega)]
        rfl

/-- What a cycle returns, wakes and saves, for the beads it handed over. -/
theorem cycleRun_spec (env : DispatchEnv) (bs : List ReadyQueuedBead) (hbs : bs.length < 2 ^ 63) :
    (cycleRun env bs).calls = bs ∧
      (cycleRun env bs).result.map GoInt.val =
        .ok ((bs.filter (dispatchSucceeds env.executeSling)).length : Int) ∧
      (cycleRun env bs).woken.Nodup ∧
      (∀ r, r ∈ (cycleRun env bs).woken ↔
        r ≠ [] ∧ ∃ b ∈ bs, dispatchSucceeds env.executeSling b ∧ b.targetRig = r) ∧
      ((cycleRun env bs).saved.isSome →
        0 < (bs.filter (dispatchSucceeds env.executeSling)).length) := by
  have hcount := foldl_dispatchOne_dispatched env.executeSling bs {} (by simp; omega) (by simp)
  obtain ⟨hnd, hmem⟩ := foldl_dispatchOne_rigs env.executeSling bs {} List.nodup_nil
  simp only [GoInt.zero_val, Int.zero_add] at hcount
  refine ⟨by simp [cycleRun, finishCycle, foldl_dispatchOne_calls], ?_, hnd, ?_, ?_⟩
  · simp [cycleRun, finishCycle, Functor.map, Except.map, hcount]
  · intro r; rw [cycleRun, finishCycle, hmem]; simp
  · simp only [cycleRun, finishCycle]
    split_ifs with h
    · simp only [GoInt.lt_def, GoInt.zero_val, hcount] at h; omega
    · simp

theorem val_ite_pos (o c : GoInt) : (if 0 < o then o else c).val = if 0 < o.val then o.val else c.val := by
  simp only [GoInt.lt_def, GoInt.zero_val]; split_ifs <;> rfl

theorem dispatchQueuedWork_capacity (env : DispatchEnv) (batchOverride maxPolOverride : GoInt)
    (dryRun : Bool) (queueState : QueueState) (queue : Option WorkQueueConfig)
    (R : GoSlice ReadyQueuedBead)
    (hlock : env.tryLock = .ok true) (hstate : loadQueueState env.stateFile = .ok queueState)
    (hpaused : queueState.paused = false) (hsettings : env.settings = .ok queue)
    (hgate : ¬((queue.getD env.defaultConfig).enabled = false ∧ dryRun = false ∧ env.daemon = true))
    (hready : env.readyBeads = .ok R) (ha : 0 ≤ env.activePolecats.val) :
    let cfg := queue.getD env.defaultConfig
    let maxP := if 0 < maxPolOverride.val then maxPolOverride.val else cfg.maxPolecats.val
    let batch := if 0 < batchOverride.val then batchOverride.val else cfg.batchSize.val
    let a := env.activePolecats.val
    let k := max 0 (if 0 < maxP then min (min batch R.toList.length) (maxP - a)
      else min batch R.toList.length)
    ∃ run, dispatchQueuedWork env batchOverride maxPolOverride dryRun = some run ∧
      run.calls = (if dryRun then [] else R.toList.take k.toNat) ∧ k ≤ R.toList.length ∧
      (0 < maxP → 0 < k → a + k ≤ maxP) ∧
      run.result.map GoInt.val =
        .ok ((run.calls.filter (dispatchSucceeds env.executeSling)).length : Int) ∧
      run.woken.Nodup ∧
      (∀ r, r ∈ run.woken ↔
        r ≠ [] ∧ ∃ b ∈ run.calls, dispatchSucceeds env.executeSling b ∧ b.targetRig = r) ∧
      (run.saved.isSome → 0 < (run.calls.filter (dispatchSucceeds env.executeSling)).length) := by
  intro cfg maxP batch a k
  have heq := dispatchQueuedWork_eq_cycle env batchOverride maxPolOverride dryRun hlock hstate
    hpaused hsettings hgate hready ha
  simp only [val_ite_pos] at heq
  have hk : admittedCount maxP batch a R.toList.length = k := rfl
  rw [hk] at heq
  have hle : k ≤ R.toList.length := by
    simp only [k]; split_ifs <;> omega
  have hbound : 0 < maxP → 0 < k → a + k ≤ maxP := by
    simp only [k]; intro h1; simp only [h1, if_true]; omega
  refine ⟨_, heq, ?_⟩
  cases dryRun
  · have htake : (R.toList.take k.toNat).length < 2 ^ 63 := by
      have := R.length_lt; simp only [List.length_take]; omega
    obtain ⟨hcalls, hres, hnd, hmem, hsaved⟩ := cycleRun_spec env _ htake
    simp only [Bool.false_eq_true, if_false, hcalls, true_and]
    exact ⟨hle, hbound, hres, hnd, hmem, hsaved⟩
  · refine ⟨rfl, hle, hbound, ?_⟩
    simp [Except.map]

/-- Two ready beads whose metadata blocks name rig `r`. -/
def sampleReady : GoSlice ReadyQueuedBead :=
  ⟨[⟨"gt-1".toList, [], "r".toList, "Fix it\n---gt:queue:v1---\ntarget_rig: r".toList,
      [labelQueued]⟩,
    ⟨"gt-2".toList, [], "r".toList, "---gt:queue:v1---\ntarget_rig: r".toList, [labelQueued]⟩],
    by decide⟩

/-- A town with one polecat running under a ceiling of three, batches of one, and an executor
that succeeds for every bead it is called on. -/
def sampleEnv : DispatchEnv where
  tryLock := .ok true
  stateFile := .ok none
  settings := .ok none
  defaultConfig := ⟨true, 3, 1⟩
  daemon := true
  activePolecats := 1
  readyBeads := .ok sampleReady
  executeSling := fun _ => .ok "polecat".toList
  freshStateFile := .ok none
  now := sampleTime

theorem dispatchQueuedWork_capacity_sample :
    ∃ run, dispatchQueuedWork sampleEnv 0 0 false = some run ∧
      run.calls = sampleReady.toList.take 1 ∧
      run.result.map GoInt.val =
        .ok ((run.calls.filter (dispatchSucceeds sampleEnv.executeSling)).length : Int) ∧
      (∀ r, r ∈ run.woken ↔
        r ≠ [] ∧ ∃ b ∈ run.calls, dispatchSucceeds sampleEnv.executeSling b ∧ b.targetRig = r) ∧
      (run.calls.filter (dispatchSucceeds sampleEnv.executeSling)).length = 1 := by
  obtain ⟨run, hrun, hcalls, -, -, hres, -, hwoken, -⟩ := dispatchQueuedWork_capacity sampleEnv 0 0
    false {} none sampleReady rfl rfl rfl rfl (by decide) rfl (by decide)
  exact ⟨run, hrun, hcalls, hres, hwoken, by rw [hcalls]; decide⟩

/-- Five polecats already run under a ceiling of three: the cycle returns before dispatching,
so `k = 0` and `a + k = 5 > 3`. -/
theorem dispatch_ceiling_already_exceeded :
    sampleEnv.tryLock = .ok true ∧
      dispatchQueuedWork { sampleEnv with activePolecats := 5 } 0 3 false =
        some ⟨.ok 0, [], [], [], none⟩ ∧
      ¬((5 : Int) + max 0 (min (min 1 (sampleReady.toList.length : Int)) (3 - 5)) ≤ 3) :=
  ⟨rfl, rfl, by decide⟩

/-- **Strip removes every block.** A stripped description holds no delimiter, so it parses to
nothing and stripping it again changes nothing; a description parses to nothing exactly when
stripping leaves it alone, and that is when the cleanup after a successful sling writes no
description. -/
theorem strip_removes_metadata (d : GoString) :
    index (stripQueueMetadata d) queueMetadataDelimiter = none ∧
      parseQueueMetadata (stripQueueMetadata d) = none ∧
      stripQueueMetadata (stripQueueMetadata d) = stripQueueMetadata d ∧
      (parseQueueMetadata d = none ↔ stripQueueMetadata d = d) ∧
      ∀ b : ReadyQueuedBead, (∃ t, .description t ∈ dispatchedUpdates b) ↔
        parseQueueMetadata b.description ≠ none := by
  have h := index_stripQueueMetadata d
  refine ⟨h, (parseQueueMetadata_eq_none_iff _).mpr h, stripQueueMetadata_of_index_none h,
    (stripQueueMetadata_eq_self_iff d).symm, fun b => ?_⟩
  have hiff := stripQueueMetadata_eq_self_iff b.description
  by_cases hs : stripQueueMetadata b.description = b.description <;>
    simp_all [dispatchedUpdates, swapUpdate]

/-- An executor error whose second line reads like a counter line: the counter the bead had, one,
is written back as two, but the copied error line follows it and parses back as zero. -/
theorem recordDispatchFailure_multiline_error :
    let b : ReadyQueuedBead := ⟨"gt-1".toList, [], "r".toList,
      "---gt:queue:v1---\ntarget_rig: r\ndispatch_failures: 1".toList, [labelQueued]⟩
    let err := "exit status 1\ndispatch_failures: 0".toList
    (parseQueueMetadata b.description).map (·.dispatchFailures.val) = some 1 ∧
      recordDispatchFailure b err = [.description (failureDescription b err)] ∧
      (parseQueueMetadata (failureDescription b err)).map (·.dispatchFailures.val) = some 0 := by
  decide

end GastownQueue
