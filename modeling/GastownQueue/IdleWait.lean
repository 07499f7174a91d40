import GastownQueue.Idle

/-! The two other parties of the idle/wake handshake: the deacon's `gt deacon idle-wait`
(`runDeaconIdleWait`) and sling's `ensureDoltForSling`. The daemon writes
`daemon/idle-state.json`; the deacon reads it, sleeps the stored backoff (30 seconds when none is
stored, at most `--max`) and polls the wake file on a 5-second ticker; sling, before it needs Dolt,
writes the wake file when the daemon idle-stopped Dolt and Dolt is not running. The idle-state
file is the value `ReadIdleState` returns (`none` for a missing or undecodable file), with the
fields these functions read. Clock readings are nanoseconds; a tick carries what the deacon's
`os.Stat` found and the `time.Now()` after it. Go's ticker never fires early, and drops ticks
for a slow receiver, so the `k`-th tick taken comes at least `5k` seconds after the start. -/

namespace GastownQueue

namespace Idle

/-- The fields of `IdleState` that `runDeaconIdleWait` and `ensureDoltForSling` read. -/
structure IdleState where
  idle : Bool
  doltStopped : Bool
  backoffInterval : GoInt
  deriving DecidableEq, Repr

/-- `IsDoltIdleStopped`, on what `ReadIdleState` returned. -/
def isDoltIdleStopped : Option IdleState → Bool
  | some state => state.doltStopped
  | none => false

/-- `ensureDoltForSling`: whether it signals the wake (and then starts Dolt), from the idle state
and what `doltserver.IsRunning` answered. -/
def ensureDoltForSling (state : Option IdleState) (running : Except GoString Bool) : Bool :=
  if !isDoltIdleStopped state then false
  else
    match running with
    | .ok true => false
    | _ => true

/-- The sleep of `runDeaconIdleWait`: the stored backoff, 30 seconds when it is not positive,
capped at `--max`. -/
def idleWaitSleep (state : IdleState) (idleWaitMax : GoInt) : GoInt :=
  let sleepDuration := if state.backoffInterval ≤ 0 then 30 * second else state.backoffInterval
  if sleepDuration > idleWaitMax then idleWaitMax else sleepDuration

/-- The deadline `runDeaconIdleWait` sets at the clock reading `now`, `time.Now().Add(sleep)`;
`none` when the state is missing or not idle and it returns at once. -/
def idleWaitDeadline (state : Option IdleState) (idleWaitMax : GoInt) (now : Int) : Option Int :=
  match state with
  | some state => if state.idle then some (now + (idleWaitSleep state idleWaitMax).val) else none
  | none => none

/-- A tick of the deacon's ticker: whether `os.Stat` found the wake file, and the clock after. -/
structure Tick where
  wake : Bool
  now : Int
  deriving DecidableEq, Repr

/-- The body of the `select` case: return when the wake file is there, or when the clock is past
the deadline (`time.Now().After(deadline)`). -/
def tickReturns (deadline : Int) (t : Tick) : Bool :=
  t.wake || decide (deadline < t.now)

/-- The ticker loop over the ticks taken, in order: how many it takes before it returns, `none`
while it is still waiting after the last. -/
def idleWaitLoop (deadline : Int) : List Tick → Option Nat
  | [] => none
  | t :: ts => if tickReturns deadline t then some 1 else (idleWaitLoop deadline ts).map (· + 1)

/-- `runDeaconIdleWait` in a workspace, from the clock reading `start` at which it sets its
deadline: the ticks it takes before it returns, `0` when the system is not idle. -/
def runDeaconIdleWait (state : Option IdleState) (idleWaitMax : GoInt) (start : Int)
    (ticks : List Tick) : Option Nat :=
  match idleWaitDeadline state idleWaitMax start with
  | some deadline => idleWaitLoop deadline ticks
  | none => some 0

/-- The 5-second period of the ticker, in nanoseconds. -/
def tickPeriod : Int := 5000000000

/-- The ticker never fires early: each tick taken comes at least a period after the one before,
the first a period after `start`. -/
def notEarly (start : Int) : List Tick → Bool
  | [] => true
  | t :: ts => decide (start + tickPeriod ≤ t.now) && notEarly (start + tickPeriod) ts

theorem idleWaitSleep_le (state : IdleState) (idleWaitMax : GoInt) :
    (idleWaitSleep state idleWaitMax).val ≤ idleWaitMax.val := by
  unfold idleWaitSleep
  dsimp only
  split_ifs <;> simp only [GT.gt, GoInt.lt_def, GoInt.le_def, not_lt] at * <;> omega

theorem idleWaitDeadline_le {state : Option IdleState} {idleWaitMax : GoInt} {now d : Int}
    (h : idleWaitDeadline state idleWaitMax now = some d) : d ≤ now + idleWaitMax.val := by
  rcases state with _ | state
  · cases h
  · simp only [idleWaitDeadline, Option.ite_none_right_eq_some, Option.some.injEq] at h
    have := idleWaitSleep_le state idleWaitMax
    omega

/-- Ticks that never come early end the loop by the `n`-th once the deadline lies less than `n`
periods after the start. -/
theorem idleWaitLoop_within (deadline : Int) :
    ∀ {start : Int} {ticks : List Tick} {n : Nat}, notEarly start ticks = true → 0 < n →
      deadline < start + tickPeriod * n → n ≤ ticks.length →
      ∃ k, idleWaitLoop deadline ticks = some k ∧ k ≤ n
  | _, [], _, _, hn, _, hlen => absurd hlen (by simp only [List.length_nil]; omega)
  | start, t :: ts, n, h, hn, hd, hlen => by
      simp only [notEarly, Bool.and_eq_true, decide_eq_true_eq] at h
      by_cases hr : tickReturns deadline t = true
      · exact ⟨1, by simp only [idleWaitLoop, hr, if_true], hn⟩
      · have hnow : t.now ≤ deadline := by
          simp only [tickReturns, Bool.or_eq_true, decide_eq_true_eq, not_or] at hr
          omega
        obtain ⟨k, hk, hkn⟩ := idleWaitLoop_within deadline (n := n - 1) h.2
          (by unfold tickPeriod at *; omega) (by unfold tickPeriod at *; omega)
          (by simp only [List.length_cons] at hlen; omega)
        exact ⟨k + 1, by simp only [idleWaitLoop, hr, hk, Bool.false_eq_true, if_false,
          Option.map_some'], by omega⟩

/-- The loop returns only from a tick it took. -/
theorem idleWaitLoop_ne_zero (deadline : Int) : ∀ ticks, idleWaitLoop deadline ticks ≠ some 0
  | [] => nofun
  | t :: ts => by
      unfold idleWaitLoop
      split
      · simp only [ne_eq, Option.some.injEq, Nat.one_ne_zero, not_false_eq_true]
      · cases idleWaitLoop deadline ts <;> simp only [Option.map_none', Option.map_some', ne_eq,
          reduceCtorEq, Option.some.injEq, Nat.add_one_ne_zero, not_false_eq_true]

/-- **The idle wait is bounded.** Whatever the idle state holds (a missing file, a negative or a
huge stored backoff) and however late the ticks come, `runDeaconIdleWait` returns within
`⌊max / 5s⌋ + 1` ticks of its ticker: with the default `--max=5m`, within 61 ticks. It returns
before any tick exactly when the idle state is missing or not idle. -/
theorem idle_wait_returns_within (state : Option IdleState) (idleWaitMax : GoInt) (start : Int)
    (ticks : List Tick) (hticks : notEarly start ticks = true)
    (hlen : idleWaitMax.val.toNat / 5000000000 + 1 ≤ ticks.length) :
    ∃ k, runDeaconIdleWait state idleWaitMax start ticks = some k ∧
      k ≤ idleWaitMax.val.toNat / 5000000000 + 1 ∧
      (k = 0 ↔ ∀ st, state = some st → st.idle = false) := by
  unfold runDeaconIdleWait
  cases hd : idleWaitDeadline state idleWaitMax start with
  | none =>
      refine ⟨0, rfl, Nat.zero_le _, iff_of_true rfl fun st hst => ?_⟩
      subst hst
      simpa only [idleWaitDeadline, ite_eq_right_iff, reduceCtorEq, imp_false, Bool.not_eq_true]
        using hd
  | some deadline =>
      have := idleWaitDeadline_le hd
      obtain ⟨k, hk, hkn⟩ := idleWaitLoop_within deadline hticks (by omega)
        (by unfold tickPeriod; omega) hlen
      refine ⟨k, hk, hkn, iff_of_false (fun h0 => idleWaitLoop_ne_zero deadline ticks (h0 ▸ hk))
        fun hidle => ?_⟩
      rcases state with _ | st
      · cases hd
      · simp only [idleWaitDeadline, hidle st rfl, Bool.false_eq_true, if_false, reduceCtorEq] at hd

theorem idle_wait_returns_within_ten_seconds :
    notEarly 0 [⟨false, 5000000000⟩, ⟨false, 10000000000⟩, ⟨false, 15000000000⟩] = true ∧
      (10 * second).val.toNat / 5000000000 + 1 ≤ 3 ∧
      ∃ k, runDeaconIdleWait (some ⟨true, true, 2 * minute⟩) (10 * second) 0
          [⟨false, 5000000000⟩, ⟨false, 10000000000⟩, ⟨false, 15000000000⟩] = some k ∧
        k ≤ (10 * second).val.toNat / 5000000000 + 1 ∧
        (k = 0 ↔ ∀ st, some (⟨true, true, 2 * minute⟩ : IdleState) = some st → st.idle = false) :=
  ⟨by decide, by decide, idle_wait_returns_within _ _ _ _ (by decide) (by decide)⟩

/- The wake file with its consumers (`WakeSys`), sling's `ensureDoltForSling`, and one deacon: the
steps of the handshake are those of `wakeStep`, the deacon's tick is the loop body
`tickReturns` on the file as it stands. -/

/-- The wake file and its consumers, and the deacon: whether it is in its ticker loop, and the
deadline it set. -/
structure IdleSys where
  file : WakeSys := {}
  waiting : Bool := false
  deadline : Int := 0
  deriving DecidableEq, Repr

/-- A step: one of the handshake (`SignalWake`, a consumer's stat or remove), sling's
`ensureDoltForSling` (whose `SignalWake` write may fail, which it ignores), the deacon starting
`runDeaconIdleWait` at a clock reading, or a tick of its ticker at a clock reading. -/
inductive IdleStep
  | wake (a : WakeStep)
  | sling (state : Option IdleState) (running : Except GoString Bool) (written : Bool)
  | wait (state : Option IdleState) (idleWaitMax : GoInt) (now : Int)
  | tick (now : Int)

/-- The steps that remove the wake file: a consumer's remove. -/
def IdleStep.removes : IdleStep → Bool
  | .wake (.remove _) => true
  | _ => false

/-- One step of the idle system; `none` when it is not enabled (a tick outside the loop, a second
wait while one runs, a step of the handshake that `wakeStep` refuses). -/
def idleStep (s : IdleSys) : IdleStep → Option IdleSys
  | .wake a => (wakeStep s.file a).map fun file => { s with file }
  | .sling state running written =>
      if ensureDoltForSling state running && written then
        (wakeStep s.file .signal).map fun file => { s with file }
      else some s
  | .wait state idleWaitMax now =>
      if s.waiting then none
      else
        match idleWaitDeadline state idleWaitMax now with
        | some deadline => some { s with waiting := true, deadline }
        | none => some s
  | .tick now =>
      if s.waiting then some { s with waiting := !tickReturns s.deadline ⟨s.file.present, now⟩ }
      else none

def runIdle : IdleSys → List IdleStep → Option IdleSys
  | s, [] => some s
  | s, a :: rest => (idleStep s a).bind fun s' => runIdle s' rest

theorem runIdle_append {s s' : IdleSys} {xs ys : List IdleStep}
    (h : runIdle s (xs ++ ys) = some s') : ∃ m, runIdle s xs = some m ∧ runIdle m ys = some s' := by
  induction xs generalizing s with
  | nil => exact ⟨s, rfl, h⟩
  | cons a rest ih =>
      simp only [List.cons_append, runIdle, Option.bind_eq_some] at h ⊢
      obtain ⟨s₁, h₁, h₂⟩ := h
      obtain ⟨m, hm, hm'⟩ := ih h₂
      exact ⟨m, ⟨s₁, h₁, hm⟩, hm'⟩

/-- Only a consumer's remove takes the wake file away: every other step keeps it. -/
theorem idleStep_present {s s' : IdleSys} {a : IdleStep} (hp : s.file.present = true)
    (ha : a.removes = false) (h : idleStep s a = some s') : s'.file.present = true := by
  cases a with
  | wake w =>
      cases w with
      | signal => cases h; rfl
      | stat c =>
          simp only [idleStep, wakeStep, Option.map_eq_some'] at h
          obtain ⟨f, hf, rfl⟩ := h
          split_ifs at hf <;> cases hf <;> exact hp
      | remove c => cases ha
  | sling state running written =>
      simp only [idleStep] at h
      split_ifs at h <;> cases h
      · rfl
      · exact hp
  | wait state idleWaitMax now =>
      simp only [idleStep] at h
      split_ifs at h
      split at h <;> cases h <;> exact hp
  | tick now =>
      simp only [idleStep] at h
      split_ifs at h
      cases h
      exact hp

theorem runIdle_present {s s' : IdleSys} {steps : List IdleStep} (hp : s.file.present = true)
    (hs : ∀ a ∈ steps, a.removes = false) (h : runIdle s steps = some s') :
    s'.file.present = true := by
  induction steps generalizing s with
  | nil => cases h; exact hp
  | cons a rest ih =>
      simp only [runIdle, Option.bind_eq_some] at h
      obtain ⟨s₁, h₁, h₂⟩ := h
      exact ih (idleStep_present hp (hs a (.head _)) h₁) (fun b hb => hs b (.tail _ hb)) h₂

/-- **Sling's wake reaches the waiting deacon.** In every interleaving, once sling finds Dolt
idle-stopped and not running and writes the wake file, the next tick the deacon takes ends its
wait, and the wake file is still there for the daemon's `ConsumeWakeSignal`, unless a consumer
removes the file in between: the deacon's `os.Stat` does not consume the signal. -/
theorem sling_wake_ends_idle_wait {s s' : IdleSys} {pre mid : List IdleStep}
    {state : Option IdleState} {running : Except GoString Bool} {now : Int}
    (hstopped : isDoltIdleStopped state = true) (hrunning : running ≠ .ok true)
    (hmid : ∀ a ∈ mid, a.removes = false)
    (h : runIdle s (pre ++ (.sling state running true :: (mid ++ [.tick now]))) = some s') :
    s'.waiting = false ∧ s'.file.present = true := by
  obtain ⟨s₁, -, h⟩ := runIdle_append h
  simp only [List.cons_append, runIdle, Option.bind_eq_some] at h
  obtain ⟨s₂, h₂, h⟩ := h
  have hsignal : ensureDoltForSling state running = true := by
    unfold ensureDoltForSling
    rw [hstopped]
    rcases running with _ | _ | _
    · rfl
    · rfl
    · exact absurd rfl hrunning
  simp only [idleStep, hsignal, Bool.and_self, if_true, wakeStep, Option.map_some',
    Option.some.injEq] at h₂
  obtain ⟨s₃, h₃, htick⟩ := runIdle_append h
  have hp := runIdle_present (h₂ ▸ rfl) hmid h₃
  simp only [runIdle, Option.bind_eq_some, idleStep] at htick
  obtain ⟨s₄, h₄, hs'⟩ := htick
  split_ifs at h₄
  cases h₄
  cases hs'
  simp only [tickReturns, hp, Bool.true_or, Bool.not_true, and_self]

theorem sling_wake_ends_idle_wait_after_stat :
    isDoltIdleStopped (some ⟨true, true, 2 * minute⟩) = true ∧
      (Except.ok false : Except GoString Bool) ≠ .ok true ∧
      (∀ a ∈ [IdleStep.wake (.stat 1)], a.removes = false) ∧
      runIdle {} ([.wait (some ⟨true, true, 2 * minute⟩) (5 * minute) 0] ++
          (.sling (some ⟨true, true, 2 * minute⟩) (.ok false) true ::
            ([.wake (.stat 1)] ++ [.tick 5000000000]))) =
        some ⟨⟨true, [1], 1, 0, 0, 0⟩, false, 120000000000⟩ ∧
      IdleSys.waiting ⟨⟨true, [1], 1, 0, 0, 0⟩, false, 120000000000⟩ = false ∧
        (IdleSys.file ⟨⟨true, [1], 1, 0, 0, 0⟩, false, 120000000000⟩).present = true :=
  have h : runIdle {} ([.wait (some ⟨true, true, 2 * minute⟩) (5 * minute) 0] ++
      (.sling (some ⟨true, true, 2 * minute⟩) (.ok false) true ::
        ([.wake (.stat 1)] ++ [.tick 5000000000]))) =
      some ⟨⟨true, [1], 1, 0, 0, 0⟩, false, 120000000000⟩ := by decide
  ⟨rfl, (fun h => by cases h), by decide, h,
    sling_wake_ends_idle_wait (by rfl) (fun h => by cases h) (by decide) h⟩

end Idle

end GastownQueue
