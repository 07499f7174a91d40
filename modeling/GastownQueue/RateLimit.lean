import GastownQueue.GoInt

/-! The wake policy of the rate-limit state (package `ratelimit` in `usagelimit_cmd.go`). After
a limit is recorded the daemon asks `ShouldWake` on every heartbeat and calls
`RecordWakeAttempt` when it says yes. Over any run of heartbeats the agents are woken at most
`MaxWakeAttempts` times in all, never before the reset time plus `WakeBuffer`, and never twice
within `WakeAttemptCooldown`.

A `time.Time` is an `Int` of nanoseconds from Go's zero time, January 1 of year 1 UTC, so that
`IsZero` is `= 0`; the readings of one process are taken on one clock. -/

namespace GastownQueue

namespace GoInt

/-- The `int64` nearest to an integer: what `Time.Sub` answers when the difference overflows. -/
def saturate (x : Int) : GoInt :=
  if h1 : x < -2 ^ 63 then minInt
  else if h2 : 2 ^ 63 ≤ x then maxInt
  else ⟨x, by omega, by omega⟩

/-- A saturated difference reaches a positive bound only if the difference does. -/
theorem le_of_le_saturate {x : Int} {c : GoInt} (hc : 0 < c.val) (h : c ≤ saturate x) :
    c.val ≤ x := by
  have := c.lt_max
  unfold saturate at h
  split_ifs at h with h1 h2 <;> simp only [le_def, minInt, maxInt] at h <;> omega

end GoInt

/-- `time.Since(t)` at the clock reading `now`: `now.Sub(t)`. -/
def since (now t : Int) : GoInt :=
  GoInt.saturate (now - t)

namespace Ratelimit

def wakeBuffer : GoInt := 2 * minute

def maxWakeAttempts : GoInt := 3

def wakeAttemptCooldown : GoInt := 5 * minute

theorem wakeBuffer_val : wakeBuffer.val = 120000000000 := by decide

theorem maxWakeAttempts_val : maxWakeAttempts.val = 3 := by decide

theorem wakeAttemptCooldown_val : wakeAttemptCooldown.val = 300000000000 := by decide

structure State where
  active : Bool := false
  resetAt : Int := 0
  recordedAt : Int := 0
  recordedBy : GoString := []
  reason : GoString := []
  retryAfterSeconds : GoInt := 0
  wakeAttempts : GoInt := 0
  lastWakeAttempt : Int := 0
  deriving DecidableEq, Repr

namespace State

/-- `ShouldWake`, asked at the clock reading `now`. -/
def shouldWake (s : State) (now : Int) : Bool :=
  if !s.active then false
  else if now < s.resetAt + wakeBuffer.val then false
  else if maxWakeAttempts ≤ s.wakeAttempts then false
  else if s.lastWakeAttempt ≠ 0 ∧ since now s.lastWakeAttempt < wakeAttemptCooldown then false
  else true

/-- `RecordWakeAttempt`, at the clock reading `now`. -/
def recordWakeAttempt (s : State) (now : Int) : State :=
  { s with wakeAttempts := s.wakeAttempts + 1, lastWakeAttempt := now }

@[simp] theorem recordWakeAttempt_resetAt (s : State) (now : Int) :
    (s.recordWakeAttempt now).resetAt = s.resetAt := rfl

@[simp] theorem recordWakeAttempt_wakeAttempts (s : State) (now : Int) :
    (s.recordWakeAttempt now).wakeAttempts = s.wakeAttempts + 1 := rfl

@[simp] theorem recordWakeAttempt_lastWakeAttempt (s : State) (now : Int) :
    (s.recordWakeAttempt now).lastWakeAttempt = now := rfl

end State

/-- One heartbeat of the daemon at the reading `now`: `ShouldWake`, and `RecordWakeAttempt` when
it says yes. -/
def heartbeat (s : State) (now : Int) : State × Bool :=
  if s.shouldWake now then (s.recordWakeAttempt now, true) else (s, false)

/-- A run of heartbeats: the final state, and the readings at which the agents were woken. -/
def heartbeats : State → List Int → State × List Int
  | s, [] => (s, [])
  | s, now :: rest =>
      let (s', woke) := heartbeat s now
      let (final, wakes) := heartbeats s' rest
      (final, if woke then now :: wakes else wakes)

/-- The guards a `true` answer of `ShouldWake` has passed. -/
theorem shouldWake_spec {s : State} {now : Int} (h : s.shouldWake now = true) :
    s.resetAt + wakeBuffer.val ≤ now ∧ s.wakeAttempts.val < 3 ∧
      (s.lastWakeAttempt ≠ 0 → s.lastWakeAttempt + wakeAttemptCooldown.val ≤ now) := by
  unfold State.shouldWake at h
  split_ifs at h with h1 h2 h3 h4
  simp only [GoInt.le_def, GoInt.lt_def, maxWakeAttempts_val, Int.not_le, Int.not_lt, not_and] at h2 h3 h4
  refine ⟨h2, h3, fun hl => ?_⟩
  have h5 : wakeAttemptCooldown ≤ since now s.lastWakeAttempt := h4 hl
  have := GoInt.le_of_le_saturate (by decide) h5
  omega

theorem heartbeat_cases (s : State) (now : Int) :
    heartbeat s now = (s, false) ∨
      (heartbeat s now = (s.recordWakeAttempt now, true) ∧ s.shouldWake now = true) := by
  unfold heartbeat
  split_ifs with h
  · exact .inr ⟨rfl, h⟩
  · exact .inl rfl

/-- **Bounded wake policy.** Over heartbeats at readings after the zero time, in any order, the
agents are woken at most `MaxWakeAttempts - w` times, never before `ResetAt + WakeBuffer`, each
wake at least `WakeAttemptCooldown` after every earlier one and after a recorded last
attempt. -/
theorem heartbeats_wake_policy (s : State) (readings : List Int)
    (hpos : ∀ t ∈ readings, 0 < t) :
    let wakes := (heartbeats s readings).2
    wakes.length ≤ (maxWakeAttempts.val - s.wakeAttempts.val).toNat ∧
      (∀ t ∈ wakes, s.resetAt + wakeBuffer.val ≤ t) ∧
      wakes.Pairwise (fun a b => a + wakeAttemptCooldown.val ≤ b) ∧
      (s.lastWakeAttempt ≠ 0 → ∀ t ∈ wakes, s.lastWakeAttempt + wakeAttemptCooldown.val ≤ t) := by
  induction readings generalizing s with
  | nil => simp [heartbeats]
  | cons now rest ih =>
      have hrest : ∀ t ∈ rest, 0 < t := fun t ht => hpos t (List.mem_cons_of_mem _ ht)
      rcases heartbeat_cases s now with h | ⟨h, hw⟩
      · simp only [heartbeats, h, Bool.false_eq_true, if_false]
        exact ih s hrest
      · obtain ⟨hreset, hcount, hcool⟩ := shouldWake_spec hw
        obtain ⟨ih1, ih2, ih3, ih4⟩ := ih (s.recordWakeAttempt now) hrest
        have hsucc : (s.wakeAttempts + 1).val = s.wakeAttempts.val + 1 :=
          GoInt.succ_val (by omega)
        have hc : 0 ≤ wakeAttemptCooldown.val := by decide
        have hnow : now ≠ 0 := (Int.ne_of_lt (hpos now (List.mem_cons_self _ _))).symm
        simp only [heartbeats, h, if_true]
        simp only [State.recordWakeAttempt_resetAt, State.recordWakeAttempt_wakeAttempts,
          State.recordWakeAttempt_lastWakeAttempt, hsucc, maxWakeAttempts_val] at ih1 ih2 ih4 ⊢
        refine ⟨?_, List.forall_mem_cons.mpr ⟨hreset, ih2⟩,
          List.pairwise_cons.mpr ⟨ih4 hnow, ih3⟩, fun hl => List.forall_mem_cons.mpr
            ⟨hcool hl, fun t ht => by have := ih4 hnow t ht; have := hcool hl; omega⟩⟩
        simp only [List.length_cons]
        omega

/-- A limit that resets an hour after the zero time, and heartbeats a minute, five minutes and
twenty minutes after that. -/
def sampleLimit : State :=
  { active := true, resetAt := 3600000000000 }

theorem heartbeats_wake_policy_sample :
    (∀ t ∈ [3660000000000, 3900000000000, 4800000000000], 0 < t) ∧
      (heartbeats sampleLimit [3660000000000, 3900000000000, 4800000000000]).2.length ≤ 3 :=
  ⟨by decide, (heartbeats_wake_policy sampleLimit _ (by decide)).1⟩

end Ratelimit

end GastownQueue
