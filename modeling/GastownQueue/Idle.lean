import GastownQueue.GoInt
import Mathlib.Logic.Function.Iterate

/-! The idle/wake handshake of the daemon (package `daemon`): the wake file `daemon/idle-wake`
that `SignalWake` writes and `ConsumeWakeSignal` removes, and the backoff of the deacon's patrol.
The file is a present/absent bit with an atomic stat, write and remove; a consumer is two steps,
a stat and, when the file was there, a remove. Consumers that run one at a time return `true` at
most once per signal; a consumer whose stat falls between another's stat and remove can take the
same signal again. -/

namespace GastownQueue

namespace Idle

/-- One atomic step on the wake file. -/
inductive WakeStep
  | signal
  | stat (consumer : Nat)
  | remove (consumer : Nat)
  deriving DecidableEq, Repr

/-- The wake file, the consumers between their stat and their remove, and the tallies of the
run: signals written, consumer calls returned `true` and `false`, and stats that saw the file
while another consumer was between its stat and its remove. -/
structure WakeSys where
  present : Bool := false
  removing : List Nat := []
  signals : Nat := 0
  consumedTrue : Nat := 0
  consumedFalse : Nat := 0
  overlaps : Nat := 0
  deriving DecidableEq, Repr

/-- The steps of `SignalWake` and `ConsumeWakeSignal`; `none` for a step the consumer cannot
take (a second stat before its remove, a remove without a stat). -/
def wakeStep (s : WakeSys) : WakeStep → Option WakeSys
  | .signal => some { s with present := true, signals := s.signals + 1 }
  | .stat c =>
      if c ∈ s.removing then none
      else if s.present then
        some { s with removing := c :: s.removing,
                      overlaps := if s.removing = [] then s.overlaps else s.overlaps + 1 }
      else some { s with consumedFalse := s.consumedFalse + 1 }
  | .remove c =>
      if c ∈ s.removing then
        some { s with present := false, removing := s.removing.erase c,
                      consumedTrue := s.consumedTrue + 1 }
      else none

def runWake : WakeSys → List WakeStep → Option WakeSys
  | s, [] => some s
  | s, a :: rest => (wakeStep s a).bind fun s' => runWake s' rest

/-- The count the handshake keeps: what has been consumed, plus the signal still waiting, is
covered by the signals and the overlapping stats. -/
def WakeInv (s : WakeSys) : Prop :=
  s.consumedTrue + max s.removing.length (if s.present then 1 else 0) ≤ s.signals + s.overlaps

theorem wakeInv_step {s s' : WakeSys} {a : WakeStep} (hi : WakeInv s)
    (h : wakeStep s a = some s') : WakeInv s' := by
  unfold WakeInv at *
  cases a with
  | signal =>
      cases h
      split_ifs at hi <;> simp <;> omega
  | stat c =>
      simp only [wakeStep] at h
      split_ifs at h with hc hp hr <;> cases h
      · simp only [hp, hr, List.length_nil, if_true, List.length_cons] at hi ⊢; omega
      · have : 0 < s.removing.length := List.length_pos.mpr hr
        simp only [hp, if_true, List.length_cons] at hi ⊢; omega
      · simp only [hp] at hi ⊢; omega
  | remove c =>
      simp only [wakeStep] at h
      split_ifs at h with hc
      cases h
      have hlen := List.length_erase_of_mem hc
      have : 0 < s.removing.length := List.length_pos_of_mem hc
      simp only [hlen, Bool.false_eq_true, if_false] at hi ⊢
      split_ifs at hi <;> omega

theorem wakeInv_run {s s' : WakeSys} {steps : List WakeStep} (hi : WakeInv s)
    (h : runWake s steps = some s') : WakeInv s' := by
  induction steps generalizing s with
  | nil => cases h; exact hi
  | cons a rest ih =>
      simp only [runWake, Option.bind_eq_some] at h
      obtain ⟨s₁, h₁, h₂⟩ := h
      exact ih (wakeInv_step hi h₁) h₂

/-- Two consumers both stat the file before either removes it: one signal, two `true`s. -/
theorem wake_consumed_twice :
    runWake {} [.signal, .stat 1, .stat 2, .remove 1, .remove 2] =
      some { present := false, removing := [], signals := 1, consumedTrue := 2,
             consumedFalse := 0, overlaps := 1 } := by
  decide

/-- **Wake signal consumed at most once per signal, up to overlaps.** In every interleaving from
an absent file, the consumer calls that return `true` are at most the signals written plus the
stats that saw the file while another consumer was between its stat and its remove. -/
theorem consumed_le_signals_add_overlaps (steps : List WakeStep) (s : WakeSys)
    (h : runWake {} steps = some s) : s.consumedTrue ≤ s.signals + s.overlaps := by
  have := wakeInv_run (by simp [WakeInv]) h
  unfold WakeInv at this
  omega

theorem consumed_le_signals_add_overlaps_serial :
    runWake {} [.signal, .stat 1, .remove 1, .stat 2] =
        some { present := false, removing := [], signals := 1, consumedTrue := 1,
               consumedFalse := 1, overlaps := 0 } ∧
      1 ≤ 1 + 0 :=
  ⟨by decide, consumed_le_signals_add_overlaps [.signal, .stat 1, .remove 1, .stat 2]
    ⟨false, [], 1, 1, 1, 0⟩ (by decide)⟩

/-- `nextBackoffInterval`: the deacon's patrol interval doubles from 30 seconds up to 5
minutes. -/
def nextBackoffInterval (current : GoInt) : GoInt :=
  let minBackoff : GoInt := 30 * second
  let maxBackoff : GoInt := 5 * minute
  if current < minBackoff then minBackoff
  else
    let next := current * 2
    if next > maxBackoff then maxBackoff else next

/-- Below `2 ^ 62` nanoseconds the doubling does not wrap: the next interval is 30 seconds, or
the double capped at 5 minutes. -/
theorem nextBackoffInterval_val {c : GoInt} (hc : c.val < 2 ^ 62) :
    (nextBackoffInterval c).val =
      if c.val < 30000000000 then 30000000000 else min (2 * c.val) 300000000000 := by
  have h30 : (30 * second : GoInt).val = 30000000000 := by decide
  have h5 : (5 * minute : GoInt).val = 300000000000 := by decide
  have h2 : (2 : GoInt).val = 2 := GoInt.ofNat_val 2 (by omega)
  have hmul : 30000000000 ≤ c.val → (c * 2).val = 2 * c.val := fun h =>
    (GoInt.wrap_val_of_mem (by rw [h2]; omega) (by rw [h2]; omega)).trans (by rw [h2]; omega)
  unfold nextBackoffInterval
  simp only [GoInt.lt_def, h30]
  split_ifs <;> first | exact h30 | rw [h5]; omega | omega

/-- Whatever the stored interval, the next one is at most 5 minutes. -/
theorem nextBackoffInterval_le (c : GoInt) : (nextBackoffInterval c).val ≤ 300000000000 := by
  have h30 : (30 * second : GoInt).val = 30000000000 := by decide
  have h5 : (5 * minute : GoInt).val = 300000000000 := by decide
  unfold nextBackoffInterval
  simp only [GT.gt, GoInt.lt_def, h30, h5]
  split_ifs <;> omega

/-- From at most 5 minutes the next interval is between 30 seconds and 5 minutes, at least the
capped double once past 30 seconds, and never shorter. -/
theorem nextBackoffInterval_of_le {c : GoInt} (hc : c.val ≤ 300000000000) :
    30000000000 ≤ (nextBackoffInterval c).val ∧ (nextBackoffInterval c).val ≤ 300000000000 ∧
      (30000000000 ≤ c.val → min (2 * c.val) 300000000000 ≤ (nextBackoffInterval c).val) ∧
      c.val ≤ (nextBackoffInterval c).val := by
  rw [nextBackoffInterval_val (by omega)]; split_ifs <;> omega

/-- Six steps from any stored interval reach the cap. -/
theorem nextBackoffInterval_iterate_six (c : GoInt) :
    (nextBackoffInterval^[6] c).val = 300000000000 := by
  have b2 := nextBackoffInterval_of_le (nextBackoffInterval_le c)
  have b3 := nextBackoffInterval_of_le b2.2.1
  have b4 := nextBackoffInterval_of_le b3.2.1
  have b5 := nextBackoffInterval_of_le b4.2.1
  have b6 := nextBackoffInterval_of_le b5.2.1
  simp only [Function.iterate_succ_apply', Function.iterate_zero_apply]
  omega

/-- **Backoff bounds.** Below `2 ^ 62` nanoseconds the next interval lies between 30 seconds and
5 minutes and grows with the stored one. From any stored interval, the iterates after the first
never decrease, and from the sixth on they are 5 minutes. -/
theorem backoff_bounded_below_wrap :
    (∀ c : GoInt, c.val < 2 ^ 62 →
      30 * second ≤ nextBackoffInterval c ∧ nextBackoffInterval c ≤ 5 * minute) ∧
    (∀ c₁ c₂ : GoInt, c₁ ≤ c₂ → c₂.val < 2 ^ 62 →
      nextBackoffInterval c₁ ≤ nextBackoffInterval c₂) ∧
    (∀ (c : GoInt) (k : Nat), 1 ≤ k →
      nextBackoffInterval^[k] c ≤ nextBackoffInterval^[k + 1] c) ∧
    (∀ (c : GoInt) (k : Nat), 6 ≤ k → nextBackoffInterval^[k] c = 5 * minute) := by
  have h30 : (30 * second : GoInt).val = 30000000000 := by decide
  have h5 : (5 * minute : GoInt).val = 300000000000 := by decide
  refine ⟨fun c hc => ?_, fun c₁ c₂ h hc => ?_, fun c k hk => ?_, fun c k hk => ?_⟩
  · simp only [GoInt.le_def, h30, h5, nextBackoffInterval_val hc]; split_ifs <;> omega
  · simp only [GoInt.le_def] at h ⊢
    rw [nextBackoffInterval_val hc, nextBackoffInterval_val (by omega)]; split_ifs <;> omega
  · obtain ⟨k, rfl⟩ := Nat.exists_eq_add_of_le' hk
    rw [GoInt.le_def, Function.iterate_succ_apply' _ (k + 1)]
    exact (nextBackoffInterval_of_le (by
      rw [Function.iterate_succ_apply']; exact nextBackoffInterval_le _)).2.2.2
  · obtain ⟨k, rfl⟩ := Nat.exists_eq_add_of_le' hk
    rw [Nat.add_comm, Function.iterate_add_apply]
    exact GoInt.ext ((nextBackoffInterval_iterate_six _).trans h5.symm)

theorem backoff_bounded_below_wrap_from_ten_minutes :
    (30 * second ≤ nextBackoffInterval (10 * minute) ∧
      nextBackoffInterval (10 * minute) ≤ 5 * minute) ∧
    nextBackoffInterval^[6] (10 * minute) = 5 * minute :=
  ⟨backoff_bounded_below_wrap.1 _ (by decide), backoff_bounded_below_wrap.2.2.2 _ 6 (by decide)⟩

/-- A stored interval of `2 ^ 62` nanoseconds, about 146 years, which a corrupted idle-state
file can hold, doubles into the sign bit: the next interval is the most negative duration, below
30 seconds and below the interval after `0`. A stored 10 minutes comes back as 5. -/
theorem backoff_wraps_negative :
    (nextBackoffInterval ⟨2 ^ 62, by omega, by omega⟩).val = -2 ^ 63 ∧
      nextBackoffInterval ⟨2 ^ 62, by omega, by omega⟩ < 30 * second ∧
      nextBackoffInterval ⟨2 ^ 62, by omega, by omega⟩ < nextBackoffInterval 0 ∧
      nextBackoffInterval (10 * minute) < 10 * minute := by
  decide

end Idle

end GastownQueue
