import GastownQueue.Regexp
import GastownQueue.GoTime

/-! `ParseRateLimitOutput` of package `ratelimit`: whether an agent's output shows a rate limit,
and the `State` it then records, with the reset time `extractResetTime` reads from the output (a
timestamp, an amount of time from now, or a time of day) or an hour from now. The clock is read
once, at `now`, in the machine's zone `loc`. -/

namespace GastownQueue

namespace Ratelimit

open Strings Regexp

/-- `minutes?` and its likes, under `(?i)`. -/
def plural (w : String) : Matcher := seq (litI w) (opt 0 (litI "s"))

/-- `[A-Z]` under `(?i)`: the letters of either case, KELVIN SIGN and LATIN SMALL LETTER LONG S. -/
def letter (c : Char) : Bool := c.isAlpha || c = '\u212A' || c = '\u017F'

/-- `\d{4}-\d{2}-\d{2}T\d{2}:\d{2}:\d{2}`, its literals matched by `l`. -/
def dateTime (l : String → Matcher) : Matcher :=
  seqs [count digit 4, l "-", count digit 2, l "-", count digit 2, l "T", count digit 2, l ":",
    count digit 2, l ":", count digit 2]

def rateLimitPatterns : List Matcher := [
  -- (?i)(?:usage|rate)\s*limit\s*(?:reached|exceeded|hit)
  seqs [litsI ["usage", "rate"], star space, litI "limit", star space,
    litsI ["reached", "exceeded", "hit"]],
  -- (?i)try\s*again\s*(?:in|after)\s*(\d+)\s*(minutes?|hours?|seconds?)
  seqs [litI "try", star space, litI "again", star space, litsI ["in", "after"], star space,
    group (plus digit), star space,
    group (alt (plural "minute") (alt (plural "hour") (plural "second")))],
  -- (?i)(?:reset[s]?|available)\s*(?:at|after)\s*(\d{4}-\d{2}-\d{2}T\d{2}:\d{2}:\d{2})
  seqs [alt (seq (litI "reset") (opt 0 (char (foldEq · 's')))) (litI "available"), star space,
    litsI ["at", "after"], star space, group (dateTime litI)],
  -- (?i)(\d+)\s*(minutes?|hours?)\s*(?:remaining|until\s*reset)
  seqs [group (plus digit), star space, group (alt (plural "minute") (plural "hour")), star space,
    alt (litI "remaining") (seqs [litI "until", star space, litI "reset"])],
  -- (?i)claude\s*(?:pro|max)?\s*limit
  seqs [litI "claude", star space, opt 0 (litsI ["pro", "max"]), star space, litI "limit"],
  -- (?i)anthropic.*rate.*limit
  seqs [litI "anthropic", star anyChar, litI "rate", star anyChar, litI "limit"],
  -- (?i)error.*429
  seqs [litI "error", star anyChar, litI "429"]]

/-- `tsPattern`: `(\d{4}-\d{2}-\d{2}T\d{2}:\d{2}:\d{2}(?:Z|[+-]\d{2}:\d{2})?)`. -/
def tsPattern : Matcher :=
  group (seq (dateTime lit) (opt 0 (alt (lit "Z")
    (seqs [char fun c => c = '+' || c = '-', count digit 2, lit ":", count digit 2]))))

/-- `durPattern`: `(?i)(?:in|after)\s*(\d+)\s*(minutes?|hours?|seconds?)`. -/
def durPattern : Matcher :=
  seqs [litsI ["in", "after"], star space, group (plus digit), star space,
    group (alt (plural "minute") (alt (plural "hour") (plural "second")))]

/-- `remPattern`: `(?i)(\d+)\s*(minutes?|hours?)\s*(?:remaining|left|until)`. -/
def remPattern : Matcher :=
  seqs [group (plus digit), star space, group (alt (plural "minute") (plural "hour")), star space,
    litsI ["remaining", "left", "until"]]

/-- `timePattern`: `(?i)(?:at|after)\s*(\d{1,2}):(\d{2})\s*([AaPp][Mm])?(?:\s*([A-Z]{2,4}))?`,
where `x{1,2}` is `xx?` and `x{2,4}` is `xx(x(x)?)?`. -/
def timePattern : Matcher :=
  seqs [litsI ["at", "after"], star space, group (seq (char digit) (opt 0 (char digit))),
    litI ":", group (count digit 2), star space,
    opt 1 (group (seq (char fun c => foldEq c 'a' || foldEq c 'p') (char (foldEq · 'm')))),
    opt 1 (seq (star space)
      (group (seq (count letter 2) (opt 0 (seq (char letter) (opt 0 (char letter)))))))]

/-- The loop of `parseAmount` from the amount `n` read so far: a digit adds itself to ten times
`n`, with the wrap of `int`, and any other rune ends it. -/
def parseAmountFrom (n : GoInt) : GoString → GoInt
  | [] => n
  | c :: t =>
      if c.isDigit then parseAmountFrom (n * 10 + GoInt.wrap (c.toNat - '0'.toNat)) t else n

/-- `parseAmount`: the amount of the leading digits. It never reports an error. -/
def parseAmount (s : GoString) : GoInt :=
  parseAmountFrom 0 s

/-- The timestamp branch: `time.Parse` with `time.RFC3339`, then without a zone. -/
def timestampReset (output : GoString) : Option Int :=
  match findSubmatch tsPattern output with
  | some (_ :: v :: _) => GoTime.parseRFC3339 v <|> GoTime.parseLayout v
  | _ => none

/-- The `switch` of an amount branch, over its cases in order: the first unit prefix the lowered
unit has gives `time.Duration(amount)` times its duration; with none the duration stays `0`. -/
def switchUnit (cases : List (String × GoInt)) (amount : GoInt) (unit : GoString) : GoInt :=
  match cases.find? fun c => hasPrefix unit c.1.toList with
  | some (_, d) => amount * d
  | none => 0

/-- The branch `durPattern` and `remPattern` share: the amount of its unit from now, if that
duration is positive. -/
def amountReset (pattern : Matcher) (cases : List (String × GoInt)) (now : Int)
    (output : GoString) : Option Int :=
  match findSubmatch pattern output with
  | some (_ :: amountText :: unitText :: _) =>
      let duration := switchUnit cases (parseAmount amountText) (toLower unitText)
      if 0 < duration then some (now + duration.val) else none
  | _ => none

def durReset (now : Int) (output : GoString) : Option Int :=
  amountReset durPattern [("second", second), ("minute", minute), ("hour", hour)] now output

def remReset (now : Int) (output : GoString) : Option Int :=
  amountReset remPattern [("minute", minute), ("hour", hour)] now output

/-- The hour of a 12-hour clock: `PM` adds twelve below noon, `AM` makes noon midnight. -/
def hourOfDay (hh : GoInt) (ampm : GoString) : GoInt :=
  if ampm ≠ [] then
    let isPM := toUpper ampm == "PM".toList
    if isPM ∧ hh < 12 then hh + 12 else if !isPM ∧ hh = 12 then 0 else hh
  else hh

/-- The time-of-day branch: that time today, or a day later if it has passed. -/
def timeOfDayReset (loc : GoTime.Location) (now : Int) (output : GoString) : Option Int :=
  match findSubmatch timePattern output with
  | some (_ :: hText :: mText :: rest) =>
      let hh := hourOfDay (parseAmount hText) (rest.headD [])
      some (GoTime.nextAt loc now hh.val (parseAmount mText).val)
  | _ => none

/-- `extractResetTime`: the first branch that gives a time, or the zero time. -/
def extractResetTime (loc : GoTime.Location) (now : Int) (output : GoString) : Int :=
  (timestampReset output <|> durReset now output <|> remReset now output <|>
    timeOfDayReset loc now output).getD 0

/-- `ParseRateLimitOutput`: `none` stands for `nil`. The reason is the text the first matching
pattern matched, and a reset at the zero time is an hour from now. -/
def parseRateLimitOutput (loc : GoTime.Location) (now : Int) (output : GoString) :
    Option State :=
  match rateLimitPatterns.find? (matchString · output) with
  | none => none
  | some pattern =>
      let reason := match findSubmatch pattern output with
        | some (whole :: _) => whole
        | _ => []
      let resetAt := extractResetTime loc now output
      let resetAt := if resetAt = 0 then now + (1 * hour).val else resetAt
      some { active := true, resetAt, recordedAt := now, reason }

/-- One digit of the loop, while ten times the amount and the digit fit in an `int`. -/
theorem digitStep_val {n : GoInt} {c : Char} (hc : c.isDigit = true) (h0 : 0 ≤ n.val)
    (h1 : n.val * 10 + 10 ≤ 2 ^ 63) :
    (n * 10 + GoInt.wrap ((c.toNat : Int) - '0'.toNat)).val =
      n.val * 10 + ((c.toNat : Int) - 48) := by
  have hd := (isDigit_iff c).mp hc
  have h48 : '0'.toNat = 48 := rfl
  have h10 : (10 : GoInt).val = 10 := by decide
  have hmul : (n * 10).val = n.val * 10 := by
    rw [GoInt.mul_val_of_mem] <;> rw [h10] <;> omega
  have hdig : (GoInt.wrap ((c.toNat : Int) - '0'.toNat)).val = (c.toNat : Int) - '0'.toNat :=
    GoInt.wrap_val_of_mem (by omega) (by omega)
  rw [GoInt.add_val_of_mem] <;> rw [hmul, hdig] <;> omega

/-- The loop of `parseAmount` does not wrap while the amount stays below `2 ^ 63`: from `n` over
`x` it stays below `(n + 1) * 10 ^ x.length`. -/
theorem parseAmountFrom_bound (x : GoString) (n : GoInt) (h0 : 0 ≤ n.val)
    (h1 : (n.val + 1) * 10 ^ x.length ≤ 2 ^ 63) :
    0 ≤ (parseAmountFrom n x).val ∧
      (parseAmountFrom n x).val < (n.val + 1) * 10 ^ x.length := by
  induction x generalizing n with
  | nil => simp only [parseAmountFrom, List.length_nil, Int.pow_zero, Int.mul_one]; omega
  | cons c t ih =>
    have hP : 0 < (10 : Int) ^ t.length := by
      exact_mod_cast Nat.pos_pow_of_pos t.length (show 0 < 10 by decide)
    rw [List.length_cons, Int.pow_succ] at h1 ⊢
    have h10 : (n.val + 1) * 10 ≤ (n.val + 1) * (10 ^ t.length * 10) :=
      Int.mul_le_mul_of_nonneg_left (by omega) (by omega)
    unfold parseAmountFrom
    split_ifs with hc
    · have hd := (isDigit_iff c).mp hc
      have hstep := digitStep_val hc h0 (by omega)
      -- the bound of the rest is ten times the bound of `n`
      have hle : ((n * 10 + GoInt.wrap ((c.toNat : Int) - '0'.toNat)).val + 1) * 10 ^ t.length ≤
          (n.val + 1) * (10 ^ t.length * 10) := by
        rw [Int.mul_comm (10 ^ t.length), ← Int.mul_assoc, hstep]
        exact Int.mul_le_mul_of_nonneg_right (by omega) (by omega)
      obtain ⟨a, b⟩ := ih _ (by omega) (Int.le_trans hle h1)
      exact ⟨a, Int.lt_of_lt_of_le b hle⟩
    · exact ⟨h0, by omega⟩

/-- An amount of at most four runes is below `10000`. -/
theorem parseAmount_short {x : GoString} (h : x.length ≤ 4) :
    0 ≤ (parseAmount x).val ∧ (parseAmount x).val < 10000 := by
  have hp : 10 ^ x.length ≤ 10000 := Nat.pow_le_pow_right (by decide) h
  have hp' : (10 : Int) ^ x.length ≤ 10000 := by exact_mod_cast hp
  have := parseAmountFrom_bound x 0 (Int.le_of_eq GoInt.zero_val.symm)
    (by rw [GoInt.zero_val]; omega)
  rw [GoInt.zero_val, Int.zero_add, Int.one_mul] at this
  exact ⟨this.1, Int.lt_of_lt_of_le this.2 hp'⟩

/-- `timePattern` captures texts of at most four runes. -/
theorem timePattern_sound : Sound (fun x => x.length ≤ 4) timePattern := by
  have short : ∀ {n : Nat} {m : Matcher}, AtMost n m → n ≤ 4 →
      Sound (fun x : GoString => x.length ≤ 4) (group m) :=
    fun hc hn => group_sound_of_atMost hc fun _ hx => Nat.le_trans hx hn
  exact seq_sound (words_sound _ _) <| seq_sound (star_sound _) <|
    seq_sound (short (seq_atMost (char_atMost _) (opt_atMost (char_atMost _))) (by decide)) <|
    seq_sound (word_sound _ _) <| seq_sound (short (count_atMost _ 2) (by decide)) <|
    seq_sound (star_sound _) <|
    seq_sound (opt_sound (.inr (Nat.zero_le 4))
      (short (seq_atMost (char_atMost _) (char_atMost _)) (by decide))) <|
    seq_sound (opt_sound (.inr (Nat.zero_le 4)) (seq_sound (star_sound _)
      (short (seq_atMost (count_atMost _ 2)
        (opt_atMost (seq_atMost (char_atMost _) (opt_atMost (char_atMost _))))) (by decide))))
    empty_sound

theorem hourOfDay_nonneg {hh : GoInt} (ampm : GoString) (h0 : 0 ≤ hh.val) :
    0 ≤ (hourOfDay hh ampm).val := by
  have h12 : (12 : GoInt).val = 12 := by decide
  unfold hourOfDay
  dsimp only
  split_ifs with hne hpm hnoon
  · simp only [GoInt.lt_def, h12] at hpm
    rw [GoInt.add_val_of_mem] <;> rw [h12] <;> omega
  · exact Int.le_of_eq GoInt.zero_val.symm
  · exact h0
  · exact h0

/-- In a zone of fixed offset, the time-of-day branch gives `now` or later. -/
theorem timeOfDayReset_ge {loc : GoTime.Location} {now : Int} {output : GoString} {t : Int}
    (hloc : loc.Fixed) (h : timeOfDayReset loc now output = some t) : now ≤ t := by
  unfold timeOfDayReset at h
  split at h
  · rename_i hText mText rest hm
    cases h
    have hh := parseAmount_short (findSubmatch_sound timePattern_sound hm hText (by simp)).2
    have hmm := parseAmount_short (findSubmatch_sound timePattern_sound hm mText (by simp)).2
    exact GoTime.le_nextAt hloc (hourOfDay_nonneg _ hh.1) hmm.1
  · cases h

/-- The amount branches give a time after `now`. -/
theorem amountReset_after {pattern : Matcher} {cases : List (String × GoInt)} {now : Int}
    {output : GoString} {t : Int} (h : amountReset pattern cases now output = some t) :
    now < t := by
  unfold amountReset at h
  split at h
  · dsimp only at h
    split_ifs at h with hpos
    cases h
    simp only [GoInt.lt_def, GoInt.zero_val] at hpos
    omega
  · cases h

/-- What `extractResetTime` gives in a zone of fixed offset: the zero time, a time after `now`,
the timestamp of the output, or `now` itself from a time of day the clock shows at this
instant. -/
theorem extractResetTime_cases {loc : GoTime.Location} (hloc : loc.Fixed) (now : Int)
    (output : GoString) :
    extractResetTime loc now output = 0 ∨ now < extractResetTime loc now output ∨
      timestampReset output = some (extractResetTime loc now output) ∨
      (extractResetTime loc now output = now ∧ timeOfDayReset loc now output = some now) :=
  getD_of_forall (Q := fun r => r = 0 ∨ now < r ∨ timestampReset output = some r ∨
      (r = now ∧ timeOfDayReset loc now output = some now)) (.inl rfl) <|
    orElse_forall (fun _ h => .inr (.inr (.inl h))) <|
    orElse_forall (fun _ h => .inr (.inl (amountReset_after h))) <|
    orElse_forall (fun _ h => .inr (.inl (amountReset_after h))) fun r h => by
      have hge := timeOfDayReset_ge hloc h
      by_cases hr : r = now
      · exact .inr (.inr (.inr ⟨hr, hr ▸ h⟩))
      · exact .inr (.inl (by omega))

/-- **Parsed reset in a zone of fixed offset.** Whenever `ParseRateLimitOutput` reports a rate
limit on a machine whose zone keeps one offset, its reset time is after `now`, unless it is the
timestamp the output names, whenever that is, or `now` itself, from a time of day the clock shows
at this very instant. -/
theorem parsed_reset_after_now_unless_stated (loc : GoTime.Location) (hloc : loc.Fixed)
    (now : Int) (output : GoString) (st : State)
    (h : parseRateLimitOutput loc now output = some st) :
    now < st.resetAt ∨ timestampReset output = some st.resetAt ∨
      (st.resetAt = now ∧ timeOfDayReset loc now output = some now) := by
  unfold parseRateLimitOutput at h
  split at h
  · cases h
  · cases h
    dsimp only
    split_ifs with h0
    · have hhour : (1 * hour).val = 3600000000000 := by decide
      exact .inl (by omega)
    · rcases extractResetTime_cases hloc now output with h' | h' | h' | h'
      · exact absurd h' h0
      · exact .inl h'
      · exact .inr (.inl h')
      · exact .inr (.inr h')

set_option maxRecDepth 1000 in
/-- The test's own timestamp, read in UTC an hour after it: the reset is the stated instant,
before now. -/
theorem parsed_reset_stated_timestamp_passed :
    GoTime.Location.utc.Fixed ∧
      ∃ st, parseRateLimitOutput .utc 63905310000000000000
          "Rate limited. Resets at 2026-01-29T18:00:00Z".toList = some st ∧
        st.resetAt < 63905310000000000000 ∧
        (63905310000000000000 < st.resetAt ∨
          timestampReset "Rate limited. Resets at 2026-01-29T18:00:00Z".toList = some st.resetAt ∨
          (st.resetAt = 63905310000000000000 ∧ timeOfDayReset .utc 63905310000000000000
            "Rate limited. Resets at 2026-01-29T18:00:00Z".toList =
              some 63905310000000000000)) := by
  have hmap : (parseRateLimitOutput .utc 63905310000000000000
      "Rate limited. Resets at 2026-01-29T18:00:00Z".toList).map (·.resetAt) =
        some 63905306400000000000 := by decide
  obtain ⟨st, hst, hr⟩ := Option.map_eq_some'.mp hmap
  exact ⟨GoTime.Location.fixed_utc, st, hst, by rw [hr]; decide,
    parsed_reset_after_now_unless_stated .utc GoTime.Location.fixed_utc _ _ st hst⟩

set_option maxRecDepth 1000 in
/-- In New York at 23:30 EST on 1 November 2026, the night daylight saving time ends, `Try again
at 12:00 AM` is midnight EDT of that day, 24.5 hours back, moved a day ahead to 23:00 EST: the
reset is half an hour before now, though the code means "tomorrow if the time has passed". -/
theorem parsed_reset_before_now_on_fall_back :
    (parseRateLimitOutput GoTime.newYorkFall2026 (GoTime.date 2026 11 2 4 30 0)
        "Usage limit reached. Try again at 12:00 AM".toList).map (·.resetAt) =
      some (GoTime.date 2026 11 2 4 0 0) ∧
      GoTime.date 2026 11 2 4 0 0 < GoTime.date 2026 11 2 4 30 0 := by
  decide

end Ratelimit

end GastownQueue
