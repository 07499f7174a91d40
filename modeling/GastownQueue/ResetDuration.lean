import GastownQueue.Regexp
import GastownQueue.GoTime

/-! `detectRateLimit` and `detectUsageLimit` of package `cmd`, which look in an agent's transcript
for a rate or usage limit and for the time until it resets, through the `extractResetDuration`
both call (`sling_dolt.go` and `usagelimit_cmd.go` hold identical copies of it and of the
phrase table). The clock is read once, at `now`, in the machine's zone `loc`. A duration is the
product `time.Duration(value) * unit` of the number a pattern captures, which wraps as a 64-bit
integer, and a time of day is moved a day ahead with `Add(24 * time.Hour)`, which on the night
daylight saving time ends is still in the past. In a zone of fixed offset the reset is in the
future unless the transcript holds a numeral too long for the product. -/

namespace GastownQueue

open Strings Strconv Regexp

/-- The units of `retryAfterRe` and `inTimeRe`, in the order of the alternation. -/
def durationUnits : List String :=
  ["second", "minute", "hour", "sec", "min", "hr", "s", "m", "h"]

/-- `["']`. -/
def quote (c : Char) : Bool := c = '\x22' || c = '\x27'

/-- `[:\s]`. -/
def colonOrSpace (c : Char) : Bool := c = ':' || space c

/-- `retry-after["']?[:\s]+(\d+)`. -/
def retryAfterSecsRe : Matcher :=
  seqs [lit "retry-after", opt 0 (char quote), plus colonOrSpace, group (plus digit)]

/-- `retry[- ]?after[:\s]+(\d+)\s*(second|minute|hour|sec|min|hr|s|m|h)`. -/
def retryAfterRe : Matcher :=
  seqs [lit "retry", opt 0 (char fun c => c = '-' || c = ' '), lit "after", plus colonOrSpace,
    group (plus digit), star space, group (lits durationUnits)]

/-- `ratelimit-\w+-reset["']?:\s*["']?(\d{4}-\d{2}-\d{2}T\d{2}:\d{2}:\d{2}Z?)`. -/
def resetTimestampRe : Matcher :=
  seqs [lit "ratelimit-", plus wordChar, lit "-reset", opt 0 (char quote), lit ":", star space,
    opt 0 (char quote),
    group (seqs [count digit 4, lit "-", count digit 2, lit "-", count digit 2, lit "T",
      count digit 2, lit ":", count digit 2, lit ":", count digit 2, opt 0 (lit "Z")])]

/-- `(?:reset|available|try again|wait)\s+(?:in\s+)?(\d+)\s*(second|minute|hour|sec|min|hr|s|m|h)`.
-/
def inTimeRe : Matcher :=
  seqs [lits ["reset", "available", "try again", "wait"], plus space,
    opt 0 (seq (lit "in") (plus space)), group (plus digit), star space, group (lits durationUnits)]

/-- `(?:reset|available)\s+at\s+(\d{1,2}):(\d{2})`. -/
def atTimeRe : Matcher :=
  seqs [lits ["reset", "available"], plus space, lit "at", plus space,
    group (seq (char digit) (opt 0 (char digit))), lit ":", group (count digit 2)]

/-- The `switch` on a captured unit: `time.Second`, `time.Minute` or `time.Hour` by its first
letter, `none` when no case applies. -/
def unitDuration (unit : GoString) : Option GoInt :=
  if hasPrefix unit "s".toList then some second
  else if hasPrefix unit "m".toList then some minute
  else if hasPrefix unit "h".toList then some hour
  else none

/-- `retryAfterSecsRe`: a number of seconds, if it is positive and below a day. -/
def retryAfterSecs (lower : GoString) : Option GoInt :=
  match findSubmatch retryAfterSecsRe lower with
  | some (_ :: v :: _) =>
      let value := (atoi v).1
      if 0 < value ∧ value < 86400 then some (value * second) else none
  | _ => none

/-- The branch `retryAfterRe` and `inTimeRe` share: the number times the unit after it. -/
def valueTimesUnit (re : Matcher) (lower : GoString) : Option GoInt :=
  match findSubmatch re lower with
  | some (_ :: v :: unit :: _) => (unitDuration unit).map ((atoi v).1 * ·)
  | _ => none

def retryAfter (lower : GoString) : Option GoInt :=
  valueTimesUnit retryAfterRe lower

def inTime (lower : GoString) : Option GoInt :=
  valueTimesUnit inTimeRe lower

/-- `resetTimestampRe`, on the transcript as written: the time until the timestamp, if it is
ahead. -/
def resetTimestamp (now : Int) (transcript : GoString) : Option GoInt :=
  match findSubmatch resetTimestampRe transcript with
  | some (_ :: v :: _) =>
      match GoTime.parseRFC3339 v with
      | some t => if 0 < timeUntil now t then some (timeUntil now t) else none
      | none => none
  | _ => none

/-- `atTimeRe`: the time until that time of day, today or a day later. -/
def atTime (loc : GoTime.Location) (now : Int) (lower : GoString) : Option GoInt :=
  match findSubmatch atTimeRe lower with
  | some (_ :: hh :: mm :: _) =>
      some (timeUntil now (GoTime.nextAt loc now (atoi hh).1.val (atoi mm).1.val))
  | _ => none

/-- `extractResetDuration`: the first pattern that gives a duration, or `0`. -/
def extractResetDuration (loc : GoTime.Location) (now : Int) (transcript : GoString) : GoInt :=
  let lower := toLower transcript
  (retryAfterSecs lower <|> retryAfter lower <|> resetTimestamp now transcript <|> inTime lower <|>
    atTime loc now lower).getD 0

/-- `rateLimitPatterns` of `detectRateLimit`: a text the lowered transcript contains, read as a
substring, and the reason it gives. -/
def rateLimitPatterns : List (String × String) :=
  [("rate_limit_error", "Anthropic API rate_limit_error"),
   ("status.*429", "HTTP 429 Too Many Requests"),
   ("error.*429", "HTTP 429 error"),
   ("429", "HTTP 429"),
   ("overloaded_error", "Anthropic API overloaded_error (529)"),
   ("rate limit", "rate limit detected"),
   ("ratelimit", "ratelimit detected"),
   ("too many requests", "too many requests"),
   ("usage limit", "usage limit reached"),
   ("you\x27ve reached your limit", "subscription limit reached"),
   ("you have reached your limit", "subscription limit reached"),
   ("exceeded your limit", "limit exceeded"),
   ("reached your usage limit", "usage limit reached"),
   ("usage cap", "usage cap reached"),
   ("token limit", "token limit reached"),
   ("tokens per minute", "TPM limit"),
   ("requests per minute", "RPM limit"),
   ("api limit", "API limit"),
   ("request limit", "request limit")]

/-- The body `detectRateLimit` and `detectUsageLimit` share over their tables: the first entry
the lowered transcript contains gives the reason, and a reset that does not parse is an hour. -/
def detectLimit (patterns : List (String × String)) (loc : GoTime.Location) (now : Int)
    (transcript : GoString) : Bool × GoInt × GoString :=
  match patterns.find? fun p => contains (toLower transcript) p.1.toList with
  | none => (false, 0, [])
  | some (_, reason) =>
      let resetDuration := extractResetDuration loc now transcript
      if resetDuration = 0 then (true, hour, reason.toList ++ " (default 1h reset)".toList)
      else (true, resetDuration, reason.toList)

def detectRateLimit (loc : GoTime.Location) (now : Int) (transcript : GoString) :
    Bool × GoInt × GoString :=
  detectLimit rateLimitPatterns loc now transcript

/-- Two failing inputs of the reset's sign. Minutes whose nanoseconds pass `2 ^ 63` wrap to a
negative duration. And in New York at 23:30 EST on 1 November 2026, the night daylight saving
time ends, `reset at 0:00` is midnight EDT of that day, 24.5 hours back, moved a day ahead to
23:00 EST: half an hour before now. -/
theorem detected_reset_before_now :
    (detectRateLimit .utc 0 "rate limit hit. try again in 153722868 minutes".toList).1 = true ∧
      (detectRateLimit .utc 0 "rate limit hit. try again in 153722868 minutes".toList).2.1.val <
        0 ∧
      (detectRateLimit GoTime.newYorkFall2026 (GoTime.date 2026 11 2 4 30 0)
        "rate limit hit, reset at 0:00".toList).1 = true ∧
      (detectRateLimit GoTime.newYorkFall2026 (GoTime.date 2026 11 2 4 30 0)
        "rate limit hit, reset at 0:00".toList).2.1.val = -1800000000000 := by
  decide

end GastownQueue
