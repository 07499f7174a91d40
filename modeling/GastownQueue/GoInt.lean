import GastownQueue.Strings

/-! Go's 64-bit `int` as a bounded integer, with the two's-complement wrap of its arithmetic, and
the `strconv.Atoi` / `%d` pair the metadata codec uses for the failure counter. `time.Duration`
is an `int64` count of nanoseconds and is the same type here. -/

namespace GastownQueue

/-- Go's `int` on the 64-bit platforms the tool is built for. -/
structure GoInt where
  val : Int
  min_le : -2 ^ 63 ≤ val
  lt_max : val < 2 ^ 63
  deriving DecidableEq, Repr

namespace GoInt

/-- The two's-complement value of an integer: what a 64-bit register holds after the operation. -/
def wrap (x : Int) : GoInt :=
  ⟨(x + 2 ^ 63) % 2 ^ 64 - 2 ^ 63, by omega, by omega⟩

def maxInt : GoInt := ⟨2 ^ 63 - 1, by omega, by omega⟩

def minInt : GoInt := ⟨-2 ^ 63, by omega, by omega⟩

instance (n : Nat) : OfNat GoInt n := ⟨wrap n⟩
instance : Add GoInt := ⟨fun a b => wrap (a.val + b.val)⟩
instance : Sub GoInt := ⟨fun a b => wrap (a.val - b.val)⟩
instance : Mul GoInt := ⟨fun a b => wrap (a.val * b.val)⟩
instance : LT GoInt := ⟨fun a b => a.val < b.val⟩
instance : LE GoInt := ⟨fun a b => a.val ≤ b.val⟩
instance (a b : GoInt) : Decidable (a < b) := inferInstanceAs (Decidable (a.val < b.val))
instance (a b : GoInt) : Decidable (a ≤ b) := inferInstanceAs (Decidable (a.val ≤ b.val))

theorem ext {a b : GoInt} (h : a.val = b.val) : a = b := by
  cases a; cases b; cases h; rfl

theorem wrap_val_of_mem {x : Int} (h1 : -2 ^ 63 ≤ x) (h2 : x < 2 ^ 63) : (wrap x).val = x := by
  simp only [wrap]; omega

@[simp] theorem wrap_val_self (a : GoInt) : wrap a.val = a :=
  ext (wrap_val_of_mem a.min_le a.lt_max)

@[simp] theorem lt_def (a b : GoInt) : a < b ↔ a.val < b.val := Iff.rfl

@[simp] theorem le_def (a b : GoInt) : a ≤ b ↔ a.val ≤ b.val := Iff.rfl

theorem ofNat_val (n : Nat) (h : n < 2 ^ 63) : (OfNat.ofNat n : GoInt).val = n :=
  wrap_val_of_mem (by omega) (by omega)

@[simp] theorem zero_val : (0 : GoInt).val = 0 := ofNat_val 0 (by omega)

@[simp] theorem one_val : (1 : GoInt).val = 1 := ofNat_val 1 (by omega)

theorem add_val_of_mem {a b : GoInt} (h1 : -2 ^ 63 ≤ a.val + b.val) (h2 : a.val + b.val < 2 ^ 63) :
    (a + b).val = a.val + b.val :=
  wrap_val_of_mem h1 h2

theorem sub_val_of_mem {a b : GoInt} (h1 : -2 ^ 63 ≤ a.val - b.val) (h2 : a.val - b.val < 2 ^ 63) :
    (a - b).val = a.val - b.val :=
  wrap_val_of_mem h1 h2

theorem mul_val_of_mem {a b : GoInt} (h1 : -2 ^ 63 ≤ a.val * b.val)
    (h2 : a.val * b.val < 2 ^ 63) :
    (a * b).val = a.val * b.val :=
  wrap_val_of_mem h1 h2

/-- `n++` below the largest value adds one. -/
theorem succ_val {a : GoInt} (h : a.val < 2 ^ 63 - 1) : (a + 1).val = a.val + 1 := by
  have := a.min_le
  rw [add_val_of_mem] <;> simp only [one_val] <;> omega

end GoInt

/-- `time.Second`, as a `time.Duration` of nanoseconds. -/
def second : GoInt := 1000000000

def minute : GoInt := 60 * second

/-- A Go slice: its length is an `int`, so it stays below `2 ^ 63`. -/
structure GoSlice (α : Type) where
  toList : List α
  length_lt : toList.length < 2 ^ 63

/-- `len(s)`. -/
def GoSlice.len {α : Type} (s : GoSlice α) : GoInt :=
  ⟨s.toList.length, by omega, by have := s.length_lt; omega⟩

/-- `t.UTC().Format(time.RFC3339)`: the text of a UTC timestamp is digits and the separators
`-`, `:`, `T` and `Z` (a year past 9999 only adds digits, one before 0 a sign). -/
structure Rfc3339 where
  text : GoString
  chars : ∀ c ∈ text, c.isDigit ∨ c ∈ "-:TZ".toList

namespace Rfc3339

open Strings

theorem isSpace_eq_false (t : Rfc3339) : ∀ c ∈ t.text, isSpace c = false := by
  intro c hc
  rcases t.chars c hc with h | h
  · exact isSpace_of_isDigit h
  · simp only [String.toList, List.mem_cons, List.not_mem_nil, or_false] at h
    rcases h with rfl | rfl | rfl | rfl <;> decide

/-- A timestamp is a one-line trimmed field value. -/
theorem fieldText (t : Rfc3339) : '\n' ∉ t.text ∧ trimSpace t.text = t.text :=
  ⟨fun h => absurd (t.isSpace_eq_false _ h) (by decide), trimSpace_of_forall_neg t.isSpace_eq_false⟩

end Rfc3339

namespace Strconv

open Strings

def decimalValue (digits : GoString) : Nat :=
  digits.foldl (fun n ch => 10 * n + (ch.toNat - '0'.toNat)) 0

/-- The leading sign `Atoi` accepts: whether it is `-`, and the rest. -/
def cutSign : GoString → Bool × GoString
  | '-' :: t => (true, t)
  | '+' :: t => (false, t)
  | t => (false, t)

/-- `strconv.Atoi`: the value and whether it parsed. An optional sign, then at least one decimal
digit and nothing else; a syntax error gives `0`, a value out of range the nearest bound, and
both report the error. -/
def atoi (s : GoString) : GoInt × Bool :=
  let (neg, digits) := cutSign s
  if digits ≠ [] ∧ digits.all Char.isDigit then
    let v : Int := if neg then -(decimalValue digits : Int) else decimalValue digits
    if h1 : v < -2 ^ 63 then (GoInt.minInt, false)
    else if h2 : 2 ^ 63 ≤ v then (GoInt.maxInt, false)
    else (⟨v, by omega, by omega⟩, true)
  else (0, false)

/-- `fmt.Sprintf("%d", n)`. -/
def itoa (n : GoInt) : GoString :=
  if n.val < 0 then '-' :: Nat.toDigits 10 n.val.natAbs else Nat.toDigits 10 n.val.natAbs

theorem decimalValue_append_digit (xs : GoString) (d : Char) :
    decimalValue (xs ++ [d]) = 10 * decimalValue xs + (d.toNat - '0'.toNat) := by
  simp [decimalValue, List.foldl_append]

private theorem digitChar_spec : ∀ k < 10,
    (Nat.digitChar k).isDigit = true ∧ (Nat.digitChar k).toNat - '0'.toNat = k := by
  decide

/-- `Nat.toDigits 10` writes a non-empty run of digits whose value is the number. -/
theorem toDigitsCore_spec (fuel n : Nat) (ds : GoString) (h : n < fuel) :
    ∃ xs, Nat.toDigitsCore 10 fuel n ds = xs ++ ds ∧ xs ≠ [] ∧ xs.all Char.isDigit ∧
      decimalValue xs = n := by
  induction fuel generalizing n ds with
  | zero => omega
  | succ fuel ih =>
      obtain ⟨hdig, hval⟩ := digitChar_spec (n % 10) (Nat.mod_lt _ (by omega))
      have hcore : Nat.toDigitsCore 10 (fuel + 1) n ds =
          if n / 10 = 0 then Nat.digitChar (n % 10) :: ds
          else Nat.toDigitsCore 10 fuel (n / 10) (Nat.digitChar (n % 10) :: ds) := rfl
      rw [hcore]
      split
      · refine ⟨[Nat.digitChar (n % 10)], rfl, by simp, by simpa using hdig, ?_⟩
        simp only [decimalValue, List.foldl_cons, List.foldl_nil] at hval ⊢
        omega
      · obtain ⟨xs, hxs, hne, hall, hv⟩ := ih (n / 10) (Nat.digitChar (n % 10) :: ds) (by omega)
        refine ⟨xs ++ [Nat.digitChar (n % 10)], by simp [hxs], by simp, ?_, ?_⟩
        · simp only [List.all_append, hall, List.all_cons, hdig, List.all_nil, Bool.and_self]
        · rw [decimalValue_append_digit, hv, hval]; omega

theorem toDigits_spec (n : Nat) :
    Nat.toDigits 10 n ≠ [] ∧ (Nat.toDigits 10 n).all Char.isDigit ∧
      decimalValue (Nat.toDigits 10 n) = n := by
  obtain ⟨xs, hxs, hne, hall, hv⟩ := toDigitsCore_spec (n + 1) n [] (by omega)
  rw [show Nat.toDigits 10 n = Nat.toDigitsCore 10 (n + 1) n [] from rfl, hxs, List.append_nil]
  exact ⟨hne, hall, hv⟩

/-- A run of digits carries no sign. -/
theorem cutSign_of_digits {s : GoString} (h : ∀ c ∈ s, c.isDigit = true) :
    cutSign s = (false, s) := by
  match s, h with
  | [], _ => rfl
  | c :: cs, h =>
    have hc := h c (List.mem_cons_self c cs)
    have hdash : c ≠ '-' := by rintro rfl; simp at hc
    have hplus : c ≠ '+' := by rintro rfl; simp at hc
    simp [cutSign, hdash, hplus]

/-- `Atoi` reads back what `%d` writes. -/
theorem atoi_itoa (n : GoInt) : atoi (itoa n) = (n, true) := by
  obtain ⟨hne, hall, hv⟩ := toDigits_spec n.val.natAbs
  have hmin := n.min_le
  have hmax := n.lt_max
  unfold atoi itoa
  split_ifs with hneg
  · simp only [cutSign, hne, hall, hv, ne_eq, not_false_eq_true, and_self, if_true]
    rw [dif_neg (by omega), dif_neg (by omega)]
    exact Prod.ext (GoInt.ext (show -(n.val.natAbs : Int) = n.val by omega)) rfl
  · simp only [cutSign_of_digits (List.all_eq_true.mp hall), ne_eq, hne, not_false_eq_true, hall,
      and_self, if_true, Bool.false_eq_true, ite_false, hv]
    rw [dif_neg (by omega), dif_neg (by omega)]
    exact Prod.ext (GoInt.ext (show (n.val.natAbs : Int) = n.val by omega)) rfl

end Strconv

end GastownQueue
