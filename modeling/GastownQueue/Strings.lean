import Mathlib.Data.List.DropRight
import Mathlib.Algebra.Group.Int
import Mathlib.Algebra.Group.Nat.Basic

/-! The part of Go's `strings` package that the queue code calls, on strings as rune lists.
Descriptions, labels and error texts reach the program through JSON or `fmt`, so they are valid
UTF-8 and the byte offsets of the Go code are rune offsets here. Every separator the code passes
is non-empty, so the empty-separator cases of `strings.Split` and `strings.SplitN` are left out. -/

namespace GastownQueue

/-- A Go string, as its sequence of runes. -/
abbrev GoString := List Char

namespace Strings

/-- `unicode.IsSpace`: the Latin-1 spaces, and the Unicode `White_Space` runes above Latin-1. -/
def isSpace (c : Char) : Bool :=
  c.toNat ∈ [0x09, 0x0a, 0x0b, 0x0c, 0x0d, 0x20, 0x85, 0xa0, 0x1680, 0x2028, 0x2029, 0x202f,
    0x205f, 0x3000] || (0x2000 ≤ c.toNat && c.toNat ≤ 0x200a)

def trimSpace (s : GoString) : GoString :=
  (s.dropWhile isSpace).rdropWhile isSpace

/-- `strings.TrimRight`: drop the trailing runes that occur in `cutset`. -/
def trimRight (s cutset : GoString) : GoString :=
  s.rdropWhile fun c => cutset.contains c

/-- `strings.Index`: the offset of the first occurrence of `sep` in `s`; `none` stands for `-1`. -/
def index (s sep : GoString) : Option Nat :=
  match s with
  | [] => if sep.isPrefixOf [] then some 0 else none
  | c :: t => if sep.isPrefixOf (c :: t) then some 0 else (index t sep).map (· + 1)

def contains (s substr : GoString) : Bool :=
  (index s substr).isSome

def hasPrefix (s pre : GoString) : Bool :=
  pre.isPrefixOf s

def hasSuffix (s suffix : GoString) : Bool :=
  suffix.isSuffixOf s

/-- `unicode.ToLower` where it gives an ASCII rune: the ASCII capitals, LATIN CAPITAL LETTER I
WITH DOT ABOVE and KELVIN SIGN. Other runes are kept as they are; the texts lowered here are only
matched against ASCII patterns, which no other rune or its lower case can match. -/
def lowerRune (c : Char) : Char :=
  if c = '\u0130' then 'i' else if c = '\u212A' then 'k' else c.toLower

def toLower (s : GoString) : GoString :=
  s.map lowerRune

/-- `unicode.ToUpper` where it gives an ASCII rune: the ASCII small letters, LATIN SMALL LETTER
DOTLESS I and LATIN SMALL LETTER LONG S. -/
def upperRune (c : Char) : Char :=
  if c = '\u0131' then 'I' else if c = '\u017F' then 'S' else c.toUpper

def toUpper (s : GoString) : GoString :=
  s.map upperRune

/-- `strings.Split` with a one-rune separator. -/
def split (s : GoString) (sep : Char) : List GoString :=
  s.splitOn sep

/-- `strings.SplitN(s, sep, n)` for `n ≥ 0`: at most `n` pieces, the last one holding the rest. -/
def splitN (s sep : GoString) : Nat → List GoString
  | 0 => []
  | 1 => [s]
  | n + 2 =>
      match index s sep with
      | none => [s]
      | some i => s.take i :: splitN (s.drop (i + sep.length)) sep (n + 1)

def join (elems : List GoString) (sep : GoString) : GoString :=
  sep.intercalate elems

theorem index_cons (c : Char) (t sep : GoString) :
    index (c :: t) sep = if sep <+: c :: t then some 0 else (index t sep).map (· + 1) := by
  simp only [index, List.isPrefixOf_iff_prefix]

theorem index_eq_some_zero {s sep : GoString} (h : sep <+: s) : index s sep = some 0 := by
  cases s <;> simp [index, List.isPrefixOf_iff_prefix.mpr h]

/-- A prefix of `x ++ c :: y` either lies inside `x` or reaches the rune `c`. -/
theorem prefix_append_cons {p x y : GoString} {c : Char} (h : p <+: x ++ c :: y) :
    p <+: x ∨ c ∈ p := by
  induction x generalizing p with
  | nil =>
      cases p with
      | nil => exact .inl (List.nil_prefix)
      | cons a p => exact .inr (by rw [(List.cons_prefix_cons.mp h).1]; exact List.mem_cons_self _ _)
  | cons a x ih =>
      cases p with
      | nil => exact .inl (List.nil_prefix)
      | cons b p =>
          obtain ⟨rfl, hp⟩ := List.cons_prefix_cons.mp h
          rcases ih hp with hx | hc
          · exact .inl (List.cons_prefix_cons.mpr ⟨rfl, hx⟩)
          · exact .inr (List.mem_cons_of_mem _ hc)

/-- Appending after a rune that `sep` does not contain shifts every later occurrence, when
there is none before it. -/
theorem index_append_cons {s t sep : GoString} {c : Char} (hs : index s sep = none)
    (hc : c ∉ sep) : index (s ++ c :: t) sep = (index t sep).map (· + (s.length + 1)) := by
  induction s with
  | nil =>
      have hne : ¬ sep <+: c :: t := fun h => by
        rcases prefix_append_cons (x := []) h with hp | hm
        · exact absurd (index_eq_some_zero hp) (by simp [hs])
        · exact hc hm
      simp [index_cons, hne, Option.map_map, Function.comp_def]
  | cons a s ih =>
      rw [index_cons] at hs
      have hno : ¬ sep <+: a :: s := fun h => by simp [h] at hs
      have hs' : index s sep = none := by simpa [hno] using hs
      have hne : ¬ sep <+: a :: (s ++ c :: t) := fun h => by
        rcases prefix_append_cons (x := a :: s) h with hp | hm
        · exact hno hp
        · exact hc hm
      rw [List.cons_append, index_cons, if_neg hne, ih hs', Option.map_map]
      simp only [List.length_cons, Function.comp_def, Nat.add_assoc]

/-- A text none of whose runes starts `sep` shifts every occurrence. -/
theorem index_append_of_not_mem {pre rest sep : GoString} {x : Char} {xs : GoString}
    (hsep : sep = x :: xs) (hx : x ∉ pre) :
    index (pre ++ rest) sep = (index rest sep).map (· + pre.length) := by
  induction pre with
  | nil => simp
  | cons a pre ih =>
      have hne : ¬ sep <+: a :: (pre ++ rest) := fun h => by
        subst hsep
        exact hx ((List.cons_prefix_cons.mp h).1 ▸ List.mem_cons_self _ _)
      rw [List.cons_append, index_cons, if_neg hne, ih (fun h => hx (List.mem_cons_of_mem _ h)),
        Option.map_map]
      simp only [List.length_cons, Function.comp_def, Nat.add_assoc]

theorem index_eq_none_of_prefix {s t sep : GoString} (ht : t <+: s) (hs : index s sep = none) :
    index t sep = none := by
  induction s generalizing t with
  | nil =>
      rw [List.prefix_nil.mp ht]; exact hs
  | cons a s ih =>
      rw [index_cons] at hs
      have hno : ¬ sep <+: a :: s := fun h => by simp [h] at hs
      have hs' : index s sep = none := by simpa [hno] using hs
      cases t with
      | nil =>
          have : ¬ sep <+: [] := fun h => hno (h.trans List.nil_prefix)
          simp [index, List.isPrefixOf_iff_prefix, this]
      | cons b t =>
          obtain ⟨rfl, ht'⟩ := List.cons_prefix_cons.mp ht
          have hne : ¬ sep <+: b :: t := fun h => hno (h.trans ht)
          simp [index_cons, hne, ih ht' hs']

/-- The text before the first occurrence holds none. -/
theorem index_take {s sep : GoString} {i : Nat} (hsep : sep ≠ []) (h : index s sep = some i) :
    index (s.take i) sep = none := by
  induction s generalizing i with
  | nil =>
      cases sep with
      | nil => exact absurd rfl hsep
      | cons => simp [index] at h
  | cons a s ih =>
      rw [index_cons] at h
      by_cases hp : sep <+: a :: s
      · simp only [hp, if_true, Option.some.injEq] at h
        subst h
        cases sep with
        | nil => exact absurd rfl hsep
        | cons => simp [index]
      · simp only [hp, if_false, Option.map_eq_some'] at h
        obtain ⟨j, hj, rfl⟩ := h
        have hne : ¬ sep <+: a :: s.take j := fun h' => hp (h'.trans
          (List.cons_prefix_cons.mpr ⟨rfl, List.take_prefix _ _⟩))
        simp [index_cons, hne, ih hj]

/-- At the offset `index` returns, `sep` starts. -/
theorem prefix_drop_of_index {s sep : GoString} {i : Nat} (h : index s sep = some i) :
    sep <+: s.drop i := by
  induction s generalizing i with
  | nil =>
      simp only [index, List.isPrefixOf_iff_prefix] at h
      split at h
      · cases h; assumption
      · cases h
  | cons a s ih =>
      rw [index_cons] at h
      by_cases hp : sep <+: a :: s
      · simp only [hp, if_true, Option.some.injEq] at h
        subst h; exact hp
      · simp only [hp, if_false, Option.map_eq_some'] at h
        obtain ⟨j, hj, rfl⟩ := h
        simpa using ih hj

section Trim

variable {p : Char → Bool}

theorem rdropWhile_append_of_exists {l r : GoString} (h : ∃ c ∈ r, p c = false) :
    (l ++ r).rdropWhile p = l ++ r.rdropWhile p := by
  have hne : (r.reverse.dropWhile p).isEmpty = false := by
    obtain ⟨c, hc, hpc⟩ := h
    rw [Bool.eq_false_iff, ne_eq, List.isEmpty_iff, List.dropWhile_eq_nil_iff]
    exact fun hall => by simp [hall c (List.mem_reverse.mpr hc)] at hpc
  simp only [List.rdropWhile, List.reverse_append, List.dropWhile_append, hne, Bool.false_eq_true,
    if_false, List.reverse_reverse]

theorem rdropWhile_append_of_forall {l r : GoString} (h : ∀ c ∈ r, p c = true) :
    (l ++ r).rdropWhile p = l.rdropWhile p := by
  simp only [List.rdropWhile, List.reverse_append]
  rw [List.dropWhile_append_of_pos (by simpa using h)]

theorem rdropWhile_cons_of_neg {c : Char} {r : GoString} (hc : p c = false) :
    (c :: r).rdropWhile p = c :: r.rdropWhile p := by
  by_cases h : ∃ x ∈ r, p x = false
  · exact rdropWhile_append_of_exists (l := [c]) h
  · have hall : ∀ x ∈ r, p x = true := by simpa using h
    rw [show c :: r = [c] ++ r from rfl, rdropWhile_append_of_forall hall,
      List.rdropWhile_eq_nil_iff.mpr hall]
    simp [List.rdropWhile_singleton, hc]

theorem rdropWhile_append_of_forall_neg {l r : GoString} (h : ∀ c ∈ l, p c = false) :
    (l ++ r).rdropWhile p = l ++ r.rdropWhile p := by
  induction l with
  | nil => rfl
  | cons c l ih =>
      rw [List.cons_append, rdropWhile_cons_of_neg (h c (List.mem_cons_self _ _)),
        ih (fun x hx => h x (List.mem_cons_of_mem _ hx)), List.cons_append]

end Trim

/-- The printable ASCII runes are not spaces. -/
theorem isSpace_of_lt {c : Char} (h1 : 32 < c.toNat) (h2 : c.toNat < 133) : isSpace c = false := by
  simp only [isSpace, Bool.or_eq_false_iff, Bool.and_eq_false_iff, decide_eq_false_iff_not,
    List.mem_cons, List.mem_singleton, List.not_mem_nil, or_false]
  omega

theorem isDigit_iff (c : Char) : c.isDigit = true ↔ 48 ≤ c.toNat ∧ c.toNat ≤ 57 := by
  simp only [Char.isDigit, Bool.and_eq_true, decide_eq_true_eq]
  exact Iff.rfl

theorem isSpace_of_isDigit {c : Char} (h : c.isDigit = true) : isSpace c = false := by
  have := (isDigit_iff c).mp h
  exact isSpace_of_lt (by omega) (by omega)

theorem trimSpace_of_forall {v : GoString} (h : ∀ c ∈ v, isSpace c = true) : trimSpace v = [] := by
  simp [trimSpace, List.dropWhile_eq_nil_iff.mpr h]

theorem trimSpace_of_forall_neg {v : GoString} (h : ∀ c ∈ v, isSpace c = false) :
    trimSpace v = v := by
  have hd : v.dropWhile isSpace = v := by
    cases v with
    | nil => rfl
    | cons c cs => exact List.dropWhile_cons_of_neg (by simp [h c (List.mem_cons_self _ _)])
  simpa [trimSpace, hd] using rdropWhile_append_of_forall_neg (r := []) h

/-- Trimming after a right trim trims the same. -/
theorem trimSpace_rdropWhile (v : GoString) : trimSpace (v.rdropWhile isSpace) = trimSpace v := by
  by_cases hall : ∀ c ∈ v, isSpace c = true
  · rw [List.rdropWhile_eq_nil_iff.mpr hall, trimSpace_of_forall hall]; rfl
  · rw [← List.takeWhile_append_dropWhile isSpace v] at hall ⊢
    obtain ⟨c, hc, hpc⟩ : ∃ c ∈ v.dropWhile isSpace, isSpace c = false := by
      push_neg at hall
      obtain ⟨c, hc, hpc⟩ := hall
      rcases List.mem_append.mp hc with ht | hd
      · exact absurd (List.mem_takeWhile_imp ht) hpc
      · exact ⟨c, hd, by simpa using hpc⟩
    obtain ⟨d, ds, hds⟩ := List.exists_cons_of_ne_nil (List.ne_nil_of_mem hc)
    have hd : isSpace d = false := by
      simpa [hds] using List.head_dropWhile_not isSpace v (by simp [hds])
    have htake : ∀ x ∈ v.takeWhile isSpace, isSpace x = true := fun x hx => List.mem_takeWhile_imp hx
    rw [rdropWhile_append_of_exists ⟨c, hc, hpc⟩, trimSpace, List.dropWhile_append_of_pos htake,
      hds, rdropWhile_cons_of_neg hd, List.dropWhile_cons_of_neg (by simp [hd]),
      ← rdropWhile_cons_of_neg hd, List.rdropWhile_idempotent, trimSpace,
      List.dropWhile_append_of_pos htake, List.dropWhile_cons_of_neg (by simp [hd])]

theorem trimSpace_trimSpace (v : GoString) : trimSpace (trimSpace v) = trimSpace v :=
  calc trimSpace (trimSpace v) = trimSpace ((v.dropWhile isSpace).rdropWhile isSpace) := rfl
    _ = trimSpace (v.dropWhile isSpace) := trimSpace_rdropWhile _
    _ = trimSpace v := by simp only [trimSpace, List.dropWhile_idempotent]

theorem mem_of_mem_trimSpace {c : Char} {v : GoString} (h : c ∈ trimSpace v) : c ∈ v :=
  (List.dropWhile_suffix isSpace).subset ((List.rdropWhile_prefix isSpace _).subset h)

theorem forall_isSpace_of_trimSpace_eq_nil {v : GoString} (h : trimSpace v = []) :
    ∀ c ∈ v, isSpace c = true := by
  unfold trimSpace at h
  rw [← List.takeWhile_append_dropWhile isSpace v]
  intro c hc
  rcases List.mem_append.mp hc with ht | hd
  · exact List.mem_takeWhile_imp ht
  · exact List.rdropWhile_eq_nil_iff.mp h c hd

theorem rdropWhile_trimSpace (v : GoString) : (trimSpace v).rdropWhile isSpace = trimSpace v :=
  List.rdropWhile_idempotent _ _

theorem mem_modifyHead {f : GoString → GoString} {l : List GoString} {x : GoString}
    (h : x ∈ l.modifyHead f) : x ∈ l ∨ ∃ y ∈ l, x = f y := by
  cases l with
  | nil => simp at h
  | cons y l =>
      rcases List.mem_cons.mp h with rfl | hx
      · exact .inr ⟨y, List.mem_cons_self _ _, rfl⟩
      · exact .inl (List.mem_cons_of_mem _ hx)

/-- No piece of `strings.Split` holds the separator. -/
theorem not_mem_of_mem_split {sep : Char} {s piece : GoString} (h : piece ∈ split s sep) :
    sep ∉ piece := by
  induction s generalizing piece with
  | nil => simp [split] at h; simp [h]
  | cons c s ih =>
      simp only [split, List.splitOn, List.splitOnP_cons] at h ih
      split_ifs at h with hc
      · rcases List.mem_cons.mp h with rfl | hp
        · simp
        · exact ih hp
      · rcases mem_modifyHead h with hp | ⟨y, hy, rfl⟩
        · exact ih hp
        · simp only [beq_iff_eq] at hc
          simp only [List.mem_cons, not_or]
          exact ⟨Ne.symm hc, ih hy⟩

theorem split_cons_sep (sep : Char) (s : GoString) : split (sep :: s) sep = [] :: split s sep := by
  simp [split, List.splitOn]

theorem split_append_sep {sep : Char} {l : GoString} (hl : sep ∉ l) (t : GoString) :
    split (l ++ sep :: t) sep = l :: split t sep :=
  List.splitOnP_first (· == sep) l (fun x hx => by simpa using ne_of_mem_of_not_mem hx hl) sep
    (by simp) t

/-- `Split` undoes `Join` on pieces free of the separator. -/
theorem split_join {sep : Char} {pieces : List GoString} (h : ∀ p ∈ pieces, sep ∉ p)
    (hne : pieces ≠ []) : split (join pieces [sep]) sep = pieces :=
  List.splitOn_intercalate pieces sep h hne

theorem join_cons (x : GoString) (xs : List GoString) (sep : GoString) :
    join (x :: xs) sep = x ++ if xs = [] then [] else sep ++ join xs sep := by
  cases xs <;> simp [join, List.intercalate, List.intersperse_cons_cons]

end Strings

end GastownQueue
