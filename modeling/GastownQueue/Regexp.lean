import GastownQueue.Strings

/-! The fragment of Go's `regexp` that the rate-limit detectors compile: literals, classes,
concatenation, alternation, greedy `?`, `*`, `+` and bounded repeats of a class, capturing
groups, and `FindStringSubmatch` / `MatchString`. Go's matches are leftmost-first: the match
that starts first, and among those the one a backtracking matcher finds first. A pattern is
modelled as the list of its matches at the start of a text, in that order of preference, so
that a search is the first entry at the first position where the list is not empty.

The case folding of `(?i)` is Unicode's simple folding restricted to the patterns' ASCII
letters: a letter matches both its cases, `k` also KELVIN SIGN and `s` also LATIN SMALL LETTER
LONG S. -/

namespace GastownQueue

namespace Regexp

/-- A pattern tried at the start of a text: every way it matches there, most preferred first,
each with the texts of its capturing groups, left to right, and the text after the match. -/
def Matcher : Type := GoString → List (List GoString × GoString)

def empty : Matcher := fun s => [([], s)]

def char (p : Char → Bool) : Matcher := fun s =>
  match s with
  | c :: t => if p c then [([], t)] else []
  | [] => []

/-- `m₁m₂`: each way of `m₁`, followed by each way of `m₂` after it. -/
def seq (m₁ m₂ : Matcher) : Matcher := fun s =>
  (m₁ s).flatMap fun (g₁, r₁) => (m₂ r₁).map fun (g₂, r₂) => (g₁ ++ g₂, r₂)

/-- `m₁|m₂`: the ways of `m₁` first. -/
def alt (m₁ m₂ : Matcher) : Matcher := fun s => m₁ s ++ m₂ s

/-- `m?`, greedy, around `n` capturing groups: skipping `m` leaves them empty, as
`FindStringSubmatch` reports a group that did not take part. -/
def opt (n : Nat) (m : Matcher) : Matcher := fun s => m s ++ [(List.replicate n [], s)]

/-- `[p]*`, greedy: the longest run first. -/
def star (p : Char → Bool) : Matcher := fun s =>
  ((List.range ((s.takeWhile p).length + 1)).reverse).map fun k => ([], s.drop k)

/-- `[p]+`. -/
def plus (p : Char → Bool) : Matcher := seq (char p) (star p)

/-- The text a match consumed, from the text before it and the text after it. -/
def consumed (s r : GoString) : GoString := s.take (s.length - r.length)

/-- `(m)`: the text `m` consumed, before the groups inside it. -/
def group (m : Matcher) : Matcher := fun s =>
  (m s).map fun (g, r) => (consumed s r :: g, r)

/-- A literal, rune by rune under `eq`: equality, or the folding of `(?i)`. -/
def word (eq : Char → Char → Bool) : GoString → Matcher
  | [] => empty
  | c :: w => seq (char (eq · c)) (word eq w)

/-- `w₁|w₂|…` of literals. -/
def words (eq : Char → Char → Bool) : List GoString → Matcher
  | [] => fun _ => []
  | w :: ws => alt (word eq w) (words eq ws)

/-- `m₁m₂…`. -/
def seqs : List Matcher → Matcher
  | [] => empty
  | m :: ms => seq m (seqs ms)

/-- `[p]{n}`. -/
def count (p : Char → Bool) : Nat → Matcher
  | 0 => empty
  | n + 1 => seq (char p) (count p n)

def lit (w : String) : Matcher := word (· == ·) w.toList

/-- `w₁|w₂|…` of literals of the pattern. -/
def lits (ws : List String) : Matcher := words (· == ·) (ws.map String.toList)

/-- `FindStringSubmatch`: the preferred match at the first position where the pattern matches,
as the whole match followed by the groups; `none` stands for `nil`. -/
def findSubmatch (m : Matcher) : GoString → Option (List GoString)
  | [] =>
      match m [] with
      | (g, _) :: _ => some ([] :: g)
      | [] => none
  | c :: t =>
      match m (c :: t) with
      | (g, r) :: _ => some (consumed (c :: t) r :: g)
      | [] => findSubmatch m t

def matchString (m : Matcher) (s : GoString) : Bool :=
  (findSubmatch m s).isSome

/-- `\d`. -/
def digit (c : Char) : Bool := c.isDigit

/-- `\s`: `[\t\n\f\r ]`. -/
def space (c : Char) : Bool :=
  c = '\t' || c = '\n' || c = '\x0c' || c = '\r' || c = ' '

/-- `\w`: `[0-9A-Za-z_]`. -/
def wordChar (c : Char) : Bool := c.isAlphanum || c = '_'

/-- `.`: any rune but a newline. -/
def anyChar (c : Char) : Bool := c ≠ '\n'

/-- The rune `c` of the text matches the rune `w` of a pattern under `(?i)`. -/
def foldEq (c w : Char) : Bool :=
  c.toLower == w.toLower || (w.toLower == 'k' && c == '\u212A') ||
    (w.toLower == 's' && c == '\u017F')

/-- A literal under `(?i)`. -/
def litI (w : String) : Matcher := word foldEq w.toList

/-- `w₁|w₂|…` of literals under `(?i)`. -/
def litsI (ws : List String) : Matcher := words foldEq (ws.map String.toList)

/-- Every match of `m` leaves a suffix of the text and captures infixes of it that satisfy
`P`. -/
def Sound (P : GoString → Prop) (m : Matcher) : Prop :=
  ∀ s g r, (g, r) ∈ m s → r <:+ s ∧ ∀ x ∈ g, x <:+: s ∧ P x

variable {P : GoString → Prop}

theorem empty_sound : Sound P empty := by
  intro s g r h
  simp only [empty, List.mem_singleton, Prod.mk.injEq] at h
  obtain ⟨rfl, rfl⟩ := h
  exact ⟨List.suffix_refl _, by simp⟩

theorem mem_char {p : Char → Bool} {s r : GoString} {g : List GoString}
    (h : (g, r) ∈ char p s) :
    g = [] ∧ ∃ c, p c = true ∧ s = c :: r := by
  unfold char at h
  split at h
  · split_ifs at h with hp
    · simp only [List.mem_singleton, Prod.mk.injEq] at h
      obtain ⟨rfl, rfl⟩ := h
      exact ⟨rfl, _, hp, rfl⟩
    · cases h
  · cases h

theorem char_sound (p : Char → Bool) : Sound P (char p) := by
  intro s g r h
  obtain ⟨rfl, c, -, rfl⟩ := mem_char h
  exact ⟨List.suffix_cons _ _, by simp⟩

theorem mem_seq {m₁ m₂ : Matcher} {s : GoString} {g : List GoString} {r : GoString}
    (h : (g, r) ∈ seq m₁ m₂ s) :
    ∃ g₁ r₁ g₂, (g₁, r₁) ∈ m₁ s ∧ (g₂, r) ∈ m₂ r₁ ∧ g = g₁ ++ g₂ := by
  simp only [seq, List.mem_flatMap, List.mem_map, Prod.mk.injEq] at h
  obtain ⟨⟨g₁, r₁⟩, h₁, ⟨g₂, r₂⟩, h₂, rfl, rfl⟩ := h
  exact ⟨g₁, r₁, g₂, h₁, h₂, rfl⟩

theorem seq_sound {m₁ m₂ : Matcher} (h₁ : Sound P m₁) (h₂ : Sound P m₂) :
    Sound P (seq m₁ m₂) := by
  intro s g r h
  obtain ⟨g₁, r₁, g₂, hm₁, hm₂, rfl⟩ := mem_seq h
  obtain ⟨hr₁, hg₁⟩ := h₁ s g₁ r₁ hm₁
  obtain ⟨hr₂, hg₂⟩ := h₂ r₁ g₂ r hm₂
  refine ⟨hr₂.trans hr₁, fun x hx => ?_⟩
  rcases List.mem_append.mp hx with hx | hx
  · exact hg₁ x hx
  · exact ⟨(hg₂ x hx).1.trans hr₁.isInfix, (hg₂ x hx).2⟩

theorem alt_sound {m₁ m₂ : Matcher} (h₁ : Sound P m₁) (h₂ : Sound P m₂) :
    Sound P (alt m₁ m₂) := by
  intro s g r h
  rcases List.mem_append.mp h with h | h
  · exact h₁ s g r h
  · exact h₂ s g r h

theorem opt_sound {n : Nat} {m : Matcher} (hP : n = 0 ∨ P []) (h : Sound P m) :
    Sound P (opt n m) := by
  intro s g r hm
  rcases List.mem_append.mp hm with hm | hm
  · exact h s g r hm
  · simp only [List.mem_singleton, Prod.mk.injEq] at hm
    obtain ⟨rfl, rfl⟩ := hm
    refine ⟨List.suffix_refl _, fun x hx => ?_⟩
    obtain ⟨hn, rfl⟩ := List.mem_replicate.mp hx
    exact ⟨List.nil_infix, hP.resolve_left (by omega)⟩

theorem mem_star {p : Char → Bool} {s r : GoString} {g : List GoString}
    (h : (g, r) ∈ star p s) :
    g = [] ∧ ∃ k, r = s.drop k ∧ ∀ c ∈ s.take k, p c = true := by
  simp only [star, List.mem_map, List.mem_reverse, List.mem_range, Prod.mk.injEq] at h
  obtain ⟨k, hk, rfl, rfl⟩ := h
  refine ⟨rfl, k, rfl, fun c hc => List.mem_takeWhile_imp (p := p) (l := s) ?_⟩
  have htake : s.take k = (s.takeWhile p).take k := by
    conv_rhs => rw [List.prefix_iff_eq_take.mp (List.takeWhile_prefix p)]
    rw [List.take_take, min_eq_left (by omega)]
  exact List.mem_of_mem_take (htake ▸ hc)

theorem star_sound (p : Char → Bool) : Sound P (star p) := by
  intro s g r h
  obtain ⟨rfl, k, rfl, -⟩ := mem_star h
  exact ⟨List.drop_suffix _ _, by simp⟩

theorem consumed_cons (c : Char) {s r : GoString} (h : r <:+ s) :
    consumed (c :: s) r = c :: consumed s r := by
  have := h.length_le
  rw [consumed, consumed, List.length_cons, Nat.sub_add_comm this, List.take_succ_cons]

theorem consumed_self (s : GoString) : consumed s s = [] := by
  simp [consumed]

theorem consumed_isPrefix (s r : GoString) : consumed s r <+: s :=
  List.take_prefix _ _

theorem mem_group {m : Matcher} {s r : GoString} {g : List GoString} (h : (g, r) ∈ group m s) :
    ∃ g', (g', r) ∈ m s ∧ g = consumed s r :: g' := by
  simp only [group, List.mem_map, Prod.mk.injEq] at h
  obtain ⟨⟨g', r'⟩, hm, rfl, rfl⟩ := h
  exact ⟨g', hm, rfl⟩

theorem word_sound (eq : Char → Char → Bool) (w : GoString) : Sound P (word eq w) := by
  induction w with
  | nil => exact empty_sound
  | cons c w ih => exact seq_sound (char_sound _) ih

theorem words_sound (eq : Char → Char → Bool) (ws : List GoString) : Sound P (words eq ws) := by
  induction ws with
  | nil => intro s g r h; cases h
  | cons w ws ih => exact alt_sound (word_sound eq w) ih

/-- The groups `FindStringSubmatch` reports come from one match of the pattern inside the
text. -/
theorem findSubmatch_sound {m : Matcher} (hm : Sound P m) {s : GoString} {ms : List GoString}
    (h : findSubmatch m s = some ms) : ∀ x ∈ ms.tail, x <:+: s ∧ P x := by
  induction s with
  | nil =>
    simp only [findSubmatch] at h
    split at h
    · rename_i g r' rest hm'
      cases h
      exact (hm [] g r' (hm' ▸ List.mem_cons_self _ _)).2
    · cases h
  | cons c t ih =>
    simp only [findSubmatch] at h
    split at h
    · rename_i g r' rest hm'
      cases h
      exact (hm _ g r' (hm' ▸ List.mem_cons_self _ _)).2
    · exact fun x hx => ⟨(ih h x hx).1.trans (List.suffix_cons c t).isInfix, (ih h x hx).2⟩

/- Inside the groups of the patterns stand plain patterns, which capture nothing; for them it is
enough to know which runes, or how many, a match consumes. -/

theorem consumed_append_self (x r : GoString) : consumed (x ++ r) r = x := by
  simp [consumed]

theorem consumed_trans {s r₁ r : GoString} (h₂ : r <:+ r₁) (h₁ : r₁ <:+ s) :
    consumed s r = consumed s r₁ ++ consumed r₁ r := by
  obtain ⟨x, rfl⟩ := h₂
  obtain ⟨y, rfl⟩ := h₁
  rw [consumed_append_self, consumed_append_self, ← List.append_assoc, consumed_append_self]

variable {p : Char → Bool}

/-- Every match of `m` captures nothing, leaves a suffix of the text and consumes at most `n`
runes. -/
def AtMost (n : Nat) (m : Matcher) : Prop :=
  ∀ s g r, (g, r) ∈ m s → g = [] ∧ r <:+ s ∧ (consumed s r).length ≤ n

theorem char_atMost (p : Char → Bool) : AtMost 1 (char p) := by
  intro s g r h
  obtain ⟨rfl, c, -, rfl⟩ := mem_char h
  rw [consumed_cons c (List.suffix_refl r), consumed_self]
  exact ⟨rfl, List.suffix_cons _ _, Nat.le_refl 1⟩

theorem seq_atMost {a b : Nat} {m₁ m₂ : Matcher} (h₁ : AtMost a m₁) (h₂ : AtMost b m₂) :
    AtMost (a + b) (seq m₁ m₂) := by
  intro s g r h
  obtain ⟨g₁, r₁, g₂, hm₁, hm₂, rfl⟩ := mem_seq h
  obtain ⟨rfl, hr₁, hl₁⟩ := h₁ s g₁ r₁ hm₁
  obtain ⟨rfl, hr₂, hl₂⟩ := h₂ r₁ g₂ r hm₂
  rw [consumed_trans hr₂ hr₁, List.length_append]
  exact ⟨rfl, hr₂.trans hr₁, Nat.add_le_add hl₁ hl₂⟩

theorem opt_atMost {a : Nat} {m : Matcher} (h : AtMost a m) : AtMost a (opt 0 m) := by
  intro s g r hm
  rcases List.mem_append.mp hm with hm | hm
  · exact h s g r hm
  · simp only [List.mem_singleton, Prod.mk.injEq] at hm
    obtain ⟨rfl, rfl⟩ := hm
    rw [consumed_self]
    exact ⟨rfl, List.suffix_refl _, Nat.zero_le a⟩

theorem count_atMost (p : Char → Bool) (n : Nat) : AtMost n (count p n) := by
  induction n with
  | zero =>
    intro s g r h
    simp only [count, empty, List.mem_singleton, Prod.mk.injEq] at h
    obtain ⟨rfl, rfl⟩ := h
    rw [consumed_self]
    exact ⟨rfl, List.suffix_refl _, Nat.le_refl 0⟩
  | succ n ih =>
    show AtMost (n + 1) (seq (char p) (count p n))
    rw [Nat.add_comm]
    exact seq_atMost (char_atMost p) ih

/-- A group around a plain pattern that consumes at most `n` runes captures a text that short. -/
theorem group_sound_of_atMost {n : Nat} {m : Matcher} (hc : AtMost n m)
    (hP : ∀ x : GoString, x.length ≤ n → P x) : Sound P (group m) := by
  intro s g r h
  obtain ⟨g', h', rfl⟩ := mem_group h
  obtain ⟨rfl, hr, hl⟩ := hc s g' r h'
  refine ⟨hr, fun x hx => ?_⟩
  obtain rfl := List.mem_singleton.mp hx
  exact ⟨(consumed_isPrefix s r).isInfix, hP _ hl⟩

/-- What holds of every value of two fallbacks holds of the value of the chain. -/
theorem orElse_forall {α : Type} {Q : α → Prop} {a b : Option α} (ha : ∀ x ∈ a, Q x)
    (hb : ∀ x ∈ b, Q x) : ∀ x ∈ (a <|> b), Q x := by
  cases a with
  | none => exact hb
  | some y => exact ha

theorem getD_of_forall {α : Type} {Q : α → Prop} {o : Option α} {d : α} (hd : Q d)
    (h : ∀ x ∈ o, Q x) : Q (o.getD d) := by
  cases o with
  | none => exact hd
  | some y => exact h y rfl

end Regexp

end GastownQueue
