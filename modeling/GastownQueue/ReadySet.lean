import GastownQueue.Dispatch

/-! The ready-set query of the dispatcher (`getReadyQueuedBeads` over `getReadyQueuedBeadsFrom`)
against the list its documentation describes: the beads of the directories that answered, in
order, without those the circuit breaker trips, each ID at its first occurrence, and an error
exactly when every directory failed. The `seen` map is filled only by beads that were kept, so a
bead tripped in one directory and listed again in another is kept from the second. -/

namespace GastownQueue

open Strings

/-- The beads of a list whose ID no earlier bead has. -/
def firstByID : List ReadyQueuedBead → List ReadyQueuedBead
  | [] => []
  | b :: bs => b :: (firstByID bs).filter (·.id ≠ b.id)

/-- The circuit breaker as documented: a bead whose description parses with the counter at
`maxDispatchFailures` or above. -/
def tripped (r : RawBead) : Bool :=
  match parseQueueMetadata r.description with
  | some meta => decide (maxDispatchFailures ≤ meta.dispatchFailures)
  | none => false

/-- A bead that is kept, with the target rig of its block, or `""` without one. -/
def keptBead (r : RawBead) : ReadyQueuedBead :=
  ⟨r.id, r.title, ((parseQueueMetadata r.description).map (·.targetRig)).getD [], r.description,
    r.labels⟩

/-- The directory listed its beads; a failed `bd ready` or unparsable output did not. -/
def BdReadyOutput.answered : BdReadyOutput → Bool
  | .beads _ => true
  | _ => false

/-- The beads of the directories that answered, in order, without the tripped ones. -/
def answeredBeads : List (GoString × BdReadyOutput) → List ReadyQueuedBead
  | [] => []
  | (_, .beads raw) :: rest => (raw.filter (!tripped ·)).map keptBead ++ answeredBeads rest
  | _ :: rest => answeredBeads rest

theorem readyQueuedBeadOf_eq (r : RawBead) :
    readyQueuedBeadOf r = if tripped r then none else some (keptBead r) := by
  unfold readyQueuedBeadOf tripped keptBead
  split <;> simp_all

theorem filterMap_readyQueuedBeadOf (raw : List RawBead) :
    raw.filterMap readyQueuedBeadOf = (raw.filter (!tripped ·)).map keptBead := by
  induction raw with
  | nil => rfl
  | cons r rs ih =>
    rw [List.filterMap_cons, readyQueuedBeadOf_eq, List.filter_cons]
    cases tripped r <;> simp [ih]

theorem firstByID_append (l₁ l₂ : List ReadyQueuedBead) :
    firstByID (l₁ ++ l₂) =
      firstByID l₁ ++ (firstByID l₂).filter (·.id ∉ l₁.map (·.id)) := by
  induction l₁ with
  | nil => simp [firstByID]
  | cons b bs ih =>
    rw [List.cons_append, firstByID, ih, firstByID, List.filter_append, List.filter_filter,
      List.cons_append]
    congr 2
    exact List.filter_congr fun x _ => by simp [Bool.and_comm]

theorem nodup_firstByID (l : List ReadyQueuedBead) : ((firstByID l).map (·.id)).Nodup := by
  induction l with
  | nil => exact List.nodup_nil
  | cons b bs ih =>
    rw [firstByID, List.map_cons, List.nodup_cons]
    refine ⟨fun h => ?_, (ih.sublist ((List.filter_sublist _).map _))⟩
    obtain ⟨x, hx, hxb⟩ := List.mem_map.mp h
    simp only [List.mem_filter, decide_eq_true_eq] at hx
    exact hx.2 hxb

namespace ReadyScan

theorem mem_seen_addBead (s : ReadyScan) (b : ReadyQueuedBead) (x : GoString) :
    x ∈ (addBead s b).seen ↔ x ∈ s.seen ∨ x = b.id := by
  unfold addBead
  split_ifs with h
  · exact ⟨.inl, fun h' => h'.elim id (· ▸ h)⟩
  · simp [or_comm]

theorem result_addBead (s : ReadyScan) (b : ReadyQueuedBead) :
    (addBead s b).result = s.result ++ [b].filter (·.id ∉ s.seen) := by
  unfold addBead
  split_ifs with h <;> simp [h]

/-- The loop over one directory's beads adds the first occurrences of the IDs not seen yet, and
sees every ID it went over. -/
theorem foldl_addBead (bs : List ReadyQueuedBead) (s : ReadyScan) :
    (bs.foldl addBead s).result = s.result ++ (firstByID bs).filter (·.id ∉ s.seen) ∧
      (∀ x, x ∈ (bs.foldl addBead s).seen ↔ x ∈ s.seen ∨ x ∈ bs.map (·.id)) ∧
      (bs.foldl addBead s).failCount = s.failCount := by
  induction bs generalizing s with
  | nil => simp [firstByID]
  | cons b bs ih =>
    obtain ⟨h1, h2, h3⟩ := ih (addBead s b)
    rw [List.foldl_cons]
    refine ⟨?_, fun x => ?_, ?_⟩
    · have hseen : (firstByID bs).filter (·.id ∉ (addBead s b).seen) =
          ((firstByID bs).filter (·.id ≠ b.id)).filter (·.id ∉ s.seen) := by
        rw [List.filter_filter]
        exact List.filter_congr fun x _ => by simp [mem_seen_addBead, Bool.and_comm]
      rw [h1, result_addBead, hseen, firstByID, List.filter_cons, List.filter_cons, List.filter_nil]
      split <;> simp
    · simp [h2, mem_seen_addBead, or_assoc]
    · rw [h3]; unfold addBead; split_ifs <;> rfl

/-- The loop over the directories: the beads of those that answered as one list, and one count
for each that failed. -/
theorem foldl_addDir (dirs : List (GoString × BdReadyOutput)) (s : ReadyScan) :
    (dirs.foldl addDir s).result =
        s.result ++ (firstByID (answeredBeads dirs)).filter (·.id ∉ s.seen) ∧
      (∀ x, x ∈ (dirs.foldl addDir s).seen ↔
        x ∈ s.seen ∨ x ∈ (answeredBeads dirs).map (·.id)) ∧
      (dirs.foldl addDir s).failCount = s.failCount + dirs.countP (!·.2.answered) := by
  induction dirs generalizing s with
  | nil => simp [answeredBeads, firstByID]
  | cons d rest ih =>
    obtain ⟨dir, out⟩ := d
    cases out with
    | beads raw =>
      have hdir : addDir s (dir, .beads raw) =
          ((raw.filter (!tripped ·)).map keptBead).foldl addBead s := by
        rw [addDir, getReadyQueuedBeadsFrom, filterMap_readyQueuedBeadOf]
      obtain ⟨b1, b2, b3⟩ := foldl_addBead ((raw.filter (!tripped ·)).map keptBead) s
      obtain ⟨h1, h2, h3⟩ := ih (((raw.filter (!tripped ·)).map keptBead).foldl addBead s)
      rw [List.foldl_cons, hdir, answeredBeads]
      refine ⟨?_, fun x => ?_, ?_⟩
      · rw [h1, b1, firstByID_append, List.filter_append, List.append_assoc, List.filter_filter]
        congr 2
        exact List.filter_congr fun x _ => by simp [b2, Bool.and_comm]
      · simp [h2, b2, or_assoc]
      · rw [h3, b3]; simp [BdReadyOutput.answered]
    | failed err | malformed err =>
      obtain ⟨h1, h2, h3⟩ := ih (addDir s (dir, _))
      simp only [List.foldl_cons, answeredBeads]
      refine ⟨h1, h2, ?_⟩
      rw [h3]; simp [addDir, getReadyQueuedBeadsFrom, BdReadyOutput.answered]; omega

end ReadyScan

/-- The list the documentation describes: the beads of the directories that answered, without
the tripped ones, each ID at its first occurrence. -/
def readySet (dirs : List (GoString × BdReadyOutput)) : List ReadyQueuedBead :=
  firstByID (answeredBeads dirs)

/-- **Ready-set query.** For every list of directories and what `bd ready` gives in each, the
query fails exactly when there are directories and all of them failed; otherwise it returns the
documented list. No two beads it returns share an ID. -/
theorem ready_set_query_spec (dirs : List (GoString × BdReadyOutput)) :
    ((∃ err, getReadyQueuedBeads dirs = .error err) ↔
        dirs ≠ [] ∧ ∀ d ∈ dirs, d.2.answered = false) ∧
      (¬(dirs ≠ [] ∧ ∀ d ∈ dirs, d.2.answered = false) →
        getReadyQueuedBeads dirs = .ok (readySet dirs)) ∧
      ∀ l, getReadyQueuedBeads dirs = .ok l → (l.map (·.id)).Nodup := by
  obtain ⟨h1, -, h3⟩ := ReadyScan.foldl_addDir dirs {}
  have hres : (dirs.foldl ReadyScan.addDir {}).result = readySet dirs := by
    rw [h1]; simp [readySet]
  have hall : dirs.countP (!·.2.answered) = dirs.length ↔
      ∀ d ∈ dirs, d.2.answered = false := by
    simp only [List.countP_eq_length, Bool.not_eq_true']
  have hfail : ((dirs.foldl ReadyScan.addDir {}).failCount = dirs.length ∧
      0 < (dirs.foldl ReadyScan.addDir {}).failCount) ↔
      dirs ≠ [] ∧ ∀ d ∈ dirs, d.2.answered = false := by
    rw [h3, Nat.zero_add]
    constructor
    · rintro ⟨he, hpos⟩; exact ⟨List.length_pos.mp (he ▸ hpos), hall.mp he⟩
    · rintro ⟨hne, hd⟩; exact ⟨hall.mpr hd, (hall.mpr hd).symm ▸ List.length_pos.mpr hne⟩
  unfold getReadyQueuedBeads
  dsimp only
  split_ifs with hc
  · exact ⟨iff_of_true ⟨_, rfl⟩ (hfail.mp hc), fun h => absurd (hfail.mp hc) h,
      fun l h => by cases h⟩
  · rw [hres]
    exact ⟨iff_of_false (fun ⟨_, h⟩ => by cases h) (fun h => hc (hfail.mpr h)), fun _ => rfl,
      fun l h => by cases h; exact nodup_firstByID _⟩

/-- A bead tripped in one directory is still taken from the next one that lists it. -/
example : getReadyQueuedBeads
    [("a".toList, .failed "exit status 1".toList),
     ("b".toList, .beads [⟨"gt-1".toList, [], "---gt:queue:v1---\ndispatch_failures: 3".toList,
       []⟩]),
     ("c".toList, .beads [⟨"gt-1".toList, [], [], []⟩])] =
      .ok [⟨"gt-1".toList, [], [], [], []⟩] :=
  rfl

end GastownQueue
