import GastownQueue.ResetDuration

/-! `readTranscript` of package `cmd` (`sling_dolt.go` and `usagelimit_cmd.go` hold identical
copies) and the `gt ratelimit record` and `gt usagelimit record` commands that pass its text to
the detectors. The transcripts of a work directory are in `~/.claude/projects/<path>`, the path
being the directory with its slashes turned into dashes and a leading dash dropped; the newest
`.json` file there is read. A file that `encoding/json` decodes gives the text of its messages,
each text followed by a newline; any other file gives its own text. The file system and the JSON
decoder are parameters: the listing of a project's directory, the data of a file in it, and the
messages a file's data decodes to. Modification times are nanoseconds from the zero
`time.Time`. -/

namespace GastownQueue

open Strings

/-- An entry of the transcript directory as `os.ReadDir` lists it: its name, whether it is a
directory, and the modification time `entry.Info()` gives, `none` when that fails. -/
structure DirEntry where
  name : GoString
  isDir : Bool
  modTime : Option Int
  deriving DecidableEq, Repr

/-- The time of an entry the scan looks at: a file named `*.json` whose `Info()` succeeds. -/
def transcriptTime (entry : DirEntry) : Option Int :=
  if entry.isDir || !hasSuffix entry.name ".json".toList then none else entry.modTime

/-- One turn of the scan: a transcript whose time is after (`After`) the one kept replaces it. -/
def latestStep (acc : Option GoString × Int) (entry : DirEntry) : Option GoString × Int :=
  match transcriptTime entry with
  | some t => if t > acc.2 then (some entry.name, t) else acc
  | none => acc

/-- `latestFile`, by its name in the directory: the scan from no file at the zero time. -/
def latestTranscript (entries : List DirEntry) : Option GoString :=
  (entries.foldl latestStep (none, 0)).1

/-- The scan keeps what it started with when no transcript is after it; otherwise it ends on the
first transcript of greatest time. -/
theorem foldl_latestStep (entries : List DirEntry) (acc : Option GoString × Int) :
    (entries.foldl latestStep acc = acc ∧
      ∀ e ∈ entries, ∀ t, transcriptTime e = some t → t ≤ acc.2) ∨
    ∃ pre e post t, entries = pre ++ e :: post ∧ transcriptTime e = some t ∧ acc.2 < t ∧
      entries.foldl latestStep acc = (some e.name, t) ∧
      (∀ e' ∈ pre, ∀ t', transcriptTime e' = some t' → t' < t) ∧
      (∀ e' ∈ post, ∀ t', transcriptTime e' = some t' → t' ≤ t) := by
  induction entries generalizing acc with
  | nil => exact .inl ⟨rfl, fun _ h => absurd h (List.not_mem_nil _)⟩
  | cons x xs ih =>
      simp only [List.foldl_cons]
      -- `x` is skipped when it is no transcript or not after `acc`; then `acc` goes on.
      have skip : ∀ tx, transcriptTime x = some tx → tx ≤ acc.2 → latestStep acc x = acc := by
        intro tx hx hle
        simp only [latestStep, hx, GT.gt]
        exact if_neg (Int.not_lt.mpr hle)
      cases hx : transcriptTime x with
      | none =>
          have hs : latestStep acc x = acc := by simp only [latestStep, hx]
          rw [hs]
          refine (ih acc).imp (fun ⟨h, hall⟩ => ⟨h, ?_⟩) fun ⟨pre, e, post, t, h⟩ => ?_
          · intro e he t ht
            rcases List.mem_cons.mp he with rfl | he
            · rw [hx] at ht; cases ht
            · exact hall e he t ht
          · refine ⟨x :: pre, e, post, t, by rw [h.1]; rfl, h.2.1, h.2.2.1, h.2.2.2.1, ?_,
              h.2.2.2.2.2⟩
            intro e' he' t' ht'
            rcases List.mem_cons.mp he' with rfl | he'
            · rw [hx] at ht'; cases ht'
            · exact h.2.2.2.2.1 e' he' t' ht'
      | some tx =>
          by_cases hlt : acc.2 < tx
          · have hs : latestStep acc x = (some x.name, tx) := by
              simp only [latestStep, hx, GT.gt, if_pos hlt]
            rw [hs]
            rcases ih (some x.name, tx) with ⟨h, hall⟩ | ⟨pre, e, post, t, h⟩
            · exact .inr ⟨[], x, xs, tx, rfl, hx, hlt, h, fun _ h => absurd h (List.not_mem_nil _),
                hall⟩
            · refine .inr ⟨x :: pre, e, post, t, by rw [h.1]; rfl, h.2.1, by have := h.2.2.1; omega,
                h.2.2.2.1, ?_, h.2.2.2.2.2⟩
              intro e' he' t' ht'
              rcases List.mem_cons.mp he' with rfl | he'
              · rw [hx] at ht'; cases ht'; exact h.2.2.1
              · exact h.2.2.2.2.1 e' he' t' ht'
          · rw [skip tx hx (Int.not_lt.mp hlt)]
            refine (ih acc).imp (fun ⟨h, hall⟩ => ⟨h, ?_⟩) fun ⟨pre, e, post, t, h⟩ => ?_
            · intro e he t ht
              rcases List.mem_cons.mp he with rfl | he
              · rw [hx] at ht; cases ht; exact Int.not_lt.mp hlt
              · exact hall e he t ht
            · refine ⟨x :: pre, e, post, t, by rw [h.1]; rfl, h.2.1, h.2.2.1, h.2.2.2.1, ?_,
                h.2.2.2.2.2⟩
              intro e' he' t' ht'
              rcases List.mem_cons.mp he' with rfl | he'
              · rw [hx] at ht'; cases ht'; have := h.2.2.1; omega
              · exact h.2.2.2.2.1 e' he' t' ht'

/-- **The newest transcript is read.** Of the directory's `.json` files whose `Info()` succeeds,
`readTranscript` picks the first, in directory order, of greatest modification time; it finds
none exactly when no such file is dated after the zero time. -/
theorem latest_transcript_first_newest (entries : List DirEntry) :
    (latestTranscript entries = none ∧ ∀ e ∈ entries, ∀ t, transcriptTime e = some t → t ≤ 0) ∨
    ∃ pre e post t, entries = pre ++ e :: post ∧ transcriptTime e = some t ∧ 0 < t ∧
      latestTranscript entries = some e.name ∧
      (∀ e' ∈ pre, ∀ t', transcriptTime e' = some t' → t' < t) ∧
      (∀ e' ∈ post, ∀ t', transcriptTime e' = some t' → t' ≤ t) := by
  unfold latestTranscript
  rcases foldl_latestStep entries (none, 0) with ⟨h, hall⟩ | ⟨pre, e, post, t, h₁, h₂, h₃, h₄, h₅⟩
  · exact .inl ⟨by rw [h], hall⟩
  · exact .inr ⟨pre, e, post, t, h₁, h₂, h₃, by rw [h₄], h₅⟩

end GastownQueue
