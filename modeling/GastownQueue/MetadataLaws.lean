import GastownQueue.Metadata

/-! Laws of the metadata codec. A formatted line is read back as the trimmed value of its
field, a block appended after a stripped description is the first one the parser finds, and so
parsing a description written by any of the three writers gives back the record that was
formatted, with its text fields trimmed. -/

namespace GastownQueue

open Strings Strconv

theorem trimSpace_fieldLine (k : MetadataKey) (v : GoString) :
    trimSpace (fieldLine k v) =
      if ∀ c ∈ v, isSpace c = true then k.name ++ [':']
      else k.name ++ ':' :: ' ' :: v.rdropWhile isSpace := by
  obtain ⟨hne, hk⟩ := k.name_spec
  obtain ⟨c, cs, hcs⟩ := List.exists_cons_of_ne_nil hne
  have hkey : ∀ x ∈ k.name ++ [':'], isSpace x = false := by
    intro x hx
    rcases List.mem_append.mp hx with hx | hx
    · exact (hk x hx).2.2
    · simp only [List.mem_singleton] at hx; subst hx; decide
  have hdrop : (fieldLine k v).dropWhile isSpace = fieldLine k v := by
    simp only [fieldLine, hcs, List.cons_append]
    exact List.dropWhile_cons_of_neg (by simp [(hk c (by simp [hcs])).2.2])
  have hsplit : fieldLine k v = (k.name ++ [':']) ++ ' ' :: v := by simp [fieldLine, keySeparator]
  rw [trimSpace, hdrop, hsplit, rdropWhile_append_of_forall_neg hkey]
  split_ifs with hall
  · rw [show ' ' :: v = [' '] ++ v from rfl, rdropWhile_append_of_forall hall]
    simp [List.rdropWhile_singleton, show isSpace ' ' = true by decide]
  · push_neg at hall
    obtain ⟨x, hx, hsx⟩ := hall
    rw [show ' ' :: v = [' '] ++ v from rfl,
      rdropWhile_append_of_exists ⟨x, hx, by simpa using hsx⟩]
    simp

theorem splitN_key_colon (k : MetadataKey) :
    splitN (k.name ++ [':']) keySeparator 2 = [k.name ++ [':']] := by
  have hidx : index (k.name ++ [':']) keySeparator = none := by
    rw [index_append_of_not_mem (show keySeparator = ':' :: [' '] from rfl)
      (fun h => (k.name_spec.2 _ h).1 rfl)]
    rfl
  simp only [splitN, hidx]

theorem splitN_key_value (k : MetadataKey) (w : GoString) :
    splitN (k.name ++ ':' :: ' ' :: w) keySeparator 2 = [k.name, w] := by
  have hidx : index (k.name ++ ':' :: ' ' :: w) keySeparator = some k.name.length := by
    rw [index_append_of_not_mem (show keySeparator = ':' :: [' '] from rfl)
      (fun h => (k.name_spec.2 _ h).1 rfl),
      index_eq_some_zero (show keySeparator <+: ':' :: ' ' :: w from List.prefix_append [':', ' '] w)]
    simp
  simp only [splitN, hidx]
  simp [keySeparator]

theorem key_line_ne_delimiter (k : MetadataKey) (r : GoString) :
    k.name ++ r ≠ queueMetadataDelimiter := by
  obtain ⟨hne, hk⟩ := k.name_spec
  obtain ⟨c, cs, hcs⟩ := List.exists_cons_of_ne_nil hne
  have hc : c ≠ '-' := (hk c (by simp [hcs])).2.1
  rw [hcs, List.cons_append]
  intro h
  exact hc (List.cons.inj h).1

/-- A formatted line applies its key to the trimmed value, or is skipped when the value is
blank. -/
theorem parseLine_fieldLine (k : MetadataKey) (v : GoString) (acc : QueueMetadata × List GoString) :
    parseLine acc (fieldLine k v) =
      some (if ∀ c ∈ v, isSpace c = true then acc else applyField k.name (trimSpace v) acc) := by
  have hkey := key_line_ne_delimiter k
  have hkeyTrim : trimSpace k.name = k.name :=
    trimSpace_of_forall_neg (fun c hc => (k.name_spec.2 c hc).2.2)
  by_cases hall : ∀ c ∈ v, isSpace c = true
  · have hline : trimSpace (fieldLine k v) = k.name ++ [':'] := by
      rw [trimSpace_fieldLine, if_pos hall]
    simp only [parseLine, hline, if_pos hall, List.append_eq_nil, List.cons_ne_nil, and_false,
      if_false, if_neg (hkey _), splitN_key_colon]
  · have hline : trimSpace (fieldLine k v) = k.name ++ ':' :: ' ' :: v.rdropWhile isSpace := by
      rw [trimSpace_fieldLine, if_neg hall]
    simp only [parseLine, hline, if_neg hall, List.append_eq_nil, List.cons_ne_nil, and_false,
      if_false, if_neg (hkey _), splitN_key_value, hkeyTrim, trimSpace_rdropWhile]

theorem applyField_text {k : MetadataKey} (hk : k.IsText = true) (val : GoString)
    (acc : QueueMetadata × List GoString) :
    applyField k.name val acc = (acc.1.setText k val, acc.2) := by
  cases k <;> cases hk <;> simp only [applyField, MetadataKey.ofName?_name] <;> rfl

theorem applyField_flag {k : MetadataKey} (hk : k.IsFlag = true) (val : GoString)
    (acc : QueueMetadata × List GoString) :
    applyField k.name val acc = (acc.1.setFlag k (val == "true".toList), acc.2) := by
  cases k <;> cases hk <;> simp only [applyField, MetadataKey.ofName?_name] <;> rfl

theorem applyField_var (val : GoString) (acc : QueueMetadata × List GoString) :
    applyField MetadataKey.var.name val acc = (acc.1, acc.2 ++ [val]) := by
  simp [applyField, MetadataKey.ofName?_name]

theorem applyField_dispatchFailures (n : GoInt) (acc : QueueMetadata × List GoString) :
    applyField MetadataKey.dispatchFailures.name (itoa n) acc =
      ({ acc.1 with dispatchFailures := n }, acc.2) := by
  simp [applyField, MetadataKey.ofName?_name, atoi_itoa]

namespace QueueMetadata

/-- The record that parsing a formatted block gives back: every text field trimmed, `Vars`
rebuilt from its entries, and a counter that is not positive read as `0`. -/
def normalize (m : QueueMetadata) : QueueMetadata :=
  { m with
    targetRig := trimSpace m.targetRig, formula := trimSpace m.formula, args := trimSpace m.args,
    vars := join (varEntries m.vars) "\n".toList, enqueuedAt := trimSpace m.enqueuedAt,
    merge := trimSpace m.merge, convoy := trimSpace m.convoy, baseBranch := trimSpace m.baseBranch,
    account := trimSpace m.account, agent := trimSpace m.agent,
    lastFailure := trimSpace m.lastFailure,
    dispatchFailures := if 0 < m.dispatchFailures.val then m.dispatchFailures else 0 }

def SingleLine (m : QueueMetadata) : Prop :=
  ∀ v ∈ m.textFields, '\n' ∉ v

/-- A record the line format carries unchanged: one-line trimmed text fields, `Vars` already the
join of its entries, and a counter that is not negative. -/
structure WellFormed (m : QueueMetadata) : Prop where
  text : ∀ v ∈ m.textFields, '\n' ∉ v ∧ trimSpace v = v
  vars : m.vars = join (splitVars m.vars) "\n".toList
  dispatchFailures : 0 ≤ m.dispatchFailures.val

theorem setText_nil {m : QueueMetadata} {k : MetadataKey} (hk : k.IsText = true)
    (hm : m.getText k = []) : m.setText k [] = m := by
  cases k <;> cases hk <;> exact hm ▸ rfl

theorem setFlag_false {m : QueueMetadata} {k : MetadataKey} (hm : m.getFlag k = false) :
    m.setFlag k false = m := by
  cases k <;> first | rfl | exact hm ▸ rfl

end QueueMetadata

theorem splitVars_eq_varEntries (vars : GoString) : splitVars vars = varEntries vars := by
  unfold splitVars; split_ifs with h
  · subst h; rfl
  · rfl

theorem varEntries_spec {vars e : GoString} (h : e ∈ varEntries vars) :
    e ≠ [] ∧ trimSpace e = e ∧ '\n' ∉ e := by
  simp only [varEntries, List.mem_filter, List.mem_map, decide_eq_true_eq] at h
  obtain ⟨⟨piece, hpiece, rfl⟩, hne⟩ := h
  exact ⟨hne, trimSpace_trimSpace piece,
    fun hn => not_mem_of_mem_split hpiece (mem_of_mem_trimSpace hn)⟩

/-- Joining entries with newlines and splitting them again gives the entries back. -/
theorem varEntries_join {es : List GoString} (h : ∀ e ∈ es, e ≠ [] ∧ '\n' ∉ e ∧ trimSpace e = e) :
    varEntries (join es "\n".toList) = es := by
  rcases es with _ | ⟨e, es⟩
  · rfl
  · have hmap : (e :: es).map trimSpace = e :: es := by
      conv_rhs => rw [← List.map_id (e :: es)]
      exact List.map_congr_left (fun x hx => (h x hx).2.2)
    rw [varEntries, show "\n".toList = ['\n'] from rfl,
      split_join (fun p hp => (h p hp).2.1) (List.cons_ne_nil e es), hmap, List.filter_eq_self]
    intro x hx
    simpa using (h x hx).1

theorem parseLines_cons_of_parseLine {raw : GoString} {rest : List GoString}
    {acc acc' : QueueMetadata × List GoString} (h : parseLine acc raw = some acc') :
    parseLines (raw :: rest) acc = parseLines rest acc' := by
  simp [parseLines, h]

theorem parseLines_stringLine {k : MetadataKey} (hk : k.IsText = true) {m : QueueMetadata}
    (hm : m.getText k = []) (v : GoString) (vs rest : List GoString) :
    parseLines (stringLine k v ++ rest) (m, vs) =
      parseLines rest (m.setText k (trimSpace v), vs) := by
  unfold stringLine
  split_ifs with hv
  · subst hv
    rw [List.nil_append, show trimSpace [] = [] from rfl, QueueMetadata.setText_nil hk hm]
  · rw [List.singleton_append, parseLines_cons_of_parseLine (parseLine_fieldLine k v _)]
    split_ifs with hall
    · rw [trimSpace_of_forall hall, QueueMetadata.setText_nil hk hm]
    · rw [applyField_text hk]

theorem parseLines_boolLine {k : MetadataKey} (hk : k.IsFlag = true) {m : QueueMetadata}
    (hm : m.getFlag k = false) (b : Bool) (vs rest : List GoString) :
    parseLines (boolLine k b ++ rest) (m, vs) = parseLines rest (m.setFlag k b, vs) := by
  cases b
  · simp [boolLine, QueueMetadata.setFlag_false hm]
  · have htrue : trimSpace "true".toList = "true".toList := by decide
    rw [boolLine, if_pos rfl, List.singleton_append,
      parseLines_cons_of_parseLine (parseLine_fieldLine k _ _), if_neg (by decide), htrue,
      applyField_flag hk]
    rfl

theorem parseLines_varLines {es : List GoString} (h : ∀ e ∈ es, e ≠ [] ∧ trimSpace e = e)
    (m : QueueMetadata) (vs rest : List GoString) :
    parseLines (es.map (fieldLine .var) ++ rest) (m, vs) = parseLines rest (m, vs ++ es) := by
  induction es generalizing vs with
  | nil => simp
  | cons e es ih =>
      obtain ⟨hne, htrim⟩ := h e (List.mem_cons_self _ _)
      have hall : ¬ ∀ c ∈ e, isSpace c = true := fun hall =>
        hne (by rw [← htrim, trimSpace_of_forall hall])
      rw [List.map_cons, List.cons_append, parseLines_cons_of_parseLine (parseLine_fieldLine _ _ _),
        if_neg hall, htrim, applyField_var, ih (fun x hx => h x (List.mem_cons_of_mem _ hx))]
      simp

theorem itoa_spec {n : GoInt} (hn : 0 < n.val) :
    itoa n ≠ [] ∧ ∀ c ∈ itoa n, isSpace c = false := by
  obtain ⟨hne, hall, -⟩ := toDigits_spec n.val.natAbs
  simp only [itoa, if_neg (show ¬ n.val < 0 by omega)]
  exact ⟨hne, fun c hc => isSpace_of_isDigit (List.all_eq_true.mp hall c hc)⟩

theorem parseLines_failuresLine {m : QueueMetadata} (hm : m.dispatchFailures = 0) (n : GoInt)
    (vs rest : List GoString) :
    parseLines ((if 0 < n.val then [fieldLine .dispatchFailures (itoa n)] else []) ++ rest) (m, vs) =
      parseLines rest ({ m with dispatchFailures := if 0 < n.val then n else 0 }, vs) := by
  split_ifs with hn
  · obtain ⟨hne, hdig⟩ := itoa_spec hn
    have hall : ¬ ∀ c ∈ itoa n, isSpace c = true := fun hall => by
      obtain ⟨c, cs, hcs⟩ := List.exists_cons_of_ne_nil hne
      have h1 := hall c (by simp [hcs])
      have h2 := hdig c (by simp [hcs])
      simp_all
    rw [List.singleton_append, parseLines_cons_of_parseLine (parseLine_fieldLine _ _ _),
      if_neg hall, trimSpace_of_forall_neg hdig, applyField_dispatchFailures]
  · rw [List.nil_append, ← hm]

/-- The loop over a formatted block builds the normalized record and the `var` entries. -/
theorem parseLines_metadataLines (m : QueueMetadata) :
    parseLines (metadataLines m) ({}, []) = ({ m.normalize with vars := [] }, varEntries m.vars) := by
  have hvars := fun e (he : e ∈ varEntries m.vars) => (varEntries_spec he).imp_right And.left
  rw [metadataLines, ← List.append_nil (stringLine .lastFailure m.lastFailure)]
  simp only [List.append_assoc]
  rw [parseLines_stringLine (k := .targetRig) rfl, parseLines_stringLine (k := .formula) rfl,
    parseLines_stringLine (k := .args) rfl, parseLines_varLines hvars,
    parseLines_stringLine (k := .enqueuedAt) rfl, parseLines_stringLine (k := .merge) rfl,
    parseLines_stringLine (k := .convoy) rfl, parseLines_stringLine (k := .baseBranch) rfl,
    parseLines_boolLine (k := .noMerge) rfl, parseLines_stringLine (k := .account) rfl,
    parseLines_stringLine (k := .agent) rfl, parseLines_boolLine (k := .hookRawBead) rfl,
    parseLines_boolLine (k := .owned) rfl, parseLines_failuresLine,
    parseLines_stringLine (k := .lastFailure) rfl]
  all_goals rfl

theorem fieldLine_newline_free (k : MetadataKey) {v : GoString} (hv : '\n' ∉ v) :
    '\n' ∉ fieldLine k v := by
  simp only [fieldLine, keySeparator, List.mem_append, not_or]
  refine ⟨⟨fun h => ?_, by decide⟩, hv⟩
  have := (k.name_spec.2 _ h).2.2
  revert this; decide

theorem metadataLines_newline_free {m : QueueMetadata} (hm : m.SingleLine) :
    ∀ l ∈ metadataLines m, '\n' ∉ l := by
  have hs : ∀ k v, '\n' ∉ v → ∀ l ∈ stringLine k v, '\n' ∉ l := fun k v hv l hl => by
    unfold stringLine at hl
    split_ifs at hl
    · simp at hl
    · rw [List.mem_singleton.mp hl]; exact fieldLine_newline_free k hv
  have hb : ∀ k b, ∀ l ∈ boolLine k b, '\n' ∉ l := fun k b l hl => by
    unfold boolLine at hl
    split_ifs at hl
    · rw [List.mem_singleton.mp hl]; exact fieldLine_newline_free k (by decide)
    · simp at hl
  have hf : ∀ l ∈ (if 0 < m.dispatchFailures.val then
      [fieldLine .dispatchFailures (itoa m.dispatchFailures)] else []), '\n' ∉ l := fun l hl => by
    split_ifs at hl with hn
    · rw [List.mem_singleton.mp hl]
      exact fieldLine_newline_free _ fun h => absurd ((itoa_spec hn).2 _ h) (by decide)
    · simp at hl
  have hv : ∀ l ∈ (varEntries m.vars).map (fieldLine .var), '\n' ∉ l := fun l hl => by
    obtain ⟨e, he, rfl⟩ := List.mem_map.mp hl
    exact fieldLine_newline_free _ (varEntries_spec he).2.2
  simp only [QueueMetadata.SingleLine, QueueMetadata.textFields, List.forall_mem_cons,
    List.not_mem_nil, false_implies, implies_true, and_true] at hm
  obtain ⟨h1, h2, h3, h4, h5, h6, h7, h8, h9, h10⟩ := hm
  simp only [metadataLines, List.forall_mem_append]
  exact ⟨⟨⟨⟨⟨⟨⟨⟨⟨⟨⟨⟨⟨⟨hs _ _ h1, hs _ _ h2⟩, hs _ _ h3⟩, hv⟩, hs _ _ h4⟩, hs _ _ h5⟩, hs _ _ h6⟩,
    hs _ _ h7⟩, hb _ _⟩, hs _ _ h8⟩, hs _ _ h9⟩, hb _ _⟩, hb _ _⟩, hf⟩, hs _ _ h10⟩

theorem formatQueueMetadata_eq (m : QueueMetadata) :
    formatQueueMetadata m = queueMetadataDelimiter ++
      if metadataLines m = [] then [] else '\n' :: join (metadataLines m) ['\n'] := by
  rw [formatQueueMetadata, join_cons, show "\n".toList = ['\n'] from rfl, List.singleton_append]

theorem delimiter_prefix_format (m : QueueMetadata) :
    queueMetadataDelimiter <+: formatQueueMetadata m := by
  rw [formatQueueMetadata_eq]; exact List.prefix_append _ _

/-- The section after the delimiter of a formatted block is read as its lines. -/
theorem parseLines_formatted_body {m : QueueMetadata} (hm : m.SingleLine) :
    parseLines (split ((formatQueueMetadata m).drop queueMetadataDelimiter.length) '\n') ({}, []) =
      ({ m.normalize with vars := [] }, varEntries m.vars) := by
  have hempty : ∀ acc : QueueMetadata × List GoString, parseLine acc [] = some acc := fun _ => rfl
  rw [formatQueueMetadata_eq, List.drop_left, ← parseLines_metadataLines m]
  split_ifs with h
  · rw [h]; rfl
  · rw [split_cons_sep, split_join (metadataLines_newline_free hm) h,
      parseLines_cons_of_parseLine (hempty _)]

theorem index_withMetadataBlock {s block : GoString} (hs : index s queueMetadataDelimiter = none)
    (hblock : queueMetadataDelimiter <+: block) :
    index (withMetadataBlock s block) queueMetadataDelimiter =
      some (if s = [] then 0 else s.length + 1) := by
  unfold withMetadataBlock
  split_ifs with h
  · simpa using index_eq_some_zero hblock
  · rw [List.append_assoc, show "\n".toList ++ block = '\n' :: block from rfl,
      index_append_cons hs (by decide), index_eq_some_zero hblock]
    simp

theorem drop_withMetadataBlock (s block : GoString) :
    (withMetadataBlock s block).drop ((if s = [] then 0 else s.length + 1) + queueMetadataDelimiter.length) =
      block.drop queueMetadataDelimiter.length := by
  unfold withMetadataBlock
  split_ifs with h
  · simp
  · rw [show s.length + 1 = (s ++ "\n".toList).length by simp, List.drop_append]

/-- A description written by any of the three writers parses to the normalized record. -/
theorem parseQueueMetadata_withMetadataBlock {s : GoString}
    (hs : index s queueMetadataDelimiter = none) {m : QueueMetadata} (hm : m.SingleLine) :
    parseQueueMetadata (withMetadataBlock s (formatQueueMetadata m)) = some m.normalize := by
  simp only [parseQueueMetadata, index_withMetadataBlock hs (delimiter_prefix_format m),
    drop_withMetadataBlock, parseLines_formatted_body hm]
  split_ifs with hv
  · rfl
  · have : varEntries m.vars = [] := List.eq_nil_of_length_eq_zero (by omega)
    simp only [QueueMetadata.normalize, this]
    rfl

theorem stripQueueMetadata_withMetadataBlock {s block : GoString}
    (hs : index s queueMetadataDelimiter = none) (hblock : queueMetadataDelimiter <+: block) :
    stripQueueMetadata (withMetadataBlock s block) = trimRight s "\n".toList := by
  simp only [stripQueueMetadata, index_withMetadataBlock hs hblock]
  unfold withMetadataBlock
  split_ifs with h
  · subst h; rfl
  · rw [List.append_assoc, List.take_append_eq_append_take, List.take_of_length_le (by simp),
      show s.length + 1 - s.length = 1 by omega]
    simp [trimRight, List.take_one, List.rdropWhile_concat_pos]

/-- A stripped description holds no delimiter. -/
theorem index_stripQueueMetadata (d : GoString) :
    index (stripQueueMetadata d) queueMetadataDelimiter = none := by
  unfold stripQueueMetadata
  split
  · assumption
  · rename_i i hi
    exact index_eq_none_of_prefix (List.rdropWhile_prefix _ _) (index_take (by decide) hi)

theorem parseQueueMetadata_eq_none_iff (d : GoString) :
    parseQueueMetadata d = none ↔ index d queueMetadataDelimiter = none := by
  unfold parseQueueMetadata
  split <;> simp_all

theorem stripQueueMetadata_of_index_none {d : GoString}
    (h : index d queueMetadataDelimiter = none) : stripQueueMetadata d = d := by
  rw [stripQueueMetadata, h]

/-- With a block, stripping shortens the description: what is kept ends before the
delimiter. -/
theorem length_stripQueueMetadata_lt {d : GoString} {i : Nat}
    (h : index d queueMetadataDelimiter = some i) : (stripQueueMetadata d).length < d.length := by
  have hlen := (prefix_drop_of_index h).length_le
  have hdelim : queueMetadataDelimiter.length = 17 := rfl
  rw [stripQueueMetadata, h]
  calc (trimRight (d.take i) "\n".toList).length ≤ (d.take i).length :=
        (List.rdropWhile_prefix _ _).length_le
    _ < d.length := by simp only [List.length_take, List.length_drop] at hlen ⊢; omega

/-- Stripping leaves a description alone exactly when it has no block. -/
theorem stripQueueMetadata_eq_self_iff (d : GoString) :
    stripQueueMetadata d = d ↔ parseQueueMetadata d = none := by
  rw [parseQueueMetadata_eq_none_iff]
  cases h : index d queueMetadataDelimiter with
  | none => exact iff_of_true (stripQueueMetadata_of_index_none h) rfl
  | some i =>
    exact iff_of_false (fun he => (length_stripQueueMetadata_lt h).ne (congrArg List.length he))
      (by simp)

theorem QueueMetadata.WellFormed.singleLine {m : QueueMetadata} (hm : m.WellFormed) :
    m.SingleLine :=
  fun v hv => (hm.text v hv).1

theorem QueueMetadata.WellFormed.normalize_eq {m : QueueMetadata} (hm : m.WellFormed) :
    m.normalize = m := by
  obtain ⟨htext, hvars, hdf⟩ := hm
  simp only [QueueMetadata.textFields, List.forall_mem_cons, List.not_mem_nil, false_implies,
    implies_true, and_true] at htext
  obtain ⟨h1, h2, h3, h4, h5, h6, h7, h8, h9, h10⟩ := htext
  have hdf' : (if 0 < m.dispatchFailures.val then m.dispatchFailures else 0) = m.dispatchFailures := by
    split_ifs with h
    · rfl
    · exact GoInt.ext (by simp; omega)
  rw [splitVars_eq_varEntries] at hvars
  rw [QueueMetadata.normalize, h1.2, h2.2, h3.2, h4.2, h5.2, h6.2, h7.2, h8.2, h9.2, h10.2, hdf',
    ← hvars]

/-- The embedding law: re-attaching a well-formed record to any description, as the writers do,
parses back to that record and strips back to the old text. -/
theorem metadata_embedding_law (d : GoString) (m : QueueMetadata) (hm : m.WellFormed) :
    parseQueueMetadata (withMetadataBlock (stripQueueMetadata d) (formatQueueMetadata m)) = some m ∧
      stripQueueMetadata (withMetadataBlock (stripQueueMetadata d) (formatQueueMetadata m)) =
        trimRight (stripQueueMetadata d) "\n".toList :=
  ⟨by rw [parseQueueMetadata_withMetadataBlock (index_stripQueueMetadata d) hm.singleLine,
      hm.normalize_eq],
    stripQueueMetadata_withMetadataBlock (index_stripQueueMetadata d) (delimiter_prefix_format m)⟩

/-- A record with two variables and a failure counter, re-attached to a description that
already carries an older block. -/
def sampleMetadata : QueueMetadata :=
  { targetRig := "r".toList, vars := "a=1\nb=2".toList, dispatchFailures := 2,
    lastFailure := "boom".toList }

theorem metadata_embedding_law_sample :
    sampleMetadata.WellFormed ∧
      parseQueueMetadata (withMetadataBlock
          (stripQueueMetadata "Fix the build\n---gt:queue:v1---\ntarget_rig: old".toList)
          (formatQueueMetadata sampleMetadata)) = some sampleMetadata ∧
      stripQueueMetadata (withMetadataBlock
          (stripQueueMetadata "Fix the build\n---gt:queue:v1---\ntarget_rig: old".toList)
          (formatQueueMetadata sampleMetadata)) =
        trimRight (stripQueueMetadata "Fix the build\n---gt:queue:v1---\ntarget_rig: old".toList)
          "\n".toList :=
  have hwf : sampleMetadata.WellFormed := ⟨by decide, by decide, by decide⟩
  ⟨hwf, metadata_embedding_law _ sampleMetadata hwf⟩

/- The writers format records whose other fields can hold any text, an error message of several
lines among them. A value the parser assigns is the rest of a trimmed line after `": "`, so it is
never blank, and a target rig read from the first line of a block stays set to a line. -/

/-- The value of a `key: value` line is the text after its first `": "`. -/
theorem splitN_two_eq {s k v : GoString} (h : splitN s keySeparator 2 = [k, v]) :
    ∃ i, index s keySeparator = some i ∧ v = s.drop (i + 2) := by
  unfold splitN at h
  split at h
  · simp at h
  · rename_i i hi
    simp only [splitN, List.cons.injEq, and_true] at h
    exact ⟨i, hi, h.2.symm⟩

/-- In a line that ends in a rune other than a space, the value after the first `": "` is not
blank. -/
theorem value_ne_nil_of_rdropWhile {line k v : GoString} (hfix : line.rdropWhile isSpace = line)
    (h : splitN line keySeparator 2 = [k, v]) : trimSpace v ≠ [] := by
  obtain ⟨i, hi, rfl⟩ := splitN_two_eq h
  intro hnil
  obtain ⟨t, ht⟩ := prefix_drop_of_index hi
  have hdrop : line.drop (i + 2) = t := by
    rw [← List.drop_drop, ← ht]; rfl
  have hsplit : line = (line.take i ++ [':']) ++ ' ' :: line.drop (i + 2) := by
    rw [hdrop]
    conv_lhs => rw [← List.take_append_drop i line, ← ht]
    simp [keySeparator]
  have hall : ∀ c ∈ ' ' :: line.drop (i + 2), isSpace c = true := by
    simpa using ⟨by decide, forall_isSpace_of_trimSpace_eq_nil hnil⟩
  have hr := rdropWhile_append_of_forall (l := line.take i ++ [':']) hall
  rw [← hsplit, hfix,
    List.rdropWhile_concat_neg isSpace _ _ (show ¬ isSpace ':' = true by decide)] at hr
  have := hr.symm.trans hsplit
  simp at this

/-- A value `ParseQueueMetadata` can assign from a line: a non-empty trimmed line. -/
def LineValue (v : GoString) : Prop :=
  v ≠ [] ∧ '\n' ∉ v ∧ trimSpace v = v

instance : DecidablePred LineValue := fun _ => inferInstanceAs (Decidable (_ ∧ _))

theorem applyField_targetRig (key val : GoString) (acc : QueueMetadata × List GoString) :
    (applyField key val acc).1.targetRig = acc.1.targetRig ∨
      (applyField key val acc).1.targetRig = val := by
  unfold applyField
  split
  · exact .inl rfl
  · exact .inl rfl
  · exact .inl rfl
  · split <;> exact .inl rfl
  · rename_i k _ _ _ _ _
    split_ifs
    · cases k <;> exact .inl rfl
    · cases k <;> first | exact .inr rfl | exact .inl rfl
  · exact .inl rfl

/-- One line sets the target rig to a non-empty trimmed line, or leaves it. -/
theorem parseLine_targetRig {acc acc' : QueueMetadata × List GoString} {raw : GoString}
    (hraw : '\n' ∉ raw) (h : parseLine acc raw = some acc') :
    acc'.1.targetRig = acc.1.targetRig ∨ LineValue acc'.1.targetRig := by
  unfold parseLine at h
  dsimp only at h
  split_ifs at h
  · cases h; exact .inl rfl
  · split at h
    · rename_i k v hkv
      cases h
      obtain ⟨i, -, hv⟩ := splitN_two_eq hkv
      rcases applyField_targetRig (trimSpace k) (trimSpace v) acc with he | he
      · exact .inl he
      · refine .inr ?_
        rw [he]
        refine ⟨value_ne_nil_of_rdropWhile (rdropWhile_trimSpace raw) hkv, fun hn => ?_,
          trimSpace_trimSpace v⟩
        exact hraw (mem_of_mem_trimSpace (List.mem_of_mem_drop (hv ▸ mem_of_mem_trimSpace hn)))
    · cases h; exact .inl rfl

theorem parseLines_targetRig {lines : List GoString} (hl : ∀ l ∈ lines, '\n' ∉ l)
    {acc : QueueMetadata × List GoString} (h : LineValue acc.1.targetRig) :
    LineValue (parseLines lines acc).1.targetRig := by
  induction lines generalizing acc with
  | nil => exact h
  | cons raw rest ih =>
      unfold parseLines
      split
      · exact h
      · rename_i acc' h'
        refine ih (fun l hl' => hl l (List.mem_cons_of_mem _ hl')) ?_
        rcases parseLine_targetRig (hl raw (List.mem_cons_self _ _)) h' with he | hv
        · exact he ▸ h
        · exact hv

/-- The description carries a block whose target rig is a non-empty trimmed line. -/
def HasTargetRig (d : GoString) : Prop :=
  ∃ m, parseQueueMetadata d = some m ∧ LineValue m.targetRig

/-- A block whose target rig is a line that is not blank, after a description without a block,
parses with a target rig: the rig is the first line after the delimiter, and no later line, of
an error text with lines of its own included, can blank it. -/
theorem hasTargetRig_withMetadataBlock {s : GoString} (hs : index s queueMetadataDelimiter = none)
    {m : QueueMetadata} (hr : '\n' ∉ m.targetRig) (hne : trimSpace m.targetRig ≠ []) :
    HasTargetRig (withMetadataBlock s (formatQueueMetadata m)) := by
  have hl : '\n' ∉ fieldLine .targetRig m.targetRig := fieldLine_newline_free _ hr
  obtain ⟨rest, hml⟩ : ∃ rest, metadataLines m = fieldLine .targetRig m.targetRig :: rest :=
    ⟨_, by
      rw [metadataLines, stringLine, if_neg (fun h => hne (by rw [h]; rfl))]
      simp only [List.append_assoc, List.singleton_append]
      exact rfl⟩
  obtain ⟨X, hX⟩ : ∃ X, split (join (fieldLine .targetRig m.targetRig :: rest) ['\n']) '\n' =
      fieldLine .targetRig m.targetRig :: X := by
    rcases rest with _ | ⟨r, rest⟩
    · exact ⟨[], split_join (by simpa using hl) (List.cons_ne_nil _ _)⟩
    · exact ⟨_, by
        rw [join_cons, if_neg (List.cons_ne_nil _ _), List.singleton_append]
        exact split_append_sep hl _⟩
  have hall : ¬ ∀ c ∈ m.targetRig, isSpace c = true := fun h => hne (trimSpace_of_forall h)
  have hbody : parseLines (split ((formatQueueMetadata m).drop queueMetadataDelimiter.length) '\n')
      ({}, []) = parseLines X (({} : QueueMetadata).setText .targetRig (trimSpace m.targetRig), []) := by
    rw [formatQueueMetadata_eq, List.drop_left, hml, if_neg (List.cons_ne_nil _ _), split_cons_sep,
      hX, parseLines_cons_of_parseLine (show parseLine _ [] = _ from rfl),
      parseLines_cons_of_parseLine (parseLine_fieldLine _ _ _), if_neg hall,
      applyField_text (k := .targetRig) rfl]
  have hX' : ∀ x ∈ X, '\n' ∉ x := fun x hx =>
    not_mem_of_mem_split (hX ▸ List.mem_cons_of_mem _ hx)
  have hv : LineValue (parseLines X (({} : QueueMetadata).setText .targetRig
      (trimSpace m.targetRig), [])).1.targetRig :=
    parseLines_targetRig hX' ⟨hne, fun h => hr (mem_of_mem_trimSpace h), trimSpace_trimSpace _⟩
  unfold HasTargetRig
  simp only [parseQueueMetadata, index_withMetadataBlock hs (delimiter_prefix_format m),
    drop_withMetadataBlock, hbody]
  refine ⟨_, rfl, ?_⟩
  split_ifs <;> exact hv

end GastownQueue
