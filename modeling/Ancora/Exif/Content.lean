import Ancora.Exif.Entry
import Ancora.Lib.Sweep
import Mathlib.Data.List.Induction

/-!
# Contents (libexifa/exif-content.c)

A content is the array of entries of one IFD, of which "one tag can only be added once".
`exif_content_fix` fixes each entry, removes what is not recorded in the IFD, and adds what is
mandatory in it. It removes entries while it goes through them.

- `exifContentAddEntry`, `exifContentGetEntry`, `exifContentRemoveEntry`. An entry of a content
  is found by what it is, for there is only one with its tag.
- `exifContentFix`: `exif_content_fix`.
- **`exifContentFix_eq`**: what it does to any content.
- **`exifContentFix_valid`**: when the type of data is known, the content follows the
  specification.
- **`exifContentFix_mandatory_iff`**: when it is unknown, an entry with tag 0 stands in the way of
  those that should be added, for a new entry has that tag until it is initialised.
- **`exifContentFix_fixed`**: fixing a content again changes nothing.

Allocations succeed here.
-/

namespace Ancora.Exif

abbrev ExifContent := List ExifEntry

def tags (c : ExifContent) : List ExifTag := c.map ExifEntry.tag

/-- `exif_content_get_entry` -/
def exifContentGetEntry (c : ExifContent) (tag : ExifTag) : Option ExifEntry :=
  c.find? fun e => e.tag == tag

/-- `exif_content_add_entry` for an entry without a parent. -/
def exifContentAddEntry (c : ExifContent) (e : ExifEntry) : ExifContent :=
  if (exifContentGetEntry c e.tag).isSome then c else c ++ [e]

/-- The end of `exif_content_remove_entry`, where `i` is the index of the entry: the array loses
its last slot, what is behind the entry moves over it, and what was last becomes last again. -/
def removeAt (c : ExifContent) (i : Nat) : ExifContent :=
  let t := c.dropLast
  if i = t.length then t else t.take i ++ t.drop (i + 1) ++ c.drop t.length

/-- `exif_content_remove_entry` -/
def exifContentRemoveEntry (c : ExifContent) (e : ExifEntry) : ExifContent :=
  match c.idxOf? e with
  | some i => removeAt c i
  | none => c

/-- `exif_content_foreach_entry` for a function that adds no entry. -/
def exifContentForeachEntry (func : ExifContent → ExifEntry → ExifContent) (c : ExifContent) :
    ExifContent :=
  Sweep.visit func c.length 0 c

section Fix

variable (table : List TagEntry) (now : Vector Byte 20) (order : ExifByteOrder)
  (dt : Option ExifDataType) (ifd : ExifIfd)

def notRecorded (e : ExifEntry) : Bool := supportLevelInIfd table e.tag ifd dt == .notRecorded

/-- `remove_not_recorded` -/
def removeNotRecorded (c : ExifContent) (e : ExifEntry) : ExifContent :=
  if notRecorded table dt ifd e then exifContentRemoveEntry c e else c

/-- "If this happens do the loop again from the beginning." -/
def removeLoop : Nat → ExifContent → ExifContent
  | 0, c => c
  | n + 1, c =>
    let c' := exifContentForeachEntry (removeNotRecorded table dt ifd) c
    if c'.length = c.length then c' else removeLoop n c'

/-- A new entry has tag 0 when it is added, and `exif_entry_initialize` needs its parent. -/
def addMandatory (c : ExifContent) (t : ExifTag) : ExifContent :=
  if supportLevelInIfd table t ifd dt = .mandatory then
    if (exifContentGetEntry c t).isSome then c
    else if (exifContentGetEntry c 0).isSome then c
    else c ++ [exifEntryInitialize now order t]
  else c

/-- `exif_content_fix`. The entry that ends the table counts as one of tag 0. -/
def exifContentFix (c : ExifContent) : Option ExifContent := do
  let c ← c.mapM (exifEntryFix order)
  let c := removeLoop table dt ifd (c.length + 1) c
  some ((tagsOf table).foldl (addMandatory table now order dt ifd) c)
where
  tagsOf (table : List TagEntry) : List ExifTag := table.map TagEntry.tag ++ [0]

end Fix

/-! ## Adding and removing -/

section Entries

variable {c : ExifContent} {e : ExifEntry} {tag : ExifTag}

/-- An entry is found if there is one with the tag. -/
theorem getEntry_isSome : (exifContentGetEntry c tag).isSome = true ↔ tag ∈ tags c := by
  rw [exifContentGetEntry, List.find?_isSome, tags, List.mem_map]
  constructor
  · rintro ⟨e, he, htag⟩
    exact ⟨e, he, by simpa using htag⟩
  · rintro ⟨e, he, htag⟩
    exact ⟨e, he, by simpa using htag⟩

/-- An entry is added behind the others, if its tag is new. -/
theorem exifContentAddEntry_eq (c : ExifContent) (e : ExifEntry) :
    exifContentAddEntry c e = if e.tag ∈ tags c then c else c ++ [e] := by
  simp only [exifContentAddEntry, getEntry_isSome]

theorem nodup_append_singleton (h : (tags c).Nodup) (he : e.tag ∉ tags c) :
    (tags (c ++ [e])).Nodup := by
  rw [tags, List.map_append]
  refine List.nodup_append.mpr ⟨h, List.nodup_singleton _, ?_⟩
  intro a ha b hb hab
  rw [List.map_singleton, List.mem_singleton] at hb
  rw [hab, hb] at ha
  exact he ha

/-- An entry is added only if its tag is new. -/
theorem exifContentAddEntry_nodup (h : (tags c).Nodup) (e : ExifEntry) :
    (tags (exifContentAddEntry c e)).Nodup := by
  rw [exifContentAddEntry_eq]
  split
  · exact h
  · rename_i he
    exact nodup_append_singleton h he

theorem removeAt_eq {i : Nat} (hi : i < c.length) : removeAt c i = c.eraseIdx i := by
  have hne : c ≠ [] := List.ne_nil_of_length_pos (by omega)
  obtain ⟨t, last, rfl⟩ : ∃ t last, c = t ++ [last] :=
    ⟨c.dropLast, c.getLast hne, (List.dropLast_append_getLast hne).symm⟩
  unfold removeAt
  dsimp only
  rw [List.dropLast_concat, List.drop_left]
  split
  · rename_i heq
    rw [heq, List.eraseIdx_append_of_length_le (Nat.le_refl _), Nat.sub_self,
      List.eraseIdx_cons_zero, List.append_nil]
  · rename_i hlast
    have hlt : i < t.length := by
      rw [List.length_append, List.length_singleton] at hi
      omega
    rw [List.eraseIdx_append_of_lt_length hlt, List.eraseIdx_eq_take_drop_succ]

/-- The array without the entry; the order of the others is as before. -/
theorem exifContentRemoveEntry_eq (c : ExifContent) (e : ExifEntry) :
    exifContentRemoveEntry c e = c.erase e := by
  rw [exifContentRemoveEntry, List.erase_eq_eraseIdx]
  split
  · rename_i i hfind
    rw [hfind]
    exact removeAt_eq (List.idxOf?_eq_some_iff.mp hfind).1
  · rename_i hfind
    rw [hfind]

end Entries

/-! ## Fixing -/

section Fixing

variable {table : List TagEntry} {now : Vector Byte 20} {order : ExifByteOrder}
  {dt : Option ExifDataType} {ifd : ExifIfd} {c base : ExifContent} {e : ExifEntry} {t : ExifTag}

/-- The loop ends, and what is not recorded is removed. -/
theorem removeLoop_eq (c : ExifContent) :
    removeLoop table dt ifd (c.length + 1) c = c.filter fun e => !notRecorded table dt ifd e := by
  have hfunc : removeNotRecorded table dt ifd = Sweep.deleteIf (notRecorded table dt ifd) := by
    funext c e
    rw [removeNotRecorded, exifContentRemoveEntry_eq, Sweep.deleteIf]
  have hloop : ∀ n c, removeLoop table dt ifd n c = Sweep.sweep (notRecorded table dt ifd) n c := by
    intro n
    induction n with
    | zero => intro c; rfl
    | succ n ih =>
      intro c
      unfold removeLoop Sweep.sweep exifContentForeachEntry
      simp only [hfunc, ih]
  rw [hloop]
  exact Sweep.sweep_eq_filter (Nat.lt_succ_self _)

/-- What was added to `base` when the tags `ts` have been seen. -/
structure Added (table : List TagEntry) (dt : Option ExifDataType) (ifd : ExifIfd)
    (base : ExifContent) (ts news : List ExifTag) : Prop where
  nodup : news.Nodup
  mem_iff : ∀ t, t ∈ news ↔
    t ∈ ts ∧ supportLevelInIfd table t ifd dt = .mandatory ∧ t ∉ tags base

theorem tags_append_initialized (base : ExifContent) (news : List ExifTag) :
    tags (base ++ news.map (exifEntryInitialize now order)) = tags base ++ news := by
  rw [tags, List.map_append, List.map_map]
  congr 1
  have htag : ExifEntry.tag ∘ exifEntryInitialize now order = id :=
    funext fun t => tag_exifEntryInitialize now order t
  rw [htag, List.map_id]

/-- **Run lemma**: the mandatory tags that are missing are added, each once. -/
theorem foldl_addMandatory (hzero : supportLevelInIfd table 0 ifd dt ≠ .mandatory)
    (hbase : 0 ∉ tags base) (ts : List ExifTag) :
    ∃ news, ts.foldl (addMandatory table now order dt ifd) base =
      base ++ news.map (exifEntryInitialize now order) ∧ Added table dt ifd base ts news := by
  induction ts using List.reverseRecOn with
  | nil => exact ⟨[], by simp, List.nodup_nil, fun t => by simp⟩
  | append_singleton ts t ih =>
    obtain ⟨news, hfold, hnews⟩ := ih
    rw [List.foldl_append, hfold, List.foldl_cons, List.foldl_nil]
    simp only [addMandatory, getEntry_isSome, tags_append_initialized]
    split
    · rename_i hmandatory
      split
      · rename_i hmem
        refine ⟨news, rfl, hnews.nodup, fun u => ?_⟩
        rw [hnews.mem_iff, List.mem_append, List.mem_singleton]
        constructor
        · rintro ⟨hu, h⟩
          exact ⟨.inl hu, h⟩
        · rintro ⟨hu | rfl, h⟩
          · exact ⟨hu, h⟩
          · rcases List.mem_append.mp hmem with hmem | hmem
            · exact (h.2 hmem).elim
            · exact (hnews.mem_iff u).mp hmem
      · rename_i hmem
        rw [List.mem_append, not_or] at hmem
        have hnone : ¬ 0 ∈ tags base ++ news := by
          rw [List.mem_append]
          rintro (h | h)
          · exact hbase h
          · exact hzero ((hnews.mem_iff 0).mp h).2.1
        rw [if_neg hnone]
        refine ⟨news ++ [t], by simp, ?_, fun u => ?_⟩
        · refine List.nodup_append.mpr ⟨hnews.nodup, List.nodup_singleton t, ?_⟩
          intro a ha b hb hab
          rw [hab, List.mem_singleton.mp hb] at ha
          exact hmem.2 ha
        · rw [List.mem_append, List.mem_append, List.mem_singleton, hnews.mem_iff]
          constructor
          · rintro (⟨hu, h⟩ | rfl)
            · exact ⟨.inl hu, h⟩
            · exact ⟨.inr rfl, hmandatory, hmem.1⟩
          · rintro ⟨hu | rfl, h⟩
            · exact .inl ⟨hu, h⟩
            · exact .inr rfl
    · rename_i hmandatory
      refine ⟨news, rfl, hnews.nodup, fun u => ?_⟩
      rw [hnews.mem_iff, List.mem_append, List.mem_singleton]
      constructor
      · rintro ⟨hu, h⟩
        exact ⟨.inl hu, h⟩
      · rintro ⟨hu | rfl, h⟩
        · exact ⟨hu, h⟩
        · exact (hmandatory h.1).elim

/-- An entry with tag 0 stands in the way. -/
theorem foldl_addMandatory_of_zero (hbase : 0 ∈ tags base) (ts : List ExifTag) :
    ts.foldl (addMandatory table now order dt ifd) base = base := by
  induction ts with
  | nil => rfl
  | cons t ts ih =>
    have hstep : addMandatory table now order dt ifd base t = base := by
      unfold addMandatory
      split
      · split
        · rfl
        · rw [if_pos (getEntry_isSome.mpr hbase)]
      · rfl
    rw [List.foldl_cons, hstep, ih]

/-- Fixing the entries does not change their tags. -/
theorem tags_mapM {c' : ExifContent} (h : c.mapM (exifEntryFix order) = some c') :
    tags c' = tags c := by
  induction c generalizing c' with
  | nil =>
    rw [List.mapM_nil] at h
    rw [← Option.some.inj h]
  | cons e c ih =>
    simp only [List.mapM_cons, Option.bind_eq_bind, Option.bind_eq_some_iff] at h
    obtain ⟨e', he, c₁, hc, hnew⟩ := h
    rw [← Option.some.inj hnew]
    show e'.tag :: tags c₁ = e.tag :: tags c
    rw [tag_of_exifEntryFix he, ih hc]

/-- Entries that fit are fixed for good. -/
theorem mapM_fits (h : ∀ e ∈ c, e.Fits ∧ e.data.length < 268435456) :
    ∃ c', c.mapM (exifEntryFix order) = some c' ∧
      ∀ e ∈ c', e.Fits ∧ exifEntryFix order e = some e := by
  induction c with
  | nil => exact ⟨[], rfl, fun e he => (List.not_mem_nil he).elim⟩
  | cons e c ih =>
    obtain ⟨e', he, hfits, -⟩ := exifEntryFix_fits order (h e List.mem_cons_self).1
      (h e List.mem_cons_self).2
    obtain ⟨c', hc, hall⟩ := ih fun x hx => h x (List.mem_cons_of_mem e hx)
    refine ⟨e' :: c', by simp [List.mapM_cons, he, hc], fun x hx => ?_⟩
    rcases List.mem_cons.mp hx with rfl | hx
    · exact ⟨hfits, exifEntryFix_fixed he⟩
    · exact hall x hx

/-- Entries that are fixed stay as they are. -/
theorem mapM_of_fixed (h : ∀ e ∈ c, exifEntryFix order e = some e) :
    c.mapM (exifEntryFix order) = some c := by
  induction c with
  | nil => rfl
  | cons e c ih =>
    have hc := ih fun x hx => h x (List.mem_cons_of_mem e hx)
    simp [List.mapM_cons, h e List.mem_cons_self, hc]

/-- What a content has to be like. -/
structure FollowsSpecification (table : List TagEntry) (order : ExifByteOrder)
    (dt : Option ExifDataType) (ifd : ExifIfd) (c : ExifContent) : Prop where
  fixed : ∀ e ∈ c, exifEntryFix order e = some e
  recorded : ∀ e ∈ c, supportLevelInIfd table e.tag ifd dt ≠ .notRecorded
  mandatory : ∀ t, supportLevelInIfd table t ifd dt = .mandatory → t ∈ tags c

/-- A fix keeps the recorded entries, fixed, and adds new ones. -/
theorem exifContentFix_eq (hzero : supportLevelInIfd table 0 ifd dt ≠ .mandatory)
    {c' : ExifContent} (h : c.mapM (exifEntryFix order) = some c')
    (hbase : base = c'.filter fun e => !notRecorded table dt ifd e) :
    ∃ news, exifContentFix table now order dt ifd c =
        some (base ++ news.map (exifEntryInitialize now order)) ∧
      (0 ∈ tags base → news = []) ∧
      (0 ∉ tags base → Added table dt ifd base (exifContentFix.tagsOf table) news) := by
  have hfix : exifContentFix table now order dt ifd c =
      some ((exifContentFix.tagsOf table).foldl (addMandatory table now order dt ifd) base) := by
    rw [exifContentFix, h, Option.bind_eq_bind, Option.bind_some, removeLoop_eq, ← hbase]
  rw [hfix]
  by_cases hmem : 0 ∈ tags base
  · exact ⟨[], by rw [foldl_addMandatory_of_zero hmem]; simp, fun _ => rfl, fun h => (h hmem).elim⟩
  · obtain ⟨news, hfold, hnews⟩ := foldl_addMandatory hzero hmem
      (exifContentFix.tagsOf table)
    exact ⟨news, congrArg some hfold, fun h => (hmem h).elim, fun _ => hnews⟩

theorem tags_filter_sublist (p : ExifEntry → Bool) (c : ExifContent) :
    (tags (c.filter p)).Sublist (tags c) := List.filter_sublist.map _

/-- When a content stays as it is. -/
theorem exifContentFix_self (hzero : supportLevelInIfd table 0 ifd dt ≠ .mandatory)
    (hfixed : ∀ e ∈ c, exifEntryFix order e = some e)
    (hrecorded : ∀ e ∈ c, supportLevelInIfd table e.tag ifd dt ≠ .notRecorded)
    (h : 0 ∈ tags c ∨ ∀ t ∈ exifContentFix.tagsOf table,
      supportLevelInIfd table t ifd dt = .mandatory → t ∈ tags c) :
    exifContentFix table now order dt ifd c = some c := by
  have hall : (c.filter fun e => !notRecorded table dt ifd e) = c := by
    refine List.filter_eq_self.mpr fun e he => ?_
    simpa [notRecorded] using hrecorded e he
  obtain ⟨news, hfix, hblocked, hadded⟩ :=
    exifContentFix_eq hzero (mapM_of_fixed hfixed) hall.symm
  have hnil : news = [] := by
    by_cases hmem : 0 ∈ tags c
    · exact hblocked hmem
    · refine List.eq_nil_iff_forall_not_mem.mpr fun t ht => ?_
      obtain ⟨hmemt, hmandatory, hnew⟩ := ((hadded hmem).mem_iff t).mp ht
      exact hnew (h.resolve_left hmem t hmemt hmandatory)
  rw [hfix, hnil, List.map_nil, List.append_nil]

/-- A mandatory tag is in the table. -/
theorem SortedTable.mem_of_mandatory (h : SortedTable table)
    (hmandatory : supportLevelInIfd table t ifd dt = .mandatory) :
    ∃ e ∈ table, e.tag = t ∧ ∃ d, e.esl ifd d = .mandatory := by
  have hscan (p : TagEntry → Bool) (d : ExifDataType) (otherwise : ExifSupportLevel)
      (hne : otherwise ≠ .mandatory)
      (hlookup : lookup table t p (fun e => e.esl ifd d) otherwise = .mandatory) :
      ∃ e ∈ table, e.tag = t ∧ ∃ d, e.esl ifd d = .mandatory := by
    rw [lookup_eq_scan h] at hlookup
    cases hfind : table.find? fun e => decide (e.tag = t) && p e with
    | none =>
      rw [hfind] at hlookup
      exact (hne hlookup).elim
    | some e =>
      rw [hfind] at hlookup
      have hp := List.find?_some hfind
      rw [Bool.and_eq_true, decide_eq_true_eq] at hp
      exact ⟨e, List.mem_of_find?_eq_some hfind, hp.1, d, hlookup⟩
  cases dt with
  | some d => exact hscan _ d _ (by decide) hmandatory
  | none => exact hscan _ .uncompressedChunky _ (by decide) hmandatory

/-- What is recorded is not removed. -/
theorem mem_tags_filter (hmem : t ∈ tags c)
    (hrec : supportLevelInIfd table t ifd dt ≠ .notRecorded) :
    t ∈ tags (c.filter fun e => !notRecorded table dt ifd e) := by
  obtain ⟨e, he, rfl⟩ := List.mem_map.mp hmem
  exact List.mem_map.mpr ⟨e, List.mem_filter.mpr ⟨he, by simpa [notRecorded] using hrec⟩, rfl⟩

/-- What a content is fixed to, whatever the type of data is: `base` are the entries that are
kept, `news` the tags that are added. -/
structure FixedTo (table : List TagEntry) (now : Vector Byte 20) (order : ExifByteOrder)
    (dt : Option ExifDataType) (ifd : ExifIfd) (c base : ExifContent) (news : List ExifTag)
    (c' : ExifContent) : Prop where
  eq : c' = base ++ news.map (exifEntryInitialize now order)
  unique : (tags c').Nodup
  news_mandatory : ∀ t ∈ news, supportLevelInIfd table t ifd dt = .mandatory ∧ t ∉ tags c
  fits : ∀ e ∈ c', e.Fits
  fixed : ∀ e ∈ c', exifEntryFix order e = some e
  recorded : ∀ e ∈ c', supportLevelInIfd table e.tag ifd dt ≠ .notRecorded
  blocked : 0 ∈ tags base → news = []
  mandatory : 0 ∉ tags base → ∀ t ∈ exifContentFix.tagsOf table,
    supportLevelInIfd table t ifd dt = .mandatory → t ∈ tags c'

/-- What a fix comes to, when tag 0 and the user comment are not mandatory. -/
theorem exifContentFix_fixedTo (now : Vector Byte 20) (order : ExifByteOrder)
    (hzero : supportLevelInIfd table 0 ifd dt ≠ .mandatory)
    (huser : supportLevelInIfd table ExifTag.userComment ifd dt ≠ .mandatory)
    (hunique : (tags c).Nodup) (hfits : ∀ e ∈ c, e.Fits ∧ e.data.length < 268435456) :
    ∃ c₁ news c', c.mapM (exifEntryFix order) = some c₁ ∧
      exifContentFix table now order dt ifd c = some c' ∧
      FixedTo table now order dt ifd c (c₁.filter fun e => !notRecorded table dt ifd e) news
        c' := by
  obtain ⟨c₁, hmap, hfixed⟩ := mapM_fits hfits
  have htags := tags_mapM hmap
  generalize hbase : (c₁.filter fun e => !notRecorded table dt ifd e) = base
  obtain ⟨news, hfix, hblocked, hadded⟩ := exifContentFix_eq hzero hmap hbase.symm
  have hnews : ∀ t ∈ news, supportLevelInIfd table t ifd dt = .mandatory ∧ t ∉ tags base := by
    intro t ht
    by_cases hmem : 0 ∈ tags base
    · rw [hblocked hmem] at ht
      exact (List.not_mem_nil ht).elim
    · exact (((hadded hmem).mem_iff t).mp ht).2
  have hnodup : news.Nodup := by
    by_cases hmem : 0 ∈ tags base
    · rw [hblocked hmem]
      exact List.nodup_nil
    · exact (hadded hmem).nodup
  have hsub : (tags base).Sublist (tags c) := by
    rw [← htags, ← hbase]
    exact tags_filter_sublist _ c₁
  have hentry : ∀ e ∈ base ++ news.map (exifEntryInitialize now order),
      e.Fits ∧ exifEntryFix order e = some e ∧
        supportLevelInIfd table e.tag ifd dt ≠ .notRecorded := by
    intro e he
    rcases List.mem_append.mp he with he | he
    · rw [← hbase, List.mem_filter] at he
      exact ⟨(hfixed e he.1).1, (hfixed e he.1).2, by simpa [notRecorded] using he.2⟩
    · obtain ⟨t, ht, rfl⟩ := List.mem_map.mp he
      have hmandatory := (hnews t ht).1
      refine ⟨Nat.le_of_eq (exifEntryInitialize_exact now order t),
        exifEntryFix_initialize now order t ?_, ?_⟩
      · rintro rfl
        exact huser hmandatory
      · rw [tag_exifEntryInitialize, hmandatory]
        decide
  refine ⟨c₁, news, _, hmap, hfix, ?_⟩
  rw [hbase]
  constructor
  case eq => rfl
  case unique =>
    rw [tags_append_initialized]
    refine List.nodup_append.mpr ⟨hunique.sublist hsub, hnodup, fun a ha b hb hab => ?_⟩
    rw [hab] at ha
    exact (hnews b hb).2 ha
  case news_mandatory =>
    refine fun t ht => ⟨(hnews t ht).1, fun hc => (hnews t ht).2 ?_⟩
    rw [← hbase]
    refine mem_tags_filter (htags ▸ hc) ?_
    rw [(hnews t ht).1]
    decide
  case fits => exact fun e he => (hentry e he).1
  case fixed => exact fun e he => (hentry e he).2.1
  case recorded => exact fun e he => (hentry e he).2.2
  case blocked => exact hblocked
  case mandatory =>
    intro hmem t ht hmandatory
    rw [tags_append_initialized, List.mem_append]
    by_cases hold : t ∈ tags base
    · exact .inl hold
    · exact .inr (((hadded hmem).mem_iff t).mpr ⟨ht, hmandatory, hold⟩)

/-- With an unknown type of data everything is recorded. -/
theorem notRecorded_anyType (e : ExifEntry) (h : SortedTable table) :
    notRecorded table none ifd e = false := by
  show (getSupportLevelAnyType table e.tag ifd == .notRecorded) = false
  rw [getSupportLevelAnyType, lookup_eq_scan h]
  cases hfind : table.find? fun x => decide (x.tag = e.tag) && x.sameLevel ifd with
  | none => rfl
  | some x =>
    have hp := List.find?_some hfind
    simp only [TagEntry.sameLevel, Bool.and_eq_true] at hp
    simpa using hp.2.1

end Fixing

/-! ## Fixing with the table -/

section TheTable

variable {now : Vector Byte 20} {order : ExifByteOrder} {dt : Option ExifDataType} {ifd : ExifIfd}
  {c : ExifContent}

/-- Tag 0 is nowhere mandatory. -/
theorem supportLevel_zero (ifd : ExifIfd) (dt : Option ExifDataType) :
    supportLevelInIfd exifTagTable 0 ifd dt ≠ .mandatory := by
  rcases dt with _ | dt
  · cases ifd <;> decide +kernel
  · cases ifd <;> cases dt <;> decide +kernel

/-- Tag 0 is that of the version of the GPS IFD. -/
theorem supportLevel_zero_of_ne_gps (hifd : ifd ≠ .gps) (dt : ExifDataType) :
    supportLevelInIfd exifTagTable 0 ifd (some dt) = .notRecorded := by
  cases ifd <;> cases dt <;> first
    | exact (hifd rfl).elim
    | decide +kernel

/-- In the GPS IFD nothing is mandatory. -/
theorem exifTagTable_gps :
    ∀ e ∈ exifTagTable, ∀ d ∈ dataTypes, e.esl .gps d ≠ .mandatory := by
  decide +kernel

/-- The user comment is nowhere mandatory. -/
theorem supportLevel_userComment (ifd : ExifIfd) (dt : Option ExifDataType) :
    supportLevelInIfd exifTagTable ExifTag.userComment ifd dt ≠ .mandatory := by
  rcases dt with _ | dt
  · cases ifd <;> decide +kernel
  · cases ifd <;> cases dt <;> decide +kernel

theorem mem_tagsOf {t : ExifTag} (h : supportLevelInIfd exifTagTable t ifd dt = .mandatory) :
    t ∈ exifContentFix.tagsOf exifTagTable := by
  obtain ⟨e, he, htag, -⟩ := exifTagTable_sorted.mem_of_mandatory h
  exact List.mem_append_left _ (List.mem_map.mpr ⟨e, he, htag⟩)

/-- When the type of data is known: what is recorded is kept in its order, each entry fixed, what
is mandatory and was missing is added, and the content then follows the specification. -/
theorem exifContentFix_valid (now : Vector Byte 20) (order : ExifByteOrder) (d : ExifDataType)
    (ifd : ExifIfd) (hunique : (tags c).Nodup)
    (hfits : ∀ e ∈ c, e.Fits ∧ e.data.length < 268435456) :
    ∃ c₁ added c', c.mapM (exifEntryFix order) = some c₁ ∧
      exifContentFix exifTagTable now order (some d) ifd c = some c' ∧
      c' = c₁.filter (fun e => !notRecorded exifTagTable (some d) ifd e) ++ added ∧
      (∀ e ∈ added, e.tag ∉ tags c ∧
        supportLevelInIfd exifTagTable e.tag ifd (some d) = .mandatory) ∧
      (tags c').Nodup ∧ FollowsSpecification exifTagTable order (some d) ifd c' := by
  obtain ⟨c₁, news, c', hmap, hfix, h⟩ :=
    exifContentFix_fixedTo now order (supportLevel_zero ifd (some d))
      (supportLevel_userComment ifd (some d)) hunique hfits
  refine ⟨c₁, _, c', hmap, hfix, h.eq, fun e he => ?_, h.unique, h.fixed, h.recorded,
    fun t ht => ?_⟩
  · obtain ⟨t, ht, rfl⟩ := List.mem_map.mp he
    rw [tag_exifEntryInitialize]
    exact ⟨(h.news_mandatory t ht).2, (h.news_mandatory t ht).1⟩
  · have hne : ifd ≠ .gps := by
      rintro rfl
      obtain ⟨e, he, -, d', hd'⟩ := exifTagTable_sorted.mem_of_mandatory ht
      exact exifTagTable_gps e he d' (by cases d' <;> simp [dataTypes]) hd'
    refine h.mandatory (fun hmem => ?_) t (mem_tagsOf ht) ht
    -- a tag that is kept is recorded, which tag 0 is not
    obtain ⟨e, he, htag⟩ := List.mem_map.mp hmem
    have hrec := (List.mem_filter.mp he).2
    rw [notRecorded, htag, supportLevel_zero_of_ne_gps hne] at hrec
    cases hrec

/-- An orientation, and a tag that is not recorded in any IFD. -/
def sampleContent : ExifContent :=
  [⟨ExifTag.orientation, .byte, 1, [1]⟩, ⟨0x0fff, .short, 1, [0, 0]⟩]

theorem sampleContent_unique : (tags sampleContent).Nodup := by decide

theorem sampleContent_fits : ∀ e ∈ sampleContent, e.Fits ∧ e.data.length < 268435456 := by
  intro e he
  simp only [sampleContent, List.mem_cons, List.not_mem_nil, or_false] at he
  rcases he with rfl | rfl
  · exact ⟨Nat.le_refl 1, by decide⟩
  · exact ⟨Nat.le_refl 2, by decide⟩

theorem exifContentFix_valid_sample :
    ∃ c₁ added c', sampleContent.mapM (exifEntryFix .intel) = some c₁ ∧
      exifContentFix exifTagTable (Vector.replicate 20 0) .intel (some .compressed) .ifd0
        sampleContent = some c' ∧
      c' = c₁.filter (fun e => !notRecorded exifTagTable (some .compressed) .ifd0 e) ++ added ∧
      (∀ e ∈ added, e.tag ∉ tags sampleContent ∧
        supportLevelInIfd exifTagTable e.tag .ifd0 (some .compressed) = .mandatory) ∧
      (tags c').Nodup ∧
      FollowsSpecification exifTagTable .intel (some .compressed) .ifd0 c' :=
  exifContentFix_valid (Vector.replicate 20 0) .intel .compressed .ifd0 sampleContent_unique
    sampleContent_fits

/-- When it is unknown, the mandatory entries are all there unless one of them is missing and an
entry has tag 0. -/
theorem exifContentFix_mandatory_iff (now : Vector Byte 20) (order : ExifByteOrder) (ifd : ExifIfd)
    (hunique : (tags c).Nodup) (hfits : ∀ e ∈ c, e.Fits ∧ e.data.length < 268435456) :
    ∃ c', exifContentFix exifTagTable now order none ifd c = some c' ∧
      ((∀ t, supportLevelInIfd exifTagTable t ifd none = .mandatory → t ∈ tags c') ↔
        0 ∉ tags c ∨
          ∀ t, supportLevelInIfd exifTagTable t ifd none = .mandatory → t ∈ tags c) := by
  obtain ⟨c₁, news, c', hmap, hfix, h⟩ :=
    exifContentFix_fixedTo now order (supportLevel_zero ifd none)
      (supportLevel_userComment ifd none) hunique hfits
  have hall : (c₁.filter fun e => !notRecorded exifTagTable none ifd e) = c₁ :=
    List.filter_eq_self.mpr fun e _ => by rw [notRecorded_anyType e exifTagTable_sorted]; rfl
  have htags : tags c' = tags c ++ news := by
    rw [h.eq, hall, tags_append_initialized, tags_mapM hmap]
  refine ⟨c', hfix, ?_, ?_⟩
  · intro hmandatory
    by_cases hmem : 0 ∈ tags c
    · have hnil := h.blocked (by rwa [hall, tags_mapM hmap])
      rw [hnil, List.append_nil] at htags
      exact .inr fun t ht => htags ▸ hmandatory t ht
    · exact .inl hmem
  · rintro (hmem | hold) t ht
    · exact h.mandatory (by rwa [hall, tags_mapM hmap]) t (mem_tagsOf ht) ht
    · rw [htags]
      exact List.mem_append_left _ (hold t ht)

theorem exifContentFix_mandatory_iff_sample :
    ∃ c', exifContentFix exifTagTable (Vector.replicate 20 0) .intel none .ifd0 sampleContent =
        some c' ∧
      ((∀ t, supportLevelInIfd exifTagTable t .ifd0 none = .mandatory → t ∈ tags c') ↔
        0 ∉ tags sampleContent ∨
          ∀ t, supportLevelInIfd exifTagTable t .ifd0 none = .mandatory → t ∈ tags sampleContent) :=
  exifContentFix_mandatory_iff (Vector.replicate 20 0) .intel .ifd0 sampleContent_unique
    sampleContent_fits

/-- Fixing a content again changes nothing, whatever the type of data is. -/
theorem exifContentFix_fixed (now : Vector Byte 20) (order : ExifByteOrder)
    (dt : Option ExifDataType) (ifd : ExifIfd) (hunique : (tags c).Nodup)
    (hfits : ∀ e ∈ c, e.Fits ∧ e.data.length < 268435456) :
    ∃ c', exifContentFix exifTagTable now order dt ifd c = some c' ∧
      exifContentFix exifTagTable now order dt ifd c' = some c' := by
  obtain ⟨c₁, news, c', -, hfix, h⟩ :=
    exifContentFix_fixedTo now order (supportLevel_zero ifd dt)
      (supportLevel_userComment ifd dt) hunique hfits
  refine ⟨c', hfix, exifContentFix_self (supportLevel_zero ifd dt) h.fixed h.recorded ?_⟩
  by_cases hmem : 0 ∈ tags (c₁.filter fun e => !notRecorded exifTagTable dt ifd e)
  · left
    rw [h.eq, tags_append_initialized]
    exact List.mem_append_left _ hmem
  · exact .inr (h.mandatory hmem)

end TheTable

end Ancora.Exif
