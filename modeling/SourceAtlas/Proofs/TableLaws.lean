-- The laws of tables. No key stands twice, a look-up finds the value that went in last
-- under its key, and to keep only some of the keys goes through every change.
import Mathlib.Data.List.Induction
import Mathlib.Data.List.Nodup
import SourceAtlas.Table

set_option linter.unusedSectionVars false

namespace SourceAtlas.Table

variable {κ α : Type} [DecidableEq κ]

/-! ## What is in a table -/

theorem mem_keys_of_mem {t : Table κ α} {e : κ × α} (h : e ∈ t.entries) : e.1 ∈ t.keys :=
  List.mem_map_of_mem h

theorem contains_iff (t : Table κ α) (k : κ) : t.contains k = true ↔ k ∈ t.keys := by
  unfold contains get? keys
  simp

/-- A list taken from the keys is a list taken from the entries. -/
theorem filterMap_keys {β : Type} (t : Table κ α) {f : κ → Option β} {g : κ × α → Option β}
    (h : ∀ e ∈ t.entries, f e.1 = g e) : t.keys.filterMap f = t.entries.filterMap g := by
  unfold keys
  rw [List.filterMap_map]
  exact List.filterMap_congr h

theorem insertEntry_subset (k : κ) (a : α) (es : List (κ × α)) :
    ∀ e ∈ insertEntry k a es, e = (k, a) ∨ e ∈ es := by
  induction es with
  | nil => simp [insertEntry]
  | cons d ds ih =>
    intro e he
    unfold insertEntry at he
    split at he
    · rcases List.mem_cons.mp he with h | h
      · exact Or.inl h
      · exact Or.inr (List.mem_cons_of_mem d h)
    · rcases List.mem_cons.mp he with h | h
      · exact Or.inr (h ▸ List.mem_cons_self)
      · exact (ih e h).imp_right (List.mem_cons_of_mem d)

theorem mem_keys_insert (t : Table κ α) (k : κ) (a : α) (l : κ) :
    l ∈ (t.insert k a).keys ↔ l = k ∨ l ∈ t.keys := by
  rw [keys_insert]
  split
  · rename_i hk
    constructor
    · exact Or.inr
    · rintro (rfl | h)
      · exact hk
      · exact h
  · simp [or_comm]

theorem nodup_keys_insert {t : Table κ α} (h : t.keys.Nodup) (k : κ) (a : α) :
    (t.insert k a).keys.Nodup := by
  rw [keys_insert]
  split
  · exact h
  · rename_i hk
    refine List.nodup_append.mpr ⟨h, List.nodup_singleton k, ?_⟩
    intro l hl k' hk'
    rw [List.mem_singleton.mp hk']
    rintro rfl
    exact hk hl

/-! ## Looking up -/

theorem get?_insert (t : Table κ α) (k : κ) (a : α) (l : κ) :
    (t.insert k a).get? l = if l = k then some a else t.get? l := by
  unfold get? insert
  induction t.entries with
  | nil =>
    by_cases h : l = k
    · simp [insertEntry, h]
    · simp [insertEntry, h, Ne.symm h]
  | cons e es ih =>
    by_cases hk : e.1 = k
    · by_cases h : l = k
      · simp [insertEntry, hk, h]
      · simp [insertEntry, hk, h, Ne.symm h]
    · by_cases h : e.1 = l
      · have hlk : l ≠ k := fun hl => hk (h.trans hl)
        simp [insertEntry, h, hlk]
      · simpa [insertEntry, hk, h] using ih

theorem get?_modify (t : Table κ α) (k : κ) (f : α → α) (l : κ) :
    (t.modify k f).get? l = if l = k then (t.get? l).map f else t.get? l := by
  unfold get? modify
  induction t.entries with
  | nil => simp
  | cons e es ih =>
    by_cases hl : e.1 = l
    · by_cases hk : e.1 = k
      · simp [hk, hk ▸ hl]
      · have hlk : l ≠ k := fun h => hk (hl.trans h)
        simp [hl, hlk]
    · by_cases hk : e.1 = k
      · simpa [hk, hk ▸ hl] using ih
      · simpa [hl, hk] using ih

/-- In a table without repeated keys an entry is what a look-up of its key finds. -/
theorem mem_entries_iff {t : Table κ α} (h : t.keys.Nodup) (k : κ) (a : α) :
    (k, a) ∈ t.entries ↔ t.get? k = some a := by
  obtain ⟨es⟩ := t
  unfold keys at h
  unfold get?
  induction es with
  | nil => simp
  | cons e es ih =>
    simp only [List.map_cons, List.nodup_cons] at h
    by_cases hk : e.1 = k
    · have hout : (k, a) ∉ es := fun hmem => h.1 (hk ▸ List.mem_map_of_mem hmem)
      simp only [List.mem_cons, hout, or_false, hk, decide_true, List.find?_cons_of_pos,
        Option.map_some, Option.some.injEq]
      constructor
      · rintro rfl
        rfl
      · rintro rfl
        rw [← hk]
    · have hne : (k, a) ≠ e := fun he => hk (he ▸ rfl)
      simp only [List.mem_cons, hne, false_or, hk, decide_false, Bool.false_eq_true,
        not_false_eq_true, List.find?_cons_of_neg]
      exact ih h.2

/-! ## Keeping some of the keys -/

/-- The table with only those entries whose key fits. -/
def keep (p : κ → Bool) (t : Table κ α) : Table κ α := ⟨t.entries.filter fun e => p e.1⟩

theorem keys_keep (p : κ → Bool) (t : Table κ α) : (t.keep p).keys = t.keys.filter p := by
  unfold keep keys
  rw [List.filter_map]
  rfl

theorem contains_keep {p : κ → Bool} {k : κ} (h : p k = true) (t : Table κ α) :
    (t.keep p).contains k = t.contains k := by
  rw [Bool.eq_iff_iff, contains_iff, contains_iff, keys_keep, List.mem_filter]
  simp [h]

/-- A kept key goes in after the choice as before it, and any other key leaves no trace. -/
theorem keep_insert (p : κ → Bool) (t : Table κ α) (k : κ) (a : α) :
    (t.insert k a).keep p = if p k then (t.keep p).insert k a else t.keep p := by
  obtain ⟨es⟩ := t
  have step : (insertEntry k a es).filter (fun e => p e.1) =
      if p k then insertEntry k a (es.filter fun e => p e.1) else es.filter fun e => p e.1 := by
    induction es with
    | nil => by_cases h : p k = true <;> simp [insertEntry, h]
    | cons e es ih =>
      by_cases hk : e.1 = k
      · by_cases h : p k = true <;> simp [insertEntry, hk, h]
      · by_cases hp : p e.1 = true <;> by_cases h : p k = true <;>
          simp [insertEntry, hk, hp, h, ih]
  unfold keep insert
  rw [step]
  split <;> rfl

theorem keep_modify (p : κ → Bool) (t : Table κ α) (k : κ) (f : α → α) :
    (t.modify k f).keep p = (t.keep p).modify k f := by
  unfold keep modify
  rw [List.filter_map]
  congr 2
  refine List.filter_congr fun e _ => ?_
  simp only [Function.comp]
  split <;> rfl

/-- A change under a key that is not there changes nothing. -/
theorem modify_of_notMem {t : Table κ α} {k : κ} (h : k ∉ t.keys) (f : α → α) :
    t.modify k f = t := by
  have hsame : ∀ e ∈ t.entries, (if e.1 = k then (e.1, f e.2) else e) = e := by
    intro e he
    have hk : e.1 ≠ k := fun hk => h (hk ▸ mem_keys_of_mem he)
    rw [if_neg hk]
  unfold modify
  rw [List.map_congr_left hsame, List.map_id']

/-! ## Entries that name themselves -/

/-- No key stands twice, and every value is under its own key. -/
structure Keyed (key : α → κ) (t : Table κ α) : Prop where
  nodup : t.keys.Nodup
  own : ∀ e ∈ t.entries, e.1 = key e.2

theorem keyed_empty (key : α → κ) : Keyed key ({} : Table κ α) :=
  ⟨List.nodup_nil, by simp⟩

theorem Keyed.insert {key : α → κ} {t : Table κ α} (h : t.Keyed key) (a : α) :
    (t.insert (key a) a).Keyed key := by
  refine ⟨nodup_keys_insert h.nodup (key a) a, ?_⟩
  intro e he
  rcases insertEntry_subset (key a) a t.entries e he with rfl | he
  · rfl
  · exact h.own e he

theorem Keyed.modify {key : α → κ} {t : Table κ α} (h : t.Keyed key) (k : κ) (f : α → α)
    (hf : ∀ a, key (f a) = key a) : (t.modify k f).Keyed key := by
  refine ⟨by rw [keys_modify]; exact h.nodup, ?_⟩
  intro e he
  obtain ⟨d, hd, rfl⟩ := List.mem_map.mp he
  have hown := h.own d hd
  split
  · rw [hf]
    exact hown
  · exact hown

/-! ## A stream of entries -/

/-- Enters a stream of entries, one after the other. -/
def insertAll (t : Table κ α) (es : List (κ × α)) : Table κ α :=
  es.foldl (fun t e => t.insert e.1 e.2) t

/-- The table that a stream of entries leaves behind. -/
def ofStream (es : List (κ × α)) : Table κ α := insertAll {} es

theorem insertAll_append (t : Table κ α) (es ds : List (κ × α)) :
    t.insertAll (es ++ ds) = (t.insertAll es).insertAll ds :=
  List.foldl_append

theorem eraseDups_snoc (ks : List κ) (k : κ) :
    (ks ++ [k]).eraseDups = if k ∈ ks then ks.eraseDups else ks.eraseDups ++ [k] := by
  rw [List.eraseDups_append]
  by_cases h : k ∈ ks
  · simp [List.removeAll, h]
  · simp [List.removeAll, h, List.eraseDups_cons]

/-- The keys of a stream stand in the order in which they first come. -/
theorem keys_ofStream (es : List (κ × α)) : (ofStream es).keys = (es.map (·.1)).eraseDups := by
  unfold ofStream
  induction es using List.reverseRecOn with
  | nil => rfl
  | append_singleton es e ih =>
    rw [insertAll_append]
    change ((insertAll {} es).insert e.1 e.2).keys = _
    rw [keys_insert, ih, List.map_append, List.map_singleton, eraseDups_snoc]
    simp only [List.mem_eraseDups]

theorem mem_keys_ofStream (es : List (κ × α)) (k : κ) :
    k ∈ (ofStream es).keys ↔ k ∈ es.map (·.1) := by
  rw [keys_ofStream, List.mem_eraseDups]

theorem mem_keys_filterMap {β : Type} (pick : β → Option (κ × α)) (bs : List β) (k : κ) :
    k ∈ (bs.filterMap pick).map (·.1) ↔ ∃ b ∈ bs, ∃ a, pick b = some (k, a) := by
  constructor
  · intro h
    obtain ⟨⟨l, a⟩, he, rfl⟩ := List.mem_map.mp h
    obtain ⟨b, hb, hpick⟩ := List.mem_filterMap.mp he
    exact ⟨b, hb, a, hpick⟩
  · rintro ⟨b, hb, a, hpick⟩
    exact List.mem_map_of_mem (List.mem_filterMap.mpr ⟨b, hb, hpick⟩)

/-- The last value of a stream under a key. -/
def last? (es : List (κ × α)) (k : κ) : Option α := ((es.filter (·.1 = k)).getLast?).map (·.2)

theorem last?_cons (e : κ × α) (es : List (κ × α)) (k : κ) :
    last? (e :: es) k = (last? es k).or (if e.1 = k then some e.2 else none) := by
  unfold last?
  by_cases h : e.1 = k
  · rw [List.filter_cons_of_pos (by simpa using h), List.getLast?_cons, if_pos h]
    cases (es.filter (·.1 = k)).getLast? <;> rfl
  · rw [List.filter_cons_of_neg (by simpa using h), if_neg h, Option.or_none]

theorem last?_eq_none {es : List (κ × α)} {k : κ} (h : k ∉ es.map (·.1)) : last? es k = none := by
  have hnone : es.filter (·.1 = k) = [] := by
    refine List.filter_eq_nil_iff.mpr fun e he hk => h ?_
    exact List.mem_map.mpr ⟨e, he, of_decide_eq_true hk⟩
  unfold last?
  rw [hnone]
  rfl

/-- A look-up finds the last value of the stream under its key. -/
theorem get?_ofStream (es : List (κ × α)) (k : κ) : (ofStream es).get? k = last? es k := by
  unfold ofStream last?
  induction es using List.reverseRecOn with
  | nil => rfl
  | append_singleton es e ih =>
    rw [insertAll_append]
    change ((insertAll {} es).insert e.1 e.2).get? k = _
    rw [get?_insert, ih, List.filter_append]
    by_cases h : k = e.1
    · simp [h]
    · simp [h, Ne.symm h]

/-- A stream whose values are changed with an eye to their keys has its last values changed. -/
theorem last?_mapKey {β : Type} (f : κ → α → β) (es : List (κ × α)) (k : κ) :
    last? (es.map fun e => (e.1, f e.1 e.2)) k = (last? es k).map (f k) := by
  have hsame : (es.map fun e => (e.1, f e.1 e.2)).filter (·.1 = k) =
      (es.filter (·.1 = k)).map fun e => (e.1, f k e.2) := by
    rw [List.filter_map]
    refine List.map_congr_left fun e he => ?_
    rw [of_decide_eq_true (List.mem_filter.mp he).2]
  unfold last?
  rw [hsame, List.getLast?_map, Option.map_map, Option.map_map]
  rfl

theorem last?_map {β : Type} (f : α → β) (es : List (κ × α)) (k : κ) :
    last? (es.map fun e => (e.1, f e.2)) k = (last? es k).map f :=
  last?_mapKey (fun _ => f) es k

/-- Only the entries of a stream under the key count. -/
theorem last?_filterMap_congr {β : Type} {f g : β → Option (κ × α)} {k : κ} (bs : List β)
    (h : ∀ b ∈ bs, (f b).filter (·.1 = k) = (g b).filter (·.1 = k)) :
    last? (bs.filterMap f) k = last? (bs.filterMap g) k := by
  unfold last?
  rw [List.filter_filterMap, List.filter_filterMap, List.filterMap_congr h]

end SourceAtlas.Table
