-- Laws of lists that know nothing of what stands in them: sorting by a text, lists that a strict
-- order pins down, and lists that are made up of groups.
import Mathlib.Data.List.Nodup

namespace SourceAtlas

/-! ## Order -/

/-- What is sorted by a text is in the order of that text. -/
theorem pairwise_sortedBy {α : Type} (key : α → String) (xs : List α) :
    (xs.mergeSort fun a b => key a ≤ key b).Pairwise fun a b => key a ≤ key b := by
  have htrans : ∀ a b c : α, decide (key a ≤ key b) = true → decide (key b ≤ key c) = true →
      decide (key a ≤ key c) = true := by
    simp only [decide_eq_true_eq]
    exact fun _ _ _ => String.le_trans
  have htotal : ∀ a b : α, (decide (key a ≤ key b) || decide (key b ≤ key a)) = true := by
    simp only [Bool.or_eq_true, decide_eq_true_eq]
    exact fun a b => String.le_total (key a) (key b)
  exact (List.pairwise_mergeSort htrans htotal xs).imp of_decide_eq_true

/-- Two lists of the same things in one strict order are equal. -/
theorem eq_of_sorted {α : Type} {r : α → α → Prop} {xs ys : List α}
    (hasymm : ∀ x y, r x y → ¬ r y x) (hxs : xs.Pairwise r) (hys : ys.Pairwise r)
    (hmem : ∀ x, x ∈ xs ↔ x ∈ ys) : xs = ys := by
  have hne : ∀ {x y}, r x y → x ≠ y := fun {x y} hr hxy => hasymm x y hr (hxy ▸ hxy ▸ hr)
  have hperm : xs.Perm ys := (List.perm_ext_iff_of_nodup (hxs.imp hne) (hys.imp hne)).mpr hmem
  exact hperm.eq_of_pairwise (fun x y _ _ hr hr' => absurd hr' (hasymm x y hr)) hxs hys

/-! ## Filters -/

theorem flatMap_filter {α β : Type} (p : α → Bool) (f : α → List β) (l : List α) :
    (l.filter p).flatMap f = l.flatMap fun a => if p a then f a else [] := by
  induction l with
  | nil => rfl
  | cons a l ih => by_cases h : p a = true <;> simp [h, ih]

/-- Where only one member of a list can pass, it alone decides what passes. -/
theorem filter_filterMap_of_unique {α β : Type} [DecidableEq α] {l : List α} (hl : l.Nodup) {a : α}
    (ha : a ∈ l) {f : α → Option β} {p : β → Bool}
    (h : ∀ x ∈ l, ∀ b, f x = some b → (p b = true ↔ x = a)) :
    (l.filterMap f).filter p = (f a).toList := by
  have hone : l.filter (· = a) = [a] := by
    rw [List.filter_eq, List.count_eq_one_of_mem hl ha]
    rfl
  have hpass : (l.filterMap f).filter p = (l.filter (· = a)).filterMap f := by
    rw [List.filter_filterMap, List.filterMap_filter]
    refine List.filterMap_congr fun x hx => ?_
    cases hf : f x with
    | none => simp
    | some b => simp [Option.filter, h x hx b hf]
  rw [hpass, hone]
  cases hf : f a <;> simp [hf]

/-! ## Groups -/

section

variable {δ α β : Type} [DecidableEq β] {key : α → β} {group : δ → List α} {mark : δ → β}

/-- Where each group has a key of its own, the keys are those of the groups that hold
anything, in the order of the groups. -/
theorem eraseDups_flatMap_groups {ds : List δ} (hkey : ∀ d ∈ ds, ∀ a ∈ group d, key a = mark d)
    (hnodup : (ds.map mark).Nodup) :
    ((ds.flatMap group).map key).eraseDups = (ds.filter (group · ≠ [])).map mark := by
  induction ds with
  | nil => rfl
  | cons d ds ih =>
    obtain ⟨hd, hds⟩ := List.forall_mem_cons.mp hkey
    rw [List.map_cons, List.nodup_cons] at hnodup
    rw [List.flatMap_cons, List.map_append]
    cases hgroup : group d with
    | nil => simpa [hgroup] using ih hds hnodup.2
    | cons a as =>
      have hsame : (a :: as).map key = mark d :: List.replicate as.length (mark d) := by
        rw [hgroup] at hd
        rw [List.map_cons, hd a List.mem_cons_self, List.map_eq_replicate_iff.mpr]
        exact fun b hb => hd b (List.mem_cons_of_mem a hb)
      have hother : ∀ b ∈ (ds.flatMap group).map key, b ≠ mark d := by
        intro b hb hbd
        obtain ⟨c, hc, rfl⟩ := List.mem_map.mp hb
        obtain ⟨e, he, hce⟩ := List.mem_flatMap.mp hc
        rw [hds e he c hce] at hbd
        exact hnodup.1 (hbd ▸ List.mem_map_of_mem he)
      have hrest : ((ds.flatMap group).map key).filter (fun b => !(b == mark d)) =
          (ds.flatMap group).map key :=
        List.filter_eq_self.mpr fun b hb => by simpa using hother b hb
      have hgone : (List.replicate as.length (mark d)).filter (fun b => !(b == mark d)) = [] :=
        List.filter_eq_nil_iff.mpr fun b hb => by simp [List.eq_of_mem_replicate hb]
      rw [hsame, List.cons_append, List.eraseDups_cons, List.filter_append, hrest, hgone,
        List.nil_append, ih hds hnodup.2]
      simp [hgroup]

/-- What has the key of a group is in that group. -/
theorem filter_flatMap_groups {ds : List δ} (hkey : ∀ d ∈ ds, ∀ a ∈ group d, key a = mark d)
    (hnodup : (ds.map mark).Nodup) {d : δ} (hd : d ∈ ds) :
    (ds.flatMap group).filter (key · = mark d) = group d := by
  induction ds with
  | nil => cases hd
  | cons e ds ih =>
    obtain ⟨he, hds⟩ := List.forall_mem_cons.mp hkey
    rw [List.map_cons, List.nodup_cons] at hnodup
    rw [List.flatMap_cons, List.filter_append]
    rcases List.mem_cons.mp hd with rfl | hd
    · have hown : (group d).filter (key · = mark d) = group d :=
        List.filter_eq_self.mpr fun a ha => decide_eq_true (he a ha)
      have hrest : (ds.flatMap group).filter (key · = mark d) = [] := by
        refine List.filter_eq_nil_iff.mpr fun a ha => ?_
        obtain ⟨c, hc, hac⟩ := List.mem_flatMap.mp ha
        rw [decide_eq_true_eq, hds c hc a hac]
        exact fun hcd => hnodup.1 (hcd ▸ List.mem_map_of_mem hc)
      rw [hown, hrest, List.append_nil]
    · have hother : (group e).filter (key · = mark d) = [] := by
        refine List.filter_eq_nil_iff.mpr fun a ha => ?_
        rw [decide_eq_true_eq, he a ha]
        exact fun hed => hnodup.1 (hed ▸ List.mem_map_of_mem hd)
      rw [hother, List.nil_append, ih hds hnodup.2 hd]

end

end SourceAtlas
