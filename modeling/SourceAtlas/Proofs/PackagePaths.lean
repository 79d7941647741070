-- How directories name packages. Files share a package exactly when they share a
-- directory, and a package path is that of the module with the directory behind a slash.
import SourceAtlas.Proofs.Gathering

namespace SourceAtlas

/-! ## Ways between directories -/

namespace Path

theorem dropCommon_subset (as bs : List String) : ∀ c ∈ (dropCommon as bs).1, c ∈ as := by
  fun_induction dropCommon as bs with
  | case1 a as b bs hab ih =>
    intro c hc
    exact List.mem_cons_of_mem a (ih c hc)
  | case2 => exact fun c hc => hc
  | case3 => exact fun c hc => hc

theorem ne_empty_of_mem_components {p c : String} (h : c ∈ components p) : c ≠ "" := by
  unfold components at h
  have hc := (List.mem_filter.mp h).2
  intro he
  simp [he] at hc

theorem intercalate_ne_empty {c : String} (hc : c ≠ "") (sep : String) (cs : List String) :
    String.intercalate sep (c :: cs) ≠ "" := by
  cases cs with
  | nil => simpa using hc
  | cons d ds =>
    rw [String.intercalate_cons_cons]
    intro h
    apply hc
    rw [← String.toList_eq_nil_iff] at h ⊢
    simp only [String.toList_append, List.append_eq_nil_iff] at h
    exact h.1.1

/-- A way has a text: the directory itself is a dot. -/
theorem relative_ne_empty (target base : String) : relative target base ≠ "" := by
  unfold relative
  rcases hd : dropCommon (components target) (components base) with ⟨down, up⟩
  have hdown : ∀ c ∈ down, c ≠ "" := by
    intro c hc
    apply ne_empty_of_mem_components
    apply dropCommon_subset _ (components base)
    rw [hd]
    exact hc
  dsimp only
  split
  · decide
  · rename_i hne
    cases up with
    | nil =>
      cases down with
      | nil => simp at hne
      | cons c cs => exact intercalate_ne_empty (hdown c List.mem_cons_self) "/" cs
    | cons u us =>
      have hup : ".." ≠ "" := by decide
      exact intercalate_ne_empty hup "/" _

/-- A path with something behind a slash is longer. -/
theorem append_slash_ne (p q : String) : p ++ "/" ++ q ≠ p := by
  intro h
  have hlen := congrArg String.length h
  have hslash : "/".length = 1 := rfl
  rw [String.length_append, String.length_append] at hlen
  omega

end Path

/-! ## The packages of files -/

namespace Origin

/-- The directory of a file, seen from the base. The base itself is a dot. -/
def directory (o : Origin) (file : SourceFile) : String :=
  Path.relative (Path.absolute o.here (Path.directory file.path)) (Path.absolute o.here o.base)

/-- A file of the base belongs to the package of the module, and any other file to the
package of its directory. -/
theorem package_eq (o : Origin) (file : SourceFile) :
    o.package file =
      if o.directory file = "." then o.modulePath else o.modulePath ++ "/" ++ o.directory file := by
  have hne : o.directory file ≠ "" := Path.relative_ne_empty _ _
  change o.start.packagePath (o.directory file) = _
  unfold Symbols.packagePath
  simp [hne, start]

theorem package_eq_iff (o : Origin) (file file' : SourceFile) :
    o.package file = o.package file' ↔ o.directory file = o.directory file' := by
  constructor
  · intro h
    rw [package_eq, package_eq] at h
    split at h
    · rename_i hroot
      split at h
      · rename_i hroot'
        rw [hroot, hroot']
      · exact absurd h.symm (Path.append_slash_ne _ _)
    · split at h
      · exact absurd h (Path.append_slash_ne _ _)
      · simpa using h
  · intro h
    rw [package_eq, package_eq, h]

end Origin

end SourceAtlas
