-- Paths that are taken apart into names and put together again. A name that is joined to a path
-- is one component more, the directory of what was joined is the path itself, and the way from
-- a directory down to one below it is the names in between.
import SourceAtlas.Proofs.FirstFault

namespace SourceAtlas

/-! ## Pieces between separators -/

namespace Text

theorem splitChars_ne_nil (sep : Char) (cs : List Char) : splitChars sep cs ≠ [] := by
  cases cs with
  | nil => simp [splitChars]
  | cons c cs =>
    unfold splitChars
    split
    · simp
    · split <;> simp

/-- A separator splits a text in two. -/
theorem splitChars_append (sep : Char) (as bs : List Char) :
    splitChars sep (as ++ sep :: bs) = splitChars sep as ++ splitChars sep bs := by
  induction as with
  | nil => simp [splitChars]
  | cons a as ih =>
    rw [List.cons_append, splitChars, splitChars, ih]
    by_cases ha : a = sep
    · simp [ha]
    · simp only [ha, if_false]
      cases hsplit : splitChars sep as with
      | nil => exact absurd hsplit (splitChars_ne_nil sep as)
      | cons w ws => rfl

theorem splitChars_of_notMem {sep : Char} {cs : List Char} (h : sep ∉ cs) :
    splitChars sep cs = [cs] := by
  induction cs with
  | nil => rfl
  | cons c cs ih =>
    rw [List.mem_cons, not_or] at h
    rw [splitChars, if_neg (Ne.symm h.1), ih h.2]

theorem notMem_of_mem_splitChars {sep : Char} {cs w : List Char} (h : w ∈ splitChars sep cs) :
    sep ∉ w := by
  induction cs generalizing w with
  | nil => simp_all [splitChars]
  | cons c cs ih =>
    unfold splitChars at h
    split at h
    · rcases List.mem_cons.mp h with rfl | h
      · simp
      · exact ih h
    · rename_i hc
      split at h
      · rename_i hnil
        exact absurd hnil (splitChars_ne_nil sep cs)
      · rename_i v vs hcons
        rcases List.mem_cons.mp h with rfl | h
        · rw [List.mem_cons, not_or]
          exact ⟨Ne.symm hc, ih (hcons ▸ List.mem_cons_self)⟩
        · exact ih (hcons ▸ List.mem_cons_of_mem v h)

end Text

/-! ## Names in a path -/

namespace Path

/-- A name that stands for something in the directory before it. -/
structure Plain (name : String) : Prop where
  nonempty : name ≠ ""
  notHere : name ≠ "."
  notUp : name ≠ ".."
  noSlash : '/' ∉ name.toList

theorem components_slash (a b : String) :
    components (a ++ "/" ++ b) = components a ++ components b := by
  have hsplit : Text.split '/' (a ++ "/" ++ b) = Text.split '/' a ++ Text.split '/' b := by
    have hchars : (a ++ "/" ++ b).toList = a.toList ++ '/' :: b.toList := by simp
    unfold Text.split
    rw [hchars, Text.splitChars_append, List.map_append]
  unfold components
  rw [hsplit, List.filter_append]

theorem components_empty : components "" = [] := by decide +kernel

theorem components_name {name : String} (h : Plain name) : components name = [name] := by
  unfold components Text.split
  rw [Text.splitChars_of_notMem h.noSlash]
  simp [h.nonempty, h.notHere]

theorem components_intercalate {names : List String} (h : ∀ name ∈ names, Plain name) :
    components (String.intercalate "/" names) = names := by
  induction names with
  | nil => exact components_empty
  | cons name names ih =>
    obtain ⟨hname, hnames⟩ := List.forall_mem_cons.mp h
    cases names with
    | nil => simpa using components_name hname
    | cons next names =>
      rw [String.intercalate_cons_cons, components_slash, components_name hname, ih hnames]
      rfl

/-- A component has no slash in it and is no step on the spot. -/
theorem of_mem_components {p c : String} (h : c ∈ components p) :
    c ≠ "" ∧ c ≠ "." ∧ '/' ∉ c.toList := by
  obtain ⟨hsplit, hkeep⟩ := List.mem_filter.mp h
  obtain ⟨w, hw, rfl⟩ := List.mem_map.mp hsplit
  simp only [Bool.and_eq_true, bne_iff_ne] at hkeep
  refine ⟨hkeep.1, hkeep.2, ?_⟩
  rw [String.toList_ofList]
  exact Text.notMem_of_mem_splitChars hw

/-! ## Joining -/

theorem not_isAbsolute_of_plain {name : String} (h : Plain name) : isAbsolute name = false := by
  rw [Bool.eq_false_iff]
  intro habsolute
  obtain ⟨cs, hcs⟩ := isAbsolute_iff.mp habsolute
  exact h.noSlash (hcs ▸ List.mem_cons_self)

theorem endsWith_slash_iff {p : String} :
    Text.endsWith p "/" = true ↔ ∃ q : String, p = q ++ "/" := by
  unfold Text.endsWith
  rw [List.isSuffixOf_iff_suffix]
  constructor
  · rintro ⟨cs, hcs⟩
    refine ⟨String.ofList cs, ?_⟩
    rw [← String.toList_inj, ← hcs]
    simp
  · rintro ⟨q, rfl⟩
    exact ⟨q.toList, by simp⟩

/-- A name joined to a path that is not empty: a slash is put between the two unless there
is one. -/
theorem join_plain {dir name : String} (hdir : dir ≠ "") (hname : Plain name) :
    join dir name = if Text.endsWith dir "/" then dir ++ name else dir ++ "/" ++ name := by
  unfold join
  rw [not_isAbsolute_of_plain hname]
  simp [hdir]

theorem components_join {dir name : String} (hdir : dir ≠ "") (hname : Plain name) :
    components (join dir name) = components dir ++ [name] := by
  rw [join_plain hdir hname]
  split
  · rename_i hslash
    obtain ⟨q, rfl⟩ := endsWith_slash_iff.mp hslash
    have hempty := components_slash q ""
    rw [String.append_empty, components_empty, List.append_nil] at hempty
    rw [components_slash, components_name hname, hempty]
  · rw [components_slash, components_name hname]

/-! ## Paths without a slash behind them -/

/-- A slash ends the path only when there is nothing else in it. -/
def Closed (p : String) : Prop := Text.endsWith p "/" = true → ∀ c ∈ p.toList, c = '/'

theorem endsWith_append_plain (p : String) {name : String} (h : Plain name) :
    Text.endsWith (p ++ name) "/" = false := by
  rw [Bool.eq_false_iff]
  intro hslash
  obtain ⟨q, hq⟩ := endsWith_slash_iff.mp hslash
  have hlast := congrArg (List.getLast? ∘ String.toList) hq
  have hname : name.toList ≠ [] := fun hnil => h.nonempty (String.toList_eq_nil_iff.mp hnil)
  simp only [Function.comp_apply, String.toList_append, List.getLast?_append_of_ne_nil _ hname]
    at hlast
  exact h.noSlash (List.mem_of_getLast? (hlast.trans (by simp)))

theorem closed_append_plain (p : String) {name : String} (h : Plain name) : Closed (p ++ name) := by
  intro hslash
  rw [endsWith_append_plain p h] at hslash
  cases hslash

theorem closed_join {dir name : String} (hdir : dir ≠ "") (hname : Plain name) :
    Closed (join dir name) := by
  rw [join_plain hdir hname]
  split <;> exact closed_append_plain _ hname

/-- What stands in a directory has that directory. -/
theorem directory_join {dir name : String} (hdir : dir ≠ "") (hclosed : Closed dir)
    (hname : Plain name) : directory (join dir name) = dir := by
  have hhead : ∀ q : String,
      ((q ++ "/" ++ name).toList.reverse.dropWhile (· != '/')).reverse = q.toList ++ ['/'] := by
    intro q
    have hpass : ∀ c ∈ name.toList.reverse, (c != '/') = true := by
      intro c hc
      rw [bne_iff_ne]
      rintro rfl
      exact hname.noSlash (List.mem_reverse.mp hc)
    have hchars : (q ++ "/" ++ name).toList.reverse =
        name.toList.reverse ++ '/' :: q.toList.reverse := by simp
    rw [hchars, List.dropWhile_append_of_pos hpass]
    simp
  rw [join_plain hdir hname]
  unfold directory
  split
  · rename_i hslash
    have hall := hclosed hslash
    obtain ⟨q, rfl⟩ := endsWith_slash_iff.mp hslash
    have hchars : (q ++ "/").toList = q.toList ++ ['/'] := by simp
    rw [hhead, ← hchars, if_pos (List.all_eq_true.mpr fun c hc => beq_iff_eq.mpr (hall c hc)),
      String.ofList_toList]
  · rename_i hslash
    -- the path ends with a character of its own, so the slash that was put in goes again
    rcases List.eq_nil_or_concat dir.toList with hnil | ⟨cs, c, hdir'⟩
    · exact absurd (String.toList_eq_nil_iff.mp hnil) hdir
    · have hc : c ≠ '/' := by
        rintro rfl
        refine hslash (endsWith_slash_iff.mpr ⟨String.ofList cs, ?_⟩)
        rw [← String.toList_inj, hdir']
        simp
      have htrail : Text.dropTrailing (· == '/') (dir.toList ++ ['/']) = dir.toList := by
        unfold Text.dropTrailing
        simp [hdir', hc]
      rw [hhead, if_neg (by simp [hdir', hc]), htrail, String.ofList_toList]

/-! ## Normal paths -/

theorem leadingSlashes_of_isAbsolute {p : String} (h : isAbsolute p = true) :
    leadingSlashes p = "/" ∨ leadingSlashes p = "//" := by
  unfold leadingSlashes
  split
  · exact .inl rfl
  · split
    · exact .inr rfl
    · rw [if_pos (show Text.startsWith p "/" = true from h)]
      exact .inl rfl

theorem components_leadingSlashes {p : String} (h : isAbsolute p = true) (q : String) :
    components (leadingSlashes p ++ q) = components q := by
  have hone : ∀ q : String, components ("/" ++ q) = components q := by
    intro q
    have hslash := components_slash "" q
    rwa [String.empty_append, components_empty, List.nil_append] at hslash
  rcases leadingSlashes_of_isAbsolute h with hstart | hstart
  · rw [hstart, hone]
  · rw [hstart, show "//" = "/" ++ "/" from rfl, String.append_assoc, hone, hone]

theorem plain_pushComponent {done : List String} {c : String} (hdone : ∀ d ∈ done, Plain d)
    (hc : c ≠ "" ∧ c ≠ "." ∧ '/' ∉ c.toList) : ∀ d ∈ pushComponent true done c, Plain d := by
  unfold pushComponent
  split
  · rename_i hup
    exact List.forall_mem_cons.mpr ⟨⟨hc.1, hc.2.1, by simpa using hup, hc.2.2⟩, hdone⟩
  · cases done with
    | nil => simp
    | cons last before =>
      obtain ⟨hlast, hbefore⟩ := List.forall_mem_cons.mp hdone
      simp only [beq_iff_eq, hlast.notUp, if_false]
      exact hbefore

theorem plain_foldl_pushComponent {cs done : List String}
    (hcs : ∀ c ∈ cs, c ≠ "" ∧ c ≠ "." ∧ '/' ∉ c.toList) (hdone : ∀ d ∈ done, Plain d) :
    ∀ d ∈ cs.foldl (pushComponent true) done, Plain d := by
  induction cs generalizing done with
  | nil => exact hdone
  | cons c cs ih =>
    obtain ⟨hc, hcs⟩ := List.forall_mem_cons.mp hcs
    exact ih hcs (plain_pushComponent hdone hc)

/-- The components that a rooted path keeps when its steps up are taken. -/
def kept (p : String) : List String := ((components p).foldl (pushComponent true) []).reverse

theorem plain_of_mem_kept {p c : String} (h : c ∈ kept p) : Plain c :=
  plain_foldl_pushComponent (fun _ hc => of_mem_components hc) (by simp) c (List.mem_reverse.mp h)

theorem normalize_eq {p : String} (h : isAbsolute p = true) :
    normalize p = leadingSlashes p ++ String.intercalate "/" (kept p) := by
  have hstart : (leadingSlashes p != "") = true := by
    rcases leadingSlashes_of_isAbsolute h with hstart | hstart <;> rw [hstart] <;> rfl
  have htext : ∀ q : String, (leadingSlashes p ++ q == "") = false := by
    intro q
    rcases leadingSlashes_of_isAbsolute h with hstart | hstart <;> simp [hstart]
  unfold normalize
  dsimp only
  rw [hstart, htext]
  rfl

theorem components_normalize {p : String} (h : isAbsolute p = true) :
    components (normalize p) = kept p := by
  rw [normalize_eq h, components_leadingSlashes h,
    components_intercalate fun c hc => plain_of_mem_kept hc]

/-- Names with slashes between them end with the last name. -/
theorem intercalate_snoc (names : List String) (last : String) :
    ∃ q, String.intercalate "/" (names ++ [last]) = q ++ last := by
  induction names with
  | nil => exact ⟨"", by simp⟩
  | cons name names ih =>
    obtain ⟨q, hq⟩ := ih
    refine ⟨name ++ "/" ++ q, ?_⟩
    cases names with
    | nil =>
      rw [List.nil_append] at hq
      rw [List.singleton_append, String.intercalate_cons_cons, hq, ← String.append_assoc]
    | cons next names =>
      rw [List.cons_append] at hq
      rw [List.cons_append, List.cons_append, String.intercalate_cons_cons, hq,
        ← String.append_assoc]

theorem closed_normalize {p : String} (h : isAbsolute p = true) : Closed (normalize p) := by
  rw [normalize_eq h]
  rcases List.eq_nil_or_concat (kept p) with hnil | ⟨cs, c, hkept⟩
  · rw [hnil]
    intro _
    rcases leadingSlashes_of_isAbsolute h with hstart | hstart <;> simp [hstart]
  · rw [List.concat_eq_append] at hkept
    have hc : c ∈ kept p := by simp [hkept]
    obtain ⟨q, hq⟩ := intercalate_snoc cs c
    rw [hkept, hq, ← String.append_assoc]
    exact closed_append_plain _ (plain_of_mem_kept hc)

/-- A path without steps up keeps its components. -/
theorem kept_of_plain {p : String} (h : ".." ∉ components p) : kept p = components p := by
  have hpush : ∀ cs done : List String, ".." ∉ cs →
      cs.foldl (pushComponent true) done = cs.reverse ++ done := by
    intro cs
    induction cs with
    | nil => simp
    | cons c cs ih =>
      intro done hcs
      rw [List.mem_cons, not_or] at hcs
      have hc : pushComponent true done c = c :: done := by
        unfold pushComponent
        rw [if_pos (by simpa using Ne.symm hcs.1)]
      rw [List.foldl_cons, hc, ih _ hcs.2]
      simp
  unfold kept
  rw [hpush _ _ h, List.append_nil, List.reverse_reverse]

/-- An absolute path without steps up and without a slash behind it. -/
structure Normal (p : String) : Prop where
  rooted : isAbsolute p = true
  noUp : ".." ∉ components p
  closed : Closed p

theorem Normal.ne_empty {p : String} (h : Normal p) : p ≠ "" := by
  rintro rfl
  cases h.rooted

theorem normal_normalize {p : String} (h : isAbsolute p = true) : Normal (normalize p) where
  rooted := isAbsolute_normalize h
  noUp := by
    rw [components_normalize h]
    exact fun hup => (plain_of_mem_kept hup).notUp rfl
  closed := closed_normalize h

theorem Normal.join {dir name : String} (h : Normal dir) (hname : Plain name) :
    Normal (join dir name) where
  rooted := isAbsolute_join h.rooted name
  noUp := by
    rw [components_join h.ne_empty hname, List.mem_append, List.mem_singleton, not_or]
    exact ⟨h.noUp, hname.notUp.symm⟩
  closed := closed_join h.ne_empty hname

theorem Normal.components_absolute {p : String} (h : Normal p) (here : String) :
    components (absolute here p) = components p := by
  unfold absolute
  rw [if_pos h.rooted, components_normalize h.rooted, kept_of_plain h.noUp]

/-! ## Ways down -/

theorem dropCommon_append (as rest : List String) : dropCommon (as ++ rest) as = (rest, []) := by
  induction as with
  | nil => cases rest <;> rfl
  | cons a as ih => simpa [dropCommon] using ih

/-- The way down to a directory is the names that come after those of the base. -/
theorem relative_below {target base : String} {names : List String}
    (h : components target = components base ++ names) :
    relative target base = if names = [] then "." else String.intercalate "/" names := by
  unfold relative
  rw [h, dropCommon_append]
  cases names <;> rfl

end Path

end SourceAtlas
