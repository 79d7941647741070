-- A graph is the sum of what its packages give. Every entry of a table belongs to one
-- package, and every look-up of a pass stays in the package that it starts from. So the
-- files of one package decide alone what that package gives.
import Mathlib.Data.List.Dedup
import Mathlib.Data.List.Perm.Basic
import SourceAtlas.Proofs.GraphPasses
import SourceAtlas.Proofs.PackagePaths

namespace SourceAtlas

/-! ## The tables of one package -/

namespace Symbols

/-- The tables with only what belongs to the package. -/
def only (s : Symbols) (package : String) : Symbols :=
  { s with
    packages := s.packages.keep (·.packagePath == package)
    types := s.types.keep (·.packagePath == package)
    functions := s.functions.keep (·.packagePath == package)
    methods := s.methods.keep (·.packagePath == package) }

theorem only_declare (s : Symbols) (d : Declaration) (p : String) :
    (s.declare d).only p = if d.package = p then (s.only p).declare d else s.only p := by
  cases d with
  | plainType q n =>
    change s.only p = if q = p then s.only p else s.only p
    split <;> rfl
  | type t =>
    by_cases h : t.package = p <;>
      simp [declare, addType, only, Table.keep_insert, Declaration.package, TypeDecl.key,
        Key.packagePath, h]
  | function f =>
    by_cases h : f.package = p <;>
      simp [declare, addFunction, only, Table.keep_insert, Declaration.package, FunctionDecl.key,
        Key.packagePath, h]
  | method m =>
    by_cases h : m.package = p <;>
      simp [declare, addMethod, only, Table.keep_insert, Declaration.package, MethodDecl.key,
        Key.packagePath, h]

theorem only_declareAll (s : Symbols) (p : String) {q : String} {ds : List Declaration}
    (h : ∀ d ∈ ds, d.package = q) :
    (ds.foldl declare s).only p =
      if q = p then ds.foldl declare (s.only p) else s.only p := by
  induction ds generalizing s with
  | nil => simp
  | cons d ds ih =>
    have hd := h d List.mem_cons_self
    rw [List.foldl_cons, ih _ fun d' hd' => h d' (List.mem_cons_of_mem d hd'), only_declare, hd]
    split <;> rfl

theorem only_ensurePackage (s : Symbols) (q name directory p : String) :
    (s.ensurePackage q name directory).only p =
      if q = p then (s.only p).ensurePackage q name directory else s.only p := by
  unfold ensurePackage
  dsimp only
  by_cases h : q = p
  · have hsame : (s.only p).packages.contains (.package q) = s.packages.contains (.package q) :=
      Table.contains_keep (by simp [Key.packagePath, h]) s.packages
    rw [if_pos h, hsame]
    split
    · rfl
    · simp [only, Table.keep_insert, Key.packagePath, h]
  · rw [if_neg h]
    split
    · rfl
    · simp [only, Table.keep_insert, Key.packagePath, h]

theorem only_addImports (s : Symbols) (q : String) (imports : List String) (p : String) :
    (s.addImports q imports).only p =
      if q = p then (s.only p).addImports q imports else s.only p := by
  have hkeep : (s.addImports q imports).only p = (s.only p).addImports q imports := by
    unfold addImports only
    rw [Table.keep_modify]
  rw [hkeep]
  split
  · rfl
  · rename_i h
    have hout : Key.package q ∉ (s.only p).packages.keys := by
      unfold only
      rw [Table.keys_keep, List.mem_filter]
      rintro ⟨_, hq⟩
      exact h (by simpa [Key.packagePath] using hq)
    unfold addImports
    rw [Table.modify_of_notMem hout]

theorem only_enterPackage (s : Symbols) (q : String) (file : SourceFile) (p : String) :
    (s.enterPackage q file).only p =
      if q = p then (s.only p).enterPackage q file else s.only p := by
  unfold enterPackage
  rw [only_addImports, only_ensurePackage]
  split <;> rfl

end Symbols

namespace Origin

/-- What the tables hold for a package is what the files of that package leave behind when
they are entered alone. -/
theorem only_gather (o : Origin) (files : List SourceFile) (p : String) :
    (o.gather files).only p = o.gather (files.filter (o.package · = p)) := by
  induction files using List.reverseRecOn with
  | nil => rfl
  | append_singleton files file ih =>
    have hdecls : ∀ d ∈ o.declarations file, d.package = o.package file :=
      fun d hd => package_of_mem_declarations hd
    rw [gather_enter, Symbols.only_declareAll _ _ hdecls, Symbols.only_enterPackage, ih,
      List.filter_append]
    by_cases h : o.package file = p
    · have hone : [file].filter (o.package · = p) = [file] := by simp [h]
      rw [if_pos h, if_pos h, hone, gather_enter]
    · simp [h]

end Origin

/-! ## A list and its parts -/

/-- The list is made of one part for each package, up to order. -/
def Splits {β : Type} (ps : List String) (whole : List β) (part : String → List β) : Prop :=
  whole.Perm (ps.flatMap part)

theorem Splits.append {β : Type} {ps : List String} {as bs : List β} {f g : String → List β}
    (ha : Splits ps as f) (hb : Splits ps bs g) : Splits ps (as ++ bs) fun p => f p ++ g p :=
  (List.Perm.append ha hb).trans (List.flatMap_append_perm ps f g)

/-- A list splits by the package that belongs to each of its members. -/
theorem splits_filter {β : Type} (packageOf : β → String) {ps : List String} (hps : ps.Nodup)
    (l : List β) (h : ∀ x ∈ l, packageOf x ∈ ps) :
    Splits ps l fun p => l.filter (packageOf · == p) := by
  unfold Splits
  -- the members of the first package are taken out, and what is left splits by the others
  induction ps generalizing l with
  | nil => simp [List.eq_nil_iff_forall_not_mem.mpr fun x hx => List.not_mem_nil (h x hx)]
  | cons p ps ih =>
    rw [List.nodup_cons] at hps
    have hrest : ∀ x ∈ l.filter (!packageOf · == p), packageOf x ∈ ps := by
      intro x hx
      obtain ⟨hx, hne⟩ := List.mem_filter.mp hx
      rcases List.mem_cons.mp (h x hx) with he | hin
      · simp [he] at hne
      · exact hin
    have hsame : ∀ q ∈ ps,
        (l.filter (!packageOf · == p)).filter (packageOf · == q) = l.filter (packageOf · == q) := by
      intro q hq
      rw [List.filter_filter]
      refine List.filter_congr fun x _ => ?_
      by_cases hx : packageOf x = q
      · have hne : q ≠ p := fun he => hps.1 (he ▸ hq)
        simp [hx, hne]
      · simp [hx]
    refine (List.filter_append_perm (packageOf · == p) l).symm.trans ?_
    rw [List.flatMap_cons]
    refine List.Perm.append_left _ ?_
    rw [← List.flatMap_congr hsame]
    exact ih hps.2 _ hrest

section

variable {α β : Type} {ps : List String}

/-- The outputs of the entries of a table split, when the outputs of an entry need nothing
but its own package. -/
theorem splits_flatMap (hps : ps.Nodup) (t : Table Key α)
    (ht : ∀ k ∈ t.keys, k.packagePath ∈ ps) {f : Key × α → List β}
    {g : String → Key × α → List β} (hfg : ∀ e ∈ t.entries, f e = g e.1.packagePath e) :
    Splits ps (t.entries.flatMap f) fun p =>
      (t.keep (·.packagePath == p)).entries.flatMap (g p) := by
  have hsplit := splits_filter (fun e : Key × α => e.1.packagePath) hps t.entries
    fun e he => ht e.1 (Table.mem_keys_of_mem he)
  have hparts : ∀ p ∈ ps, (t.entries.filter (·.1.packagePath == p)).flatMap f =
      (t.keep (·.packagePath == p)).entries.flatMap (g p) := by
    intro p _
    refine List.flatMap_congr fun e he => ?_
    obtain ⟨he, hp⟩ := List.mem_filter.mp he
    rw [hfg e he, beq_iff_eq.mp hp]
  unfold Splits
  rw [← List.flatMap_congr hparts, ← List.flatMap_assoc]
  exact hsplit.flatMap_right f

theorem splits_map (hps : ps.Nodup) (t : Table Key α) (ht : ∀ k ∈ t.keys, k.packagePath ∈ ps)
    (f : Key × α → β) :
    Splits ps (t.entries.map f) fun p => (t.keep (·.packagePath == p)).entries.map f := by
  simp only [List.map_eq_flatMap]
  exact splits_flatMap hps t ht fun _ _ => rfl

theorem splits_filterMap (hps : ps.Nodup) (t : Table Key α)
    (ht : ∀ k ∈ t.keys, k.packagePath ∈ ps) {f : Key × α → Option β}
    {g : String → Key × α → Option β} (hfg : ∀ e ∈ t.entries, f e = g e.1.packagePath e) :
    Splits ps (t.entries.filterMap f) fun p =>
      (t.keep (·.packagePath == p)).entries.filterMap (g p) := by
  simp only [List.filterMap_eq_flatMap_toList]
  exact splits_flatMap hps t ht fun e he => by rw [hfg e he]

end

/-! ## The passes -/

namespace Symbols

/-- A look-up for a package sees the same in the tables of that package alone. -/
theorem hasType_only (s : Symbols) (p name : String) :
    (s.only p).hasType p name = s.hasType p name := by
  apply Table.contains_keep
  exact beq_self_eq_true p

theorem declaredType?_only (s : Symbols) (p name : String) :
    (s.only p).declaredType? p name = s.declaredType? p name := by
  unfold declaredType?
  rw [hasType_only]

theorem resolveCall_only (s : Symbols) (p : String) (call : CallSite) :
    (s.only p).resolveCall p call = s.resolveCall p call := by
  have hsame : (s.only p).functions.contains (.function p call.target) =
      s.functions.contains (.function p call.target) := by
    apply Table.contains_keep
    exact beq_self_eq_true p
  unfold resolveCall
  dsimp only
  rw [hsame]

/-- Every key belongs to one of the packages. -/
def Covered (s : Symbols) (ps : List String) : Prop := ∀ k ∈ s.keys, k.packagePath ∈ ps

variable {s : Symbols} {ps : List String}

theorem Covered.packages (h : s.Covered ps) : ∀ k ∈ s.packages.keys, k.packagePath ∈ ps :=
  fun k hk => h k (mem_keys.mpr (Or.inl hk))

theorem Covered.types (h : s.Covered ps) : ∀ k ∈ s.types.keys, k.packagePath ∈ ps :=
  fun k hk => h k (mem_keys.mpr (Or.inr (Or.inl hk)))

theorem Covered.functions (h : s.Covered ps) : ∀ k ∈ s.functions.keys, k.packagePath ∈ ps :=
  fun k hk => h k (mem_keys.mpr (Or.inr (Or.inr (Or.inl hk))))

theorem Covered.methods (h : s.Covered ps) : ∀ k ∈ s.methods.keys, k.packagePath ∈ ps :=
  fun k hk => h k (mem_keys.mpr (Or.inr (Or.inr (Or.inr hk))))

theorem splits_components (hps : ps.Nodup) (hc : s.Covered ps) :
    Splits ps s.components fun p => (s.only p).components :=
  (((splits_map hps s.packages hc.packages _).append (splits_map hps s.types hc.types _)).append
    (splits_map hps s.functions hc.functions _)).append (splits_map hps s.methods hc.methods _)

theorem splits_importLinks (hps : ps.Nodup) (hc : s.Covered ps) :
    Splits ps s.importLinks fun p => (s.only p).importLinks :=
  splits_flatMap hps s.packages hc.packages fun _ _ => rfl

theorem splits_containsLinks (hps : ps.Nodup) (hc : s.Covered ps) (hk : s.Keyed) :
    Splits ps s.containsLinks fun p => (s.only p).containsLinks := by
  refine ((splits_map hps s.types hc.types _).append
    (splits_map hps s.functions hc.functions _)).append ?_
  apply splits_filterMap hps s.methods hc.methods
  rintro ⟨k, m⟩ he
  have hpackage := hk.package_method he
  dsimp only
  rw [← hpackage, hasType_only]

theorem splits_callLinks (hps : ps.Nodup) (hc : s.Covered ps) (hk : s.Keyed) :
    Splits ps s.callLinks fun p => (s.only p).callLinks := by
  unfold callLinks callers
  simp only [List.flatMap_append, List.flatMap_map]
  apply Splits.append
  · apply splits_flatMap hps s.functions hc.functions
    rintro ⟨k, f⟩ he
    have hpackage := hk.package_function he
    dsimp only
    simp only [← hpackage, resolveCall_only]
  · apply splits_flatMap hps s.methods hc.methods
    rintro ⟨k, m⟩ he
    have hpackage := hk.package_method he
    dsimp only
    simp only [← hpackage, resolveCall_only]

theorem splits_typeLinks (hps : ps.Nodup) (hc : s.Covered ps) (hk : s.Keyed) :
    Splits ps s.typeLinks fun p => (s.only p).typeLinks := by
  unfold typeLinks
  apply splits_flatMap hps s.types hc.types
  rintro ⟨k, t⟩ he
  have hpackage := hk.package_type he
  dsimp only
  simp only [← hpackage, declaredType?_only]

theorem splits_links (hps : ps.Nodup) (hc : s.Covered ps) (hk : s.Keyed) :
    Splits ps s.graph.links fun p => (s.only p).graph.links := by
  simp only [links_graph]
  exact (((splits_importLinks hps hc).append (splits_containsLinks hps hc hk)).append
    (splits_callLinks hps hc hk)).append (splits_typeLinks hps hc hk)

end Symbols

/-! ## The law -/

namespace Origin

/-- The packages of a list of files, each of them once. -/
def packages (o : Origin) (files : List SourceFile) : List String := (files.map o.package).dedup

/-- The files of one package, in their order. -/
def filesOf (o : Origin) (p : String) (files : List SourceFile) : List SourceFile :=
  files.filter (o.package · = p)

theorem mem_packages (o : Origin) {files : List SourceFile} {file : SourceFile}
    (h : file ∈ files) : o.package file ∈ o.packages files :=
  List.mem_dedup.mpr (List.mem_map_of_mem h)

theorem covered_gather (o : Origin) (files : List SourceFile) :
    (o.gather files).Covered (o.packages files) := by
  intro k hk
  obtain ⟨file, hfile, hpackage⟩ := package_of_declares (o.mem_keys_gather.mp hk)
  rw [hpackage]
  exact o.mem_packages hfile

/-- The components and the links of a graph are those that the packages give when each is
taken alone. -/
theorem splits_gather (o : Origin) (files : List SourceFile) :
    Splits (o.packages files) (o.gather files).graph.components
        (fun p => (o.gather (o.filesOf p files)).graph.components) ∧
      Splits (o.packages files) (o.gather files).graph.links
        fun p => (o.gather (o.filesOf p files)).graph.links := by
  have hps : (o.packages files).Nodup := List.nodup_dedup _
  have hc := o.covered_gather files
  have honly : ∀ p, o.gather (o.filesOf p files) = (o.gather files).only p :=
    fun p => (o.only_gather files p).symm
  simp only [honly]
  refine ⟨?_, Symbols.splits_links hps hc (o.keyed_gather files)⟩
  simp only [Symbols.components_graph]
  exact Symbols.splits_components hps hc

/-- An order that keeps the files of each directory in their order keeps the files of each
package in their order. -/
theorem filesOf_eq_of_directory (o : Origin) {files files' : List SourceFile}
    (h : ∀ d, files'.filter (o.directory · = d) = files.filter (o.directory · = d)) (p : String) :
    o.filesOf p files' = o.filesOf p files := by
  unfold filesOf
  by_cases hp : ∃ file, o.package file = p
  · obtain ⟨file, rfl⟩ := hp
    simp only [package_eq_iff]
    exact h (o.directory file)
  · have hnone : ∀ fs : List SourceFile, fs.filter (o.package · = p) = [] :=
      fun fs => List.filter_eq_nil_iff.mpr fun file _ hf => hp ⟨file, by simpa using hf⟩
    rw [hnone, hnone]

/-- A graph is the sum of what its packages give. The files of other packages never change
what the tables hold for a package, and an order that keeps the files of each directory in
their order only changes the order of the graph. -/
theorem a_graph_is_the_sum_of_its_packages (o : Origin) (files : List SourceFile) :
    (o.gather files).graph.components.Perm
        ((o.packages files).flatMap fun p => (o.gather (o.filesOf p files)).graph.components) ∧
      (o.gather files).graph.links.Perm
        ((o.packages files).flatMap fun p => (o.gather (o.filesOf p files)).graph.links) ∧
      (∀ p, (o.gather files).only p = o.gather (o.filesOf p files)) ∧
      (∀ p files', o.filesOf p files' = o.filesOf p files →
        (o.gather files').only p = (o.gather files).only p) ∧
      ∀ files', files'.Perm files →
        (∀ d, files'.filter (o.directory · = d) = files.filter (o.directory · = d)) →
        (o.gather files').graph.components.Perm (o.gather files).graph.components ∧
          (o.gather files').graph.links.Perm (o.gather files).graph.links := by
  obtain ⟨hcomponents, hlinks⟩ := o.splits_gather files
  refine ⟨hcomponents, hlinks, o.only_gather files, ?_, ?_⟩
  · intro p files' h
    rw [only_gather, only_gather]
    exact congrArg o.gather h
  · intro files' hperm hdir
    obtain ⟨hcomponents', hlinks'⟩ := o.splits_gather files'
    have hpackages : (o.packages files').Perm (o.packages files) := (hperm.map o.package).dedup
    have hfiles : ∀ p, o.filesOf p files' = o.filesOf p files := o.filesOf_eq_of_directory hdir
    simp only [hfiles] at hcomponents' hlinks'
    exact ⟨(hcomponents'.trans (hpackages.flatMap_right _)).trans hcomponents.symm,
      (hlinks'.trans (hpackages.flatMap_right _)).trans hlinks.symm⟩

/-- The order of two directories does not matter: the one file of the second moves before the
two files of the first. -/
theorem a_file_moves_before_another_directory :
    let o : Origin := ⟨"/", "/r", "m"⟩
    let x : SourceFile := ⟨"/r/a/x.go", .mk { kind := "source_file" } []⟩
    let y : SourceFile := ⟨"/r/a/y.go", .mk { kind := "source_file" } []⟩
    let z : SourceFile := ⟨"/r/b/z.go", .mk { kind := "source_file" } []⟩
    (∀ d, [z, x, y].filter (o.directory · = d) = [x, z, y].filter (o.directory · = d)) ∧
      (o.gather [z, x, y]).graph.components.Perm (o.gather [x, z, y]).graph.components := by
  intro o x y z
  have hx : o.directory x = "a" := by subst o x; decide +kernel
  have hy : o.directory y = "a" := by subst o y; decide +kernel
  have hz : o.directory z = "b" := by subst o z; decide +kernel
  clear_value o x y z
  have hdir : ∀ d, [z, x, y].filter (o.directory · = d) = [x, z, y].filter (o.directory · = d) := by
    intro d
    by_cases hd : "a" = d
    · have hne : ¬ "b" = d := fun h => absurd (h.trans hd.symm) (by decide)
      simp [hx, hy, hz, hd, hne]
    · simp [List.filter_cons, hx, hy, hz, hd]
  refine ⟨hdir, ?_⟩
  exact ((a_graph_is_the_sum_of_its_packages o [x, z, y]).2.2.2.2 [z, x, y]
    (List.Perm.swap _ _ _) hdir).1

end Origin

end SourceAtlas
