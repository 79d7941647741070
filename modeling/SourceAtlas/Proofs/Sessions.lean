-- Sessions of any length, in which the tables are filled and passes are run in turns. A pass
-- never touches the tables, and what it adds depends on the tables of its moment alone, so a
-- session has gathered what a new start would have given at each pass, one after the other.
import SourceAtlas.Proofs.GraphPasses
import SourceAtlas.Session

namespace SourceAtlas

/-! ## Graphs one after the other -/

namespace Graph

@[simp]
theorem components_append (g h : Graph) : (g ++ h).components = g.components ++ h.components := rfl

@[simp]
theorem links_append (g h : Graph) : (g ++ h).links = g.links ++ h.links := rfl

@[ext]
theorem ext_lists {g h : Graph} (hcomponents : g.components = h.components)
    (hlinks : g.links = h.links) : g = h := by
  cases g
  cases h
  cases hcomponents
  cases hlinks
  rfl

@[simp]
theorem empty_append (g : Graph) : ({} : Graph) ++ g = g := by
  ext1 <;> simp

@[simp]
theorem append_empty (g : Graph) : g ++ ({} : Graph) = g := by
  ext1 <;> simp

theorem append_assoc (g h k : Graph) : g ++ h ++ k = g ++ (h ++ k) := by
  ext1 <;> simp

/-- Several graphs, one after the other. -/
def joined (gs : List Graph) : Graph := gs.foldr (· ++ ·) {}

theorem joined_append (gs hs : List Graph) : joined (gs ++ hs) = joined gs ++ joined hs := by
  induction gs with
  | nil => exact (empty_append _).symm
  | cons g gs ih =>
    change g ++ joined (gs ++ hs) = g ++ joined gs ++ joined hs
    rw [ih, append_assoc]

end Graph

/-! ## Passes in a row -/

namespace Pass

/-- Passes in a row add the output of each. -/
theorem foldl_run (s : Symbols) (g : Graph) (ps : List Pass) :
    ps.foldl (Pass.run s) g = g ++ Graph.joined (ps.map fun p => p.run s {}) := by
  induction ps generalizing g with
  | nil => exact (Graph.append_empty g).symm
  | cons p ps ih =>
    rw [List.foldl_cons, ih, Pass.run, Graph.append_assoc]
    change _ = g ++ (p.run s {} ++ Graph.joined (ps.map fun p => p.run s {}))
    rw [Pass.run, Graph.empty_append]

theorem buildOn_eq (s : Symbols) (g : Graph) : s.buildOn g = g ++ s.graph := by
  unfold Symbols.graph Symbols.buildOn
  rw [foldl_run, foldl_run, Graph.empty_append]

/-- Of two passes at most one gives components, unless they are the same pass. -/
theorem components_comm (s : Symbols) (p q : Pass) :
    (p.output s).components ++ (q.output s).components =
      (q.output s).components ++ (p.output s).components := by
  cases p <;> cases q <;> simp [output]

/-- The order of passes does not matter for the components, and for the links it is only an
order. -/
theorem foldl_run_perm (s : Symbols) (g : Graph) {ps qs : List Pass} (h : ps.Perm qs) :
    (ps.foldl (Pass.run s) g).components = (qs.foldl (Pass.run s) g).components ∧
      (ps.foldl (Pass.run s) g).links.Perm (qs.foldl (Pass.run s) g).links := by
  induction h generalizing g with
  | nil => exact ⟨rfl, .refl _⟩
  | cons p _ ih => exact ih (Pass.run s g p)
  | swap p q ps =>
    simp only [List.foldl_cons, foldl_run, Pass.run, Graph.components_append, Graph.links_append,
      List.append_assoc]
    constructor
    · rw [← List.append_assoc (q.output s).components, ← List.append_assoc (p.output s).components,
        components_comm]
    · refine .append_left _ ?_
      rw [← List.append_assoc, ← List.append_assoc]
      exact List.perm_append_comm.append_right _
  | trans _ _ ih ih' => exact ⟨(ih g).1.trans (ih' g).1, (ih g).2.trans (ih' g).2⟩

end Pass

/-! ## What an action does -/

namespace Action

/-- What an action makes of the tables. -/
def fill (s : Symbols) : Action → Symbols
  | ensurePackage path name directory => s.ensurePackage path name directory
  | addImport package path => s.addImports package [path]
  | addType decl => s.addType decl
  | addFunction decl => s.addFunction decl
  | addMethod decl => s.addMethod decl
  | _ => s

/-- The passes that an action runs. -/
def passes : Action → List Pass
  | run pass => [pass]
  | build => Pass.all
  | _ => []

theorem keyed_fill {s : Symbols} (h : s.Keyed) (a : Action) : (a.fill s).Keyed := by
  cases a with
  | ensurePackage path name directory => exact h.ensurePackage path name directory
  | addImport package path => exact h.addImports package [path]
  | addType decl => exact h.declare (.type decl)
  | addFunction decl => exact h.declare (.function decl)
  | addMethod decl => exact h.declare (.method decl)
  | _ => exact h

/-- What the passes of a list of actions would give on new starts, each on the tables of its
moment. -/
def freshOutputs (s : Symbols) : List Action → List Graph
  | [] => []
  | a :: as => (a.passes.map fun p => p.run s {}) ++ freshOutputs (a.fill s) as

end Action

namespace Session

/-- A session before its first action. -/
def start (base modulePath : String) : Session := { symbols := { base, modulePath } }

/-- The session after an action. An action that is refused leaves it as it is. -/
def after (s : Session) (a : Action) : Session := ((s.act a).map (·.1)).getD s

/-- The session after a list of actions. -/
def run (s : Session) (as : List Action) : Session := as.foldl after s

theorem contains_ensurePackage (s : Symbols) (path name directory : String) :
    (s.ensurePackage path name directory).packages.contains (.package path) = true := by
  unfold Symbols.ensurePackage
  dsimp only
  split
  · assumption
  · rw [Table.contains_iff, Table.mem_keys_insert]
    exact Or.inl rfl

/-- An import for a package that is not there leaves the tables as they are. -/
theorem addImports_of_missing {s : Symbols} {path : String} (imports : List String)
    (h : (s.addImports path imports).packages.get? (.package path) = none) :
    s.addImports path imports = s := by
  have hmissing : Key.package path ∉ s.packages.keys := by
    rw [← Table.contains_iff]
    unfold Symbols.addImports at h
    rw [Table.get?_modify, if_pos rfl, Option.map_eq_none_iff] at h
    simp [Table.contains, h]
  unfold Symbols.addImports
  rw [Table.modify_of_notMem hmissing]

/-- An action fills the tables, and adds what its passes give on the tables before it. -/
theorem after_eq (s : Session) (a : Action) :
    s.after a = ⟨a.fill s.symbols, a.passes.foldl (Pass.run s.symbols) s.gathered⟩ := by
  cases a with
  | ensurePackage path name directory =>
    obtain ⟨p, hp⟩ := Option.isSome_iff_exists.mp
      (contains_ensurePackage s.symbols path name directory)
    simp [after, act, hp, Action.fill, Action.passes]
  | addImport package path =>
    cases hp : (s.symbols.addImports package [path]).packages.get? (.package package) with
    | none =>
      have hstays : s.after (.addImport package path) = s := by simp [after, act, hp]
      have hsame := addImports_of_missing [path] hp
      simp [hstays, Action.fill, Action.passes, hsame]
    | some p => simp [after, act, hp, Action.fill, Action.passes]
  | _ => rfl

/-! ## What a session does -/

/-- The tables of a session are those of its actions without the passes. -/
theorem symbols_run (s : Session) (as : List Action) :
    (s.run as).symbols = as.foldl Action.fill s.symbols := by
  induction as generalizing s with
  | nil => rfl
  | cons a as ih =>
    change ((s.after a).run as).symbols = as.foldl Action.fill (a.fill s.symbols)
    rw [ih, after_eq]

/-- A session adds what its passes would give on new starts. -/
theorem gathered_run (s : Session) (as : List Action) :
    (s.run as).gathered = s.gathered ++ Graph.joined (Action.freshOutputs s.symbols as) := by
  induction as generalizing s with
  | nil => exact (Graph.append_empty s.gathered).symm
  | cons a as ih =>
    change ((s.after a).run as).gathered = _
    rw [ih, after_eq, Action.freshOutputs, Graph.joined_append, Pass.foldl_run, Graph.append_assoc]

theorem keyed_run {s : Session} (h : s.symbols.Keyed) (as : List Action) :
    (s.run as).symbols.Keyed := by
  induction as generalizing s with
  | nil => exact h
  | cons a as ih =>
    refine ih ?_
    rw [after_eq]
    exact a.keyed_fill h

theorem keyed_start (base modulePath : String) : (start base modulePath).symbols.Keyed :=
  ⟨Table.keyed_empty _, Table.keyed_empty _, Table.keyed_empty _, Table.keyed_empty _⟩

/-- Passes in a row are a fold over the passes. -/
theorem run_passes (s : Session) (ps : List Pass) :
    s.run (ps.map .run) = ⟨s.symbols, ps.foldl (Pass.run s.symbols) s.gathered⟩ := by
  induction ps generalizing s with
  | nil => rfl
  | cons p ps ih =>
    change (s.after (.run p)).run (ps.map .run) = _
    rw [ih, after_eq]
    rfl

/-! ## The law -/

/-- After any list of actions a pass leaves the tables as they are and adds what it would give
on a new start, and a full build answers all that was gathered before, followed by the graph of
the tables. It is the five passes in a row; in any other order, and however often each of them
comes, passes give the same components and the same links up to their order. Every symbol
stands under its own key, and no key stands twice. Over the whole session the tables are those
of its actions without the passes, and what is gathered is what its passes would have given on
new starts, one after the other. -/
theorem passes_add_what_they_would_give_alone (base modulePath : String) (as : List Action)
    (s : Session) (hs : s = (start base modulePath).run as) :
    (∀ pass : Pass, s.act (.run pass) =
      some (⟨s.symbols, s.gathered ++ pass.run s.symbols {}⟩, .graph (pass.run s.symbols {}))) ∧
      s.act .build =
        some (⟨s.symbols, s.gathered ++ s.symbols.graph⟩, .graph (s.gathered ++ s.symbols.graph)) ∧
      s.after .build = s.run (Pass.all.map .run) ∧
      (∀ ps qs : List Pass, ps.Perm qs →
        (s.run (ps.map .run)).symbols = s.symbols ∧
          (s.run (ps.map .run)).gathered.components =
            (s.run (qs.map .run)).gathered.components ∧
          (s.run (ps.map .run)).gathered.links.Perm (s.run (qs.map .run)).gathered.links) ∧
      s.symbols.Keyed ∧
      s.symbols = as.foldl Action.fill { base, modulePath } ∧
      s.gathered = .joined (Action.freshOutputs { base, modulePath } as) := by
  refine ⟨?_, ?_, ?_, ?_, ?_, ?_, ?_⟩
  · intro pass
    simp [act, Pass.run]
  · simp [act, Pass.buildOn_eq]
  · rw [after_eq, run_passes]
    rfl
  · intro ps qs h
    rw [run_passes, run_passes]
    exact ⟨rfl, Pass.foldl_run_perm s.symbols s.gathered h⟩
  · rw [hs]
    exact keyed_run (keyed_start base modulePath) as
  · rw [hs, symbols_run]
    rfl
  · rw [hs, gathered_run]
    exact Graph.empty_append _

/-- A session in which a function is declared after its call has been looked for, and an import
for a package that is not there is refused. -/
def lateDeclaration : List Action :=
  [.ensurePackage "m" "a" "", .addImport "n" "m/b",
   .addFunction
     { name := "f", package := "m", file := "", line := 1
       calls := [{ target := "g", line := 2 }] },
   .run .components, .run .callLinks,
   .addFunction { name := "g", package := "m", file := "", line := 4 },
   .run .callLinks, .run .callLinks]

/-- The first look finds no function to link to, the two later ones find it, and none of them
looks at what is gathered already. -/
theorem a_call_is_linked_by_each_later_pass :
    [Pass.typeLinks, .components, .callLinks, .containsLinks, .importLinks].Perm Pass.all ∧
      ((start "" "m").run lateDeclaration).gathered =
        { components := [⟨"m", "a", .package⟩, ⟨"m.f", "f", .function⟩]
          links :=
            [⟨"m.f", "m.g", .calls, some "g"⟩, ⟨"m.f", "m.g", .calls, some "g"⟩] } ∧
      (((start "" "m").run lateDeclaration).run
          ([Pass.typeLinks, .components, .callLinks, .containsLinks, .importLinks].map
            .run)).gathered.components =
        (((start "" "m").run lateDeclaration).after .build).gathered.components := by
  obtain ⟨_, _, hbuild, hperm, _, _, hgathered⟩ :=
    passes_add_what_they_would_give_alone "" "m" lateDeclaration _ rfl
  have horder :
      [Pass.typeLinks, .components, .callLinks, .containsLinks, .importLinks].Perm Pass.all := by
    decide
  refine ⟨horder, ?_, ?_⟩
  · rw [hgathered]
    decide
  · rw [hbuild]
    exact (hperm _ _ horder).2.1

end Session

end SourceAtlas
