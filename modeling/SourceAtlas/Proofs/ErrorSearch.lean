-- The search for the first error of a tree. It enters only the children that have a fault, and
-- finds the node that a search through the whole tree would come to first. So a source file is
-- refused at that node, and only when there is one.
import SourceAtlas.Proofs.AnalysisRuns
import SourceAtlas.Proofs.CallWalk

namespace SourceAtlas

namespace Node

/-! ## Faults -/

/-- The node shows an error, or reports one that no node shows. -/
def reports (n : Node) : Bool := n.broken || n.label.faulty

mutual
/-- A tree has a fault when one of its nodes shows or reports an error. -/
theorem hasFault_eq : ∀ n : Node, n.hasFault = n.preorder.any reports
  | mk l cs => by
    rw [hasFault, preorder, List.any_cons, anyFault_eq cs]
    rfl

theorem anyFault_eq : ∀ cs : List Node, anyFault cs = (preorderAll cs).any reports
  | [] => rfl
  | c :: cs => by
    rw [anyFault, preorderAll, List.any_append, hasFault_eq c, anyFault_eq cs]
end

/-- A tree without a fault may be left out: it holds no broken node. -/
theorem find?_broken_of_no_fault {n : Node} (h : n.hasFault = false) :
    n.preorder.find? broken = none := by
  rw [hasFault_eq, List.any_eq_false] at h
  rw [List.find?_eq_none]
  intro m hm hbroken
  apply h m hm
  unfold reports
  rw [hbroken, Bool.true_or]

/-! ## The search -/

mutual
/-- To leave out the children without a fault changes nothing. -/
theorem firstBroken?_eq : ∀ n : Node, n.firstBroken? = n.preorder.find? broken
  | mk l cs => by
    rw [firstBroken?, preorder, List.find?_cons, firstBrokenOf?_eq cs]
    cases (mk l cs).broken <;> rfl

theorem firstBrokenOf?_eq : ∀ cs : List Node, firstBrokenOf? cs = (preorderAll cs).find? broken
  | [] => rfl
  | c :: cs => by
    rw [firstBrokenOf?, preorderAll, List.find?_append, firstBroken?_eq c, firstBrokenOf?_eq cs]
    cases hfault : c.hasFault with
    | false => rw [if_neg Bool.false_ne_true, find?_broken_of_no_fault hfault, Option.none_or]
    | true =>
      rw [if_pos rfl]
      cases c.preorder.find? broken <;> rfl
end

/-- The first broken node has no broken node before it. -/
theorem firstBroken?_eq_some_iff {n b : Node} :
    n.firstBroken? = some b ↔ b.broken = true ∧
      ∃ before after, n.preorder = before ++ b :: after ∧ ∀ m ∈ before, m.broken = false := by
  rw [firstBroken?_eq, List.find?_eq_some_iff_append]
  simp

/-- Every node of the tree has a fault exactly when it is broken or a node below it is. -/
def FaultsShown (n : Node) : Prop :=
  ∀ m ∈ n.preorder, m.hasFault = true ↔ ∃ b ∈ m.preorder, b.broken = true

instance (n : Node) : Decidable n.FaultsShown :=
  inferInstanceAs (Decidable (∀ m ∈ n.preorder, _ ↔ _))

theorem FaultsShown.hasFault_iff {n : Node} (h : n.FaultsShown) :
    n.hasFault = true ↔ ∃ b ∈ n.preorder, b.broken = true := by
  apply h n
  rw [preorder_eq]
  exact List.mem_cons_self

theorem FaultsShown.exists_firstBroken? {n : Node} (h : n.FaultsShown)
    (hfault : n.hasFault = true) : ∃ b, n.firstBroken? = some b := by
  obtain ⟨m, hm, hbroken⟩ := h.hasFault_iff.mp hfault
  rw [firstBroken?_eq, ← Option.isSome_iff_exists, List.find?_isSome]
  exact ⟨m, hm, hbroken⟩

end Node

/-! ## Source files -/

namespace Source

variable {f : Files} {language path : String} {ready : Bool} {content : Content}

theorem sound_of_no_fault {tree : Node} (h : tree.hasFault = false) :
    sound path tree = .ok tree := by
  unfold sound
  rw [h]
  rfl

theorem sound_of_firstBroken? {tree b : Node} (h : tree.hasFault = true)
    (hfirst : tree.firstBroken? = some b) :
    sound path tree = .error (.badSource path (.brokenAt b.start)) := by
  unfold sound Node.faultPosition
  rw [h, hfirst]
  rfl

end Source

/-! ## The law -/

/-- Where every fault is shown by a broken node, the search that leaves out the children without
a fault comes to the same node as one through the whole tree, and it comes to one whenever the
tree has a fault. A file with that tree is refused exactly when a node of it is broken, and the
error tells where the first of these starts, with rows and columns counted from one. -/
theorem Node.the_search_finds_the_first_broken_node {n : Node} (h : n.FaultsShown) :
    n.firstBroken? = n.preorder.find? broken ∧
    (n.hasFault = true → ∃ b, n.firstBroken? = some b) ∧
    ∀ (f : Files) (language path : String) (ready : Bool) (content : Content),
      f.read path = .ok content → content.tree = n → languages.contains language = true →
        ((∃ e, (Source.read f language ready path).outcome = .error e) ↔
          ∃ b ∈ n.preorder, b.broken = true) ∧
        (∀ tree, (Source.read f language ready path).outcome = .ok tree → tree = n) ∧
        ∀ before b after, n.preorder = before ++ b :: after → (∀ m ∈ before, m.broken = false) →
          b.broken = true →
            ∃ e : AnalysisError, (Source.read f language ready path).outcome = .error (.analysis e) ∧
              e = .badSource path (.brokenAt b.start) ∧
              e.message = "failed to parse file " ++ path ++ ": " ++ ("syntax error at " ++
                toString (b.start.row + 1) ++ ":" ++ toString (b.start.column + 1)) := by
  refine ⟨n.firstBroken?_eq, h.exists_firstBroken?, ?_⟩
  intro f language path ready content hread htree hlanguage
  rw [Source.outcome_read_of_content ready hread hlanguage, htree, ← h.hasFault_iff]
  have hrefused : ∀ b, n.hasFault = true → n.firstBroken? = some b →
      (Source.sound path n).mapError .analysis =
        .error (Failure.analysis (.badSource path (.brokenAt b.start))) := by
    intro b hfault hfirst
    rw [Source.sound_of_firstBroken? hfault hfirst]
    rfl
  refine ⟨?_, ?_, ?_⟩
  · cases hfault : n.hasFault with
    | false =>
      rw [Source.sound_of_no_fault hfault]
      simp [Except.mapError]
    | true =>
      obtain ⟨b, hfirst⟩ := h.exists_firstBroken? hfault
      rw [hrefused b hfault hfirst]
      simp
  · intro tree hok
    cases hfault : n.hasFault with
    | false =>
      rw [Source.sound_of_no_fault hfault] at hok
      cases hok
      rfl
    | true =>
      obtain ⟨b, hfirst⟩ := h.exists_firstBroken? hfault
      rw [hrefused b hfault hfirst] at hok
      cases hok
  · intro before b after hsplit hbefore hbroken
    have hfault : n.hasFault = true := h.hasFault_iff.mpr ⟨b, by simp [hsplit], hbroken⟩
    have hfirst : n.firstBroken? = some b :=
      firstBroken?_eq_some_iff.mpr ⟨hbroken, before, after, hsplit, hbefore⟩
    exact ⟨_, hrefused b hfault hfirst, rfl, rfl⟩

/-- A closing bracket that the source left out. -/
def Node.missingBracket : Node :=
  .mk { kind := ")", named := false, start := ⟨2, 5⟩, missing := true } []

/-- A function whose body lacks a bracket and is broken once more after it, between a sound
clause and a broken end. -/
def Node.brokenTwice : Node :=
  .mk { kind := "source_file" }
    [.mk { kind := "package_clause" } [.mk { kind := "package_identifier", text := some "a" } []],
     .mk { kind := "function_declaration", start := ⟨2, 0⟩ }
      [.mk { kind := "identifier", text := some "f", start := ⟨2, 5⟩ } [],
       .mk { kind := "block", start := ⟨2, 5⟩ }
        [missingBracket, .mk { kind := errorKind, start := ⟨2, 9⟩ } []]],
     .mk { kind := errorKind, start := ⟨1, 0⟩ } []]

/-- The first of three broken nodes is the one that is reported, deep as it stands. -/
theorem Node.a_missing_bracket_is_reported_before_later_errors :
    brokenTwice.FaultsShown ∧ brokenTwice.firstBroken? = some missingBracket ∧
      ∀ ready, ∃ e : AnalysisError,
        (Source.read { root := .directory {} [("a.go", .file {} (.parsed brokenTwice))] } "go"
          ready "/a.go").outcome = .error (.analysis e) ∧
        e.message = "failed to parse file /a.go: syntax error at 3:6" := by
  have hshown : brokenTwice.FaultsShown := by decide
  obtain ⟨hsearch, _, hread⟩ := the_search_finds_the_first_broken_node hshown
  refine ⟨hshown, hsearch.trans rfl, ?_⟩
  intro ready
  have hpath : Files.Spells "/a.go" ["a.go"] := by decide
  have hcontent : Files.read { root := .directory {} [("a.go", .file {} (.parsed brokenTwice))] }
      "/a.go" = .ok (.parsed brokenTwice) :=
    Files.read_child _ hpath rfl rfl rfl rfl
  obtain ⟨_, _, hfirst⟩ := hread _ "go" _ ready _ hcontent rfl (by decide)
  obtain ⟨e, hrefused, rfl, _⟩ :=
    hfirst (brokenTwice.preorder.take 6) missingBracket _ rfl (by decide) rfl
  exact ⟨_, hrefused, by decide⟩

end SourceAtlas
