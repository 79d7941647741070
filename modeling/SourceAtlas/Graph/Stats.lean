-- How many components and links a graph has, by kind.
import SourceAtlas.Graph.Basic
import SourceAtlas.Table

namespace SourceAtlas

/-- Counts by kind. Kinds that do not occur are left out; the others come in the order in
which they are met first. -/
structure Stats where
  components : Nat
  links : Nat
  byEntity : List (Entity × Nat)
  byLinkKind : List (LinkKind × Nat)
  deriving DecidableEq, Repr, Inhabited

namespace Stats

section

variable {κ : Type}

/-- Counts one more of a kind. -/
def countOne [DecidableEq κ] (t : Table κ Nat) (k : κ) : Table κ Nat :=
  t.insert k ((t.get? k).getD 0 + 1)

/-- How often each of the kinds occurs. -/
def tally [DecidableEq κ] (kinds : List κ) : Table κ Nat := kinds.foldl countOne {}

/-- One line for each count, in the alphabetical order of the words for the kinds. -/
def rows (word : κ → String) (counts : List (κ × Nat)) : List String :=
  (counts.mergeSort fun a b => word a.1 ≤ word b.1).map fun (k, n) =>
    "  - " ++ word k ++ ": " ++ toString n

end

def ofGraph (g : Graph) : Stats where
  components := g.components.length
  links := g.links.length
  byEntity := (tally (g.components.map (·.entity))).entries
  byLinkKind := (tally (g.links.map (·.kind))).entries

/-- The counts as lines for people. -/
def lines (s : Stats) : List String :=
  ("Found components: " ++ toString s.components) :: rows Entity.word s.byEntity
    ++ ("Found links: " ++ toString s.links) :: rows LinkKind.word s.byLinkKind

def text (s : Stats) : String := String.intercalate "\n" s.lines

end Stats

end SourceAtlas
