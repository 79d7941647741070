-- Two graphs never have the same YAML text. The fields, the items and the two lists of a
-- graph are read back one after the other, each up to where the next one starts, so that the
-- text of a graph leads back to it.
import SourceAtlas.Proofs.YamlScalars

namespace SourceAtlas.Yaml

/-! ## Fixed parts -/

/-- What follows the expected characters, if they are there. -/
def expect? : List Char → List Char → Option (List Char)
  | [], cs => some cs
  | _ :: _, [] => none
  | p :: ps, c :: cs => if p = c then expect? ps cs else none

theorem expect?_append (ps cs : List Char) : expect? ps (ps ++ cs) = some cs := by
  induction ps with
  | nil => rfl
  | cons p ps ih => rw [List.cons_append, expect?, if_pos rfl, ih]

/-- Two texts that differ after a common part are not taken for each other. -/
theorem expect?_of_ne {p c : Char} (h : p ≠ c) (common ps cs : List Char) :
    expect? (common ++ p :: ps) (common ++ c :: cs) = none := by
  induction common with
  | nil => rw [List.nil_append, List.nil_append, expect?, if_neg h]
  | cons d common ih => rw [List.cons_append, List.cons_append, expect?, if_pos rfl, ih]

theorem expect?_of_head {p : Char} {ps cs : List Char} (h : cs.head? ≠ some p) :
    expect? (p :: ps) cs = none := by
  cases cs with
  | nil => rfl
  | cons c cs =>
    rw [expect?, if_neg]
    rintro rfl
    exact h rfl

/-! ## Fields -/

/-- A key with its value on a line. -/
def readField (lead key : String) (cs : List Char) : Option (String × List Char) := do
  let cs ← expect? (lead ++ key ++ ":").toList cs
  let (value, cs) ← readScalar cs
  let cs ← expect? ['\n'] cs
  some (String.ofList value, cs)

theorem readField_writeField (lead key value : String) {rest : List Char} (hrest : Shallow rest) :
    readField lead key (writeField lead key value ++ rest) = some (value, rest) := by
  unfold readField writeField
  simp only [List.append_assoc, expect?_append, Option.bind_eq_bind, Option.bind_some,
    List.singleton_append, readScalar_writeString _ value hrest, expect?, if_true,
    String.ofList_toList]

theorem shallow_of_head {rest : List Char} (h : rest.head? ≠ some ' ') : Shallow rest := by
  rintro cs rfl
  exact h rfl

/-- A line of a further field has the two blanks before its key and no more. -/
theorem shallow_writeField (key value : String) (rest : List Char)
    (hkey : key.toList.head? ≠ some ' ') : Shallow (writeField "  " key value ++ rest) := by
  intro cs h
  unfold writeField at h
  cases hletters : key.toList with
  | nil => simp [hletters] at h
  | cons c letters =>
    simp [hletters] at h hkey
    exact hkey h.1

/-- What does not start with a dash is no item. -/
theorem readField_of_no_dash (key : String) {cs : List Char} (h : cs.head? ≠ some '-') :
    readField "- " key cs = none := by
  simp [readField, expect?_of_head h]

/-- What does not start with a blank is no further field. -/
theorem readField_of_no_blank (key : String) {cs : List Char} (h : cs.head? ≠ some ' ') :
    readField "  " key cs = none := by
  simp [readField, expect?_of_head h]

/-! ## Items -/

def readComponent (cs : List Char) : Option (Component × List Char) := do
  let (id, cs) ← readField "- " "id" cs
  let (title, cs) ← readField "  " "title" cs
  let (word, cs) ← readField "  " "entity" cs
  let entity ← Entity.all.find? fun entity => entity.word == word
  some (⟨id, title, entity⟩, cs)

/-- The called name of a link, if a field with it follows. -/
def readMethod (cs : List Char) : Option String × List Char :=
  match readField "  " "method" cs with
  | some (method, cs) => (some method, cs)
  | none => (none, cs)

def readLink (cs : List Char) : Option (Link × List Char) := do
  let (source, cs) ← readField "- " "from" cs
  let (target, cs) ← readField "  " "to" cs
  let (word, cs) ← readField "  " "type" cs
  let kind ← LinkKind.all.find? fun kind => kind.word == word
  let (method, cs) := readMethod cs
  some (⟨source, target, kind, method⟩, cs)

/-- A reader takes the items of a list off a text: each one is read back from its fields when
no further field follows, and nothing is taken where no item starts. -/
structure Reads {α : Type} (read : List Char → Option (α × List Char))
    (fields : α → List (String × String)) : Prop where
  item (a : α) {rest : List Char} (hrest : rest.head? ≠ some ' ') :
    read (writeItem (fields a) ++ rest) = some (a, rest)
  dash (a : α) : (writeItem (fields a)).head? = some '-'
  stop {rest : List Char} (hrest : rest.head? ≠ some '-') : read rest = none

theorem reads_component : Reads readComponent componentFields where
  item c rest hrest := by
    have hentity := shallow_writeField "entity" c.entity.word rest (by decide)
    have htitle := shallow_writeField "title" c.title
      (writeField "  " "entity" c.entity.word ++ rest) (by decide)
    simp only [componentFields, writeItem, List.flatMap_cons, List.flatMap_nil, List.append_nil,
      List.append_assoc]
    simp only [readComponent, readField_writeField _ _ _ htitle, readField_writeField _ _ _ hentity,
      readField_writeField _ _ _ (shallow_of_head hrest), Entity.find?_word, Option.bind_eq_bind,
      Option.bind_some]
  dash c := by simp [componentFields, writeItem, writeField]
  stop hrest := by simp [readComponent, readField_of_no_dash "id" hrest]

/-- The called name is the last field of a link, so that its absence shows in what follows. -/
theorem writeItem_link (l : Link) {rest : List Char} (hrest : rest.head? ≠ some ' ') :
    ∃ tail, Shallow tail ∧ readMethod tail = (l.method, rest) ∧
      writeItem (linkFields l) ++ rest =
        writeField "- " "from" l.source ++
          (writeField "  " "to" l.target ++ (writeField "  " "type" l.kind.word ++ tail)) := by
  obtain ⟨source, target, kind, method⟩ := l
  have hshallow := shallow_of_head hrest
  cases method with
  | none =>
    refine ⟨rest, hshallow, ?_, ?_⟩
    · simp only [readMethod, readField_of_no_blank "method" hrest]
    · simp [linkFields, writeItem]
  | some m =>
    refine ⟨writeField "  " "method" m ++ rest, shallow_writeField _ _ _ (by decide), ?_, ?_⟩
    · simp only [readMethod, readField_writeField _ _ _ hshallow]
    · simp [linkFields, writeItem]

theorem reads_link : Reads readLink linkFields where
  item l rest hrest := by
    obtain ⟨tail, htail, hmethod, hitem⟩ := writeItem_link l hrest
    have htype := shallow_writeField "type" l.kind.word tail (by decide)
    have hto := shallow_writeField "to" l.target
      (writeField "  " "type" l.kind.word ++ tail) (by decide)
    rw [hitem]
    simp only [readLink, readField_writeField _ _ _ hto, readField_writeField _ _ _ htype,
      readField_writeField _ _ _ htail, LinkKind.find?_word, hmethod, Option.bind_eq_bind,
      Option.bind_some]
  dash l := by simp [linkFields, writeItem, writeField]
  stop hrest := by simp [readLink, readField_of_no_dash "from" hrest]

/-! ## Lists -/

/-- Items as long as there are any, at most a given number of them. -/
def readMany {α : Type} (read : List Char → Option (α × List Char)) :
    Nat → List Char → List α × List Char
  | 0, cs => ([], cs)
  | n + 1, cs =>
    match read cs with
    | none => ([], cs)
    | some (a, cs) => (readMany read n cs).map (a :: ·) id

/-- A named list: nothing between brackets, or items on the lines that follow. -/
def readList {α : Type} (name : String) (read : List Char → Option (α × List Char))
    (cs : List Char) : Option (List α × List Char) :=
  match expect? (name ++ ": []\n").toList cs with
  | some cs => some ([], cs)
  | none => (expect? (name ++ ":\n").toList cs).map fun cs => readMany read cs.length cs

section
variable {α : Type} {read : List Char → Option (α × List Char)}
  {fields : α → List (String × String)} (h : Reads read fields)
include h

/-- After an item stands the dash of the next one or what ends the list. -/
theorem Reads.no_blank (as : List α) {rest : List Char} (hrest : rest.head? ≠ some ' ') :
    ((as.map fields).flatMap writeItem ++ rest).head? ≠ some ' ' := by
  cases as with
  | nil => exact hrest
  | cons a as => simp [h.dash a]

theorem Reads.readMany (as : List α) {rest : List Char} (hblank : rest.head? ≠ some ' ')
    (hdash : rest.head? ≠ some '-') {n : Nat} (hn : as.length ≤ n) :
    readMany read n ((as.map fields).flatMap writeItem ++ rest) = (as, rest) := by
  induction as generalizing n with
  | nil => cases n with
    | zero => rfl
    | succ n => simp [Yaml.readMany, h.stop hdash]
  | cons a as ih =>
    cases n with
    | zero => simp at hn
    | succ n =>
      rw [List.map_cons, List.flatMap_cons, List.append_assoc, Yaml.readMany,
        h.item a (h.no_blank as hblank)]
      simp only [ih (Nat.le_of_succ_le_succ hn), Prod.map, id]

/-- Each item has a character at least, so that the length of a text bounds their number. -/
theorem Reads.length_le (as : List α) :
    as.length ≤ ((as.map fields).flatMap writeItem).length := by
  induction as with
  | nil => exact Nat.le_refl 0
  | cons a as ih =>
    have ha : 0 < (writeItem (fields a)).length :=
      List.length_pos_iff.mpr fun hnil => by simpa [hnil] using h.dash a
    simp only [List.map_cons, List.flatMap_cons, List.length_append, List.length_cons]
    omega

theorem Reads.readList (name : String) (as : List α) (rest : List Char)
    (hblank : rest.head? ≠ some ' ') (hdash : rest.head? ≠ some '-') :
    readList name read (writeList name (as.map fields) ++ rest) = some (as, rest) := by
  unfold Yaml.readList writeList
  cases as with
  | nil => simp only [List.map_nil, List.isEmpty_nil, if_true, expect?_append]
  | cons a as =>
    -- The two headings part after the colon.
    have hbrackets :
        (name ++ ": []\n").toList = (name.toList ++ [':']) ++ ' ' :: ['[', ']', '\n'] := by
      simp
    have hlines (cs : List Char) :
        (name ++ ":\n").toList ++ cs = (name.toList ++ [':']) ++ '\n' :: cs := by
      simp
    have hlength := h.length_le (a :: as)
    rw [if_neg (by simp), List.append_assoc]
    rw [hlines, hbrackets, expect?_of_ne (by decide), ← hlines, expect?_append]
    rw [Option.map_some, h.readMany (a :: as) hblank hdash]
    rw [List.length_append]
    omega

end

/-! ## Graphs -/

/-- The graph that a text is of. -/
def read (s : String) : Option Graph := do
  let (components, cs) ← readList "components" readComponent s.toList
  let (links, cs) ← readList "links" readLink cs
  if cs.isEmpty then some ⟨components, links⟩ else none

theorem head?_writeList (name : String) (items : List (List (String × String))) :
    (writeList name items).head? = (name.toList ++ [':']).head? := by
  unfold writeList
  split <;> simp

theorem read_write (g : Graph) : read (write g) = some g := by
  have hlinks := head?_writeList "links" (g.links.map linkFields)
  have hcomponents := reads_component.readList "components" g.components
    (writeList "links" (g.links.map linkFields)) (by simp [hlinks]) (by simp [hlinks])
  have hrest := reads_link.readList "links" g.links [] (by simp) (by simp)
  rw [List.append_nil] at hrest
  simp [read, write, hcomponents, hrest]

/-- Two graphs have one text only if they are the same, whatever styles their strings are
written in and wherever their lines fold. -/
theorem graphs_of_one_text_are_equal (g₁ g₂ : Graph) : write g₁ = write g₂ ↔ g₁ = g₂ := by
  constructor
  · intro h
    have hread : some g₁ = some g₂ := by
      rw [← read_write g₁, ← read_write g₂, h]
    exact Option.some.inj hread
  · rintro rfl
    rfl

end SourceAtlas.Yaml
