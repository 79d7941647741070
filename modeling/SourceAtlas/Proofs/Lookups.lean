-- A path is followed one name at a time. What a name comes to depends on two things only: what
-- stands at the place where one is, and what stands there under the name.
import Mathlib.Tactic.SplitIfs
import SourceAtlas.Files.Lookup

namespace SourceAtlas

namespace Entry

/-- The entry without what stands in it. -/
def face : Entry → Entry
  | directory mode _ => directory mode []
  | e => e

theorem face_eq_directory_iff {e : Entry} {mode : Mode} :
    e.face = directory mode [] ↔ ∃ es, e = directory mode es := by
  cases e <;> simp [face]

theorem face_eq_file_iff {e : Entry} {mode : Mode} {content : Content} :
    e.face = file mode content ↔ e = file mode content := by
  cases e <;> simp [face]

theorem face_eq_link_iff {e : Entry} {target : String} :
    e.face = link target ↔ e = link target := by
  cases e <;> simp [face]

theorem isDirectory_face (e : Entry) : e.face.isDirectory = e.isDirectory := by
  cases e <;> rfl

end Entry

namespace Files

/-- What one name of a way comes to: an end, or a place to go on from with the names and the
links that are left. -/
inductive Turn where
  | ends (outcome : Except Cause Spot)
  | goes (links : Nat) (place rest : List String)

/-- Where the way comes to in the end. -/
def Turn.outcome (root : Entry) (made : Bool) : Turn → Except Cause Spot
  | ends outcome => outcome
  | goes links place rest => follow root made links place rest

/-- A name that is looked up, by what stands under it. -/
def lookUp (links : Nat) (place : List String) (name : String) (rest : List String) :
    Option Entry → Turn
  | none => .ends (if rest.isEmpty then .ok (.free place name) else .error .notFound)
  | some (.link target) =>
    match links with
    | 0 => .ends (.error .tooManyLinks)
    | links + 1 => .goes links (if Path.isAbsolute target then [] else place) (names target ++ rest)
  | some _ => .goes links (place ++ [name]) rest

/-- One name of a way, by what stands at the place and what stands there under the name. -/
def turn (made : Bool) (links : Nat) (place : List String) (name : String) (rest : List String) :
    Option Entry → Option Entry → Turn
  | some (.directory mode _), child =>
    if name == "" then .goes links place rest
    else if !mode.execute then .ends (.error .denied)
    else if made && endsInDirectory name rest then .ends (.error .isDirectory)
    else if name == "." then .goes links place rest
    else if name == ".." then .goes links place.dropLast rest
    else if maxName < name.utf8ByteSize then .ends (.error .nameTooLong)
    else lookUp links place name rest child
  | some _, _ => .ends (.error .notDirectory)
  | none, _ => .ends (.error .notFound)

variable {made : Bool} {links : Nat} {place rest : List String} {name : String}

/-- To follow a path is to take one turn after the other. -/
theorem follow_cons (root : Entry) :
    follow root made links place (name :: rest) =
      (turn made links place name rest (root.at? place) (root.at? (place ++ [name]))).outcome
        root made := by
  rw [follow, Entry.at?_snoc]
  cases root.at? place with
  | none => rfl
  | some dir =>
    cases dir with
    | file mode content => rfl
    | link target => rfl
    | directory mode es =>
      dsimp only [turn, Option.bind_some]
      iterate 6
        split
        · rfl
      cases (Entry.directory mode es).child? name with
      | none => rfl
      | some e => cases e <;> cases links <;> rfl

/-- A proper name is looked up where the directory lets things be. -/
theorem turn_proper {mode : Mode} {es : List (String × Entry)} (hmode : mode.execute = true)
    (hname : name ∉ ["", ".", ".."]) (hsize : name.utf8ByteSize ≤ maxName)
    (hmade : (made && endsInDirectory name rest) = false) (child : Option Entry) :
    turn made links place name rest (some (.directory mode es)) child =
      lookUp links place name rest child := by
  simp only [List.mem_cons, List.not_mem_nil, or_false, not_or] at hname
  obtain ⟨hempty, hspot, hup⟩ := hname
  simp only [turn, beq_iff_eq, hempty, hspot, hup, hmode, hmade, Bool.not_true,
    Bool.false_eq_true, Nat.not_lt.mpr hsize, if_false]

/-- Every turn that goes on has fewer links left, or fewer names. -/
theorem turn_shorter {dir child : Option Entry} {links' : Nat} {place' rest' : List String}
    (h : turn made links place name rest dir child = .goes links' place' rest') :
    links' < links ∨ links' = links ∧ rest'.length ≤ rest.length := by
  have hlookUp : lookUp links place name rest child = .goes links' place' rest' →
      links' < links ∨ links' = links ∧ rest'.length ≤ rest.length := by
    intro h
    unfold lookUp at h
    split at h
    · cases h
    · split at h
      · cases h
      · cases h
        exact .inl (Nat.lt_succ_self _)
    · cases h
      exact .inr ⟨rfl, Nat.le_refl _⟩
  unfold turn at h
  split at h
  · split_ifs at h
    case neg => exact hlookUp h
    all_goals cases h
    all_goals exact .inr ⟨rfl, Nat.le_refl _⟩
  · cases h
  · cases h

theorem follow_induction {P : Nat → List String → List String → Prop}
    (nil : ∀ links place, P links place [])
    (cons : ∀ links place name rest,
      (∀ links' place' rest', links' < links ∨ links' = links ∧ rest'.length ≤ rest.length →
        P links' place' rest') →
      P links place (name :: rest)) :
    ∀ links place rest, P links place rest
  | links, place, [] => nil links place
  | links, place, name :: rest =>
    cons links place name rest fun links' place' rest' _ =>
      follow_induction nil cons links' place' rest'
termination_by links _ rest => (links, rest.length)
decreasing_by
  rename_i h
  rcases h with h | ⟨rfl, h⟩
  · exact .left _ _ h
  · exact .right _ (Nat.lt_succ_of_le h)

theorem lookUp_face (links : Nat) (place : List String) (name : String) (rest : List String)
    (child : Option Entry) :
    lookUp links place name rest (child.map Entry.face) = lookUp links place name rest child := by
  cases child with
  | none => rfl
  | some e => cases e <;> rfl

/-- A turn does not ask what stands in the things that it sees. -/
theorem turn_face (made : Bool) (links : Nat) (place : List String) (name : String)
    (rest : List String) (dir child : Option Entry) :
    turn made links place name rest (dir.map Entry.face) (child.map Entry.face) =
      turn made links place name rest dir child := by
  cases dir with
  | none => rfl
  | some dir =>
    cases dir with
    | file mode content => rfl
    | link target => rfl
    | directory mode es => simp only [turn, Option.map_some, Entry.face, lookUp_face]

/-- Only a free name is an end that is no fault. -/
theorem lookUp_ends_ok {links : Nat} {child : Option Entry} {spot : Spot}
    (h : lookUp links place name rest child = .ends (.ok spot)) :
    spot = .free place name ∧ rest = [] ∧ child = none := by
  unfold lookUp at h
  split at h
  · split at h
    · cases h
      exact ⟨rfl, List.isEmpty_iff.mp ‹_›, rfl⟩
    · cases h
  · split at h <;> cases h
  · cases h

/-- A name of a way stops it, or leads on whatever stands under it, or is looked up. What a way to
something that is to be made may do, any way may. -/
theorem turn_cases (made : Bool) (links : Nat) (place : List String) (name : String)
    (rest : List String) (dir child : Option Entry) :
    (∃ cause, turn made links place name rest dir child = .ends (.error cause)) ∨
      (∃ links' place' rest',
        turn made links place name rest dir child = .goes links' place' rest' ∧
        ∀ child', turn false links place name rest dir child' = .goes links' place' rest') ∨
      (turn made links place name rest dir child = lookUp links place name rest child ∧
        ∀ child', turn false links place name rest dir child' =
          lookUp links place name rest child') := by
  unfold turn
  split
  · simp only [Bool.false_and, Bool.false_eq_true, if_false]
    split
    · exact .inr (.inl ⟨_, _, _, rfl, fun _ => rfl⟩)
    split
    · exact .inl ⟨_, rfl⟩
    split
    · exact .inl ⟨_, rfl⟩
    split
    · exact .inr (.inl ⟨_, _, _, rfl, fun _ => rfl⟩)
    split
    · exact .inr (.inl ⟨_, _, _, rfl, fun _ => rfl⟩)
    split
    · exact .inl ⟨_, rfl⟩
    · exact .inr (.inr ⟨rfl, fun _ => rfl⟩)
  · exact .inl ⟨_, rfl⟩
  · exact .inl ⟨_, rfl⟩

theorem turn_ends_ok {made : Bool} {links : Nat} {dir child : Option Entry} {spot : Spot}
    (h : turn made links place name rest dir child = .ends (.ok spot)) :
    spot = .free place name ∧ rest = [] ∧ child = none := by
  rcases turn_cases made links place name rest dir child with
    ⟨cause, hturn⟩ | ⟨_, _, _, hturn, _⟩ | ⟨hturn, _⟩
  · rw [hturn] at h
    cases h
  · rw [hturn] at h
    cases h
  · exact lookUp_ends_ok (hturn.symm.trans h)

/-- Nothing stands where a path leads to a free name. -/
theorem at?_of_follow_free {root : Entry} {made : Bool} {links : Nat}
    {start rest parent : List String} {name : String}
    (h : follow root made links start rest = .ok (.free parent name)) :
    root.at? (parent ++ [name]) = none := by
  induction links, start, rest using follow_induction with
  | nil links start =>
    rw [follow] at h
    cases h
  | cons links start first rest ih =>
    rw [follow_cons] at h
    cases hturn : turn made links start first rest (root.at? start)
        (root.at? (start ++ [first])) with
    | ends outcome =>
      rw [hturn] at h
      obtain rfl : outcome = .ok (.free parent name) := h
      obtain ⟨hspot, _, hnone⟩ := turn_ends_ok hturn
      cases hspot
      exact hnone
    | goes links' start' rest' =>
      rw [hturn] at h
      exact ih links' start' rest' (turn_shorter hturn) h

theorem followRemoved_follows {root : Entry} {made : Bool} {parent rest : List String} {spot : Spot}
    (h : followRemoved root made parent rest = .ok spot) (hspot : spot ≠ .orphan) :
    ∃ rest', follow root made maxLinks parent rest' = .ok spot ∧
      ∀ root',
        followRemoved root' false parent rest = follow root' false maxLinks parent rest' := by
  induction rest with
  | nil =>
    cases h
    exact absurd rfl hspot
  | cons name rest ih =>
    simp only [followRemoved, Bool.false_and, Bool.false_eq_true, if_false] at h ⊢
    split at h
    · cases h
    · split at h
      · rename_i hstay
        simpa only [if_pos hstay] using ih h
      · rename_i hstay
        split at h
        · rename_i hup
          exact ⟨rest, h, fun _ => by rw [if_neg hstay, if_pos hup]⟩
        · cases h

/-- A path that does not end in a removed directory is followed from some place on. -/
theorem locate_follows {f : Files} {made : Bool} {path : String} {spot : Spot}
    (h : f.locate made path = .ok spot) (hspot : spot ≠ .orphan) :
    ∃ start rest, follow f.root made maxLinks start rest = .ok spot ∧
      ∀ f' : Files, f'.here = f.here →
        f'.locate false path = follow f'.root false maxLinks start rest := by
  unfold locate at h
  split at h
  · cases h
  rename_i hnul
  split at h
  · cases h
  rename_i hempty
  split at h
  · cases h
  rename_i hlong
  split at h
  · rename_i habsolute
    refine ⟨[], names path, h, fun f' _ => ?_⟩
    rw [locate, if_neg hnul, if_neg hempty, if_neg hlong, if_pos habsolute]
  · rename_i hrelative
    cases hhere : f.here with
    | present place =>
      rw [hhere] at h
      refine ⟨place, names path, h, fun f' hsame => ?_⟩
      rw [locate, if_neg hnul, if_neg hempty, if_neg hlong, if_neg hrelative, hsame]
    | removed parent =>
      rw [hhere] at h
      obtain ⟨rest, hfollow, hremoved⟩ := followRemoved_follows h hspot
      refine ⟨parent, rest, hfollow, fun f' hsame => ?_⟩
      rw [locate, if_neg hnul, if_neg hempty, if_neg hlong, if_neg hrelative, hsame, ← hremoved]

end Files

end SourceAtlas
