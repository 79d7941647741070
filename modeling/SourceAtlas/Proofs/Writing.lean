-- Writing a file. A path can be opened for writing when it leads to a file that may be changed, or
-- to a free name in a directory that may be changed. Afterwards the path leads to the new text, or
-- to as much of it as there was room for, and every other place holds what it held before.
import SourceAtlas.Proofs.Lookups

namespace SourceAtlas

/-! ## Changing one entry of a tree -/

namespace Entry

variable {mode : Mode} {es : List (String × Entry)} {name other : String} {new e : Entry}

theorem child?_putChild_self : (directory mode (putChild name new es)).child? name = some new := by
  unfold child? entries
  dsimp only
  induction es with
  | nil => simp [putChild]
  | cons x es ih =>
    unfold putChild
    split
    · simp
    · rename_i hname
      simpa [List.find?_cons, hname] using ih

theorem child?_putChild_of_ne (h : other ≠ name) :
    (directory mode (putChild name new es)).child? other = (directory mode es).child? other := by
  unfold child? entries
  dsimp only
  induction es with
  | nil => simp [putChild, h.symm]
  | cons x es ih =>
    unfold putChild
    split
    · rename_i hname
      have hx : x.1 = name := by simpa using hname
      simp [h.symm, hx]
    · simp only [List.find?_cons]
      split
      · rfl
      · exact ih

theorem directory_of_child? (h : e.child? name = some new) : ∃ mode es, e = directory mode es := by
  cases e with
  | directory mode es => exact ⟨mode, es, rfl⟩
  | file mode content => cases h
  | link target => cases h

variable {change : Option Entry → Entry} {parent : List String}

theorem at?_alter_self (hparent : e.at? parent = some (directory mode es)) :
    (alter change (parent ++ [name]) (some e)).at? (parent ++ [name]) =
      some (change (e.at? (parent ++ [name]))) := by
  induction parent generalizing e with
  | nil =>
    cases hparent
    simp [alter, at?, child?_putChild_self]
  | cons first parent ih =>
    obtain ⟨inner, hchild, hinner⟩ := Option.bind_eq_some_iff.mp hparent
    obtain ⟨mode, es, rfl⟩ := directory_of_child? hchild
    simp only [List.cons_append, alter, Option.getD_some, at?, hchild, child?_putChild_self,
      Option.bind_some]
    exact ih hinner

/-- Where a file takes the place of a file or of nothing, all other places stay as they are. -/
theorem at?_alter_of_ne (hparent : e.at? parent = some (directory mode es))
    (hold : ∀ old, e.at? (parent ++ [name]) = some old → ∃ mode content, old = file mode content)
    (hnew : ∀ old, ∃ mode content, change old = file mode content) {place : List String}
    (hplace : place ≠ parent ++ [name]) :
    ((alter change (parent ++ [name]) (some e)).at? place).map face = (e.at? place).map face := by
  induction parent generalizing e place with
  | nil =>
    cases hparent
    rcases place with _ | ⟨other, rest⟩
    · rfl
    · by_cases hother : other = name
      · subst hother
        have hrest : rest ≠ [] := by
          rintro rfl
          exact hplace rfl
        obtain ⟨next, below, rfl⟩ := List.exists_cons_of_ne_nil hrest
        -- neither the old file nor the new one has anything below it
        obtain ⟨_, _, hfile⟩ := hnew ((directory mode es).child? other)
        have hnone : ((directory mode es).child? other).bind (·.at? (next :: below)) = none := by
          cases hchild : (directory mode es).child? other with
          | none => rfl
          | some old =>
            obtain ⟨_, _, rfl⟩ := hold old (by simp [at?, hchild])
            rfl
        simp only [List.nil_append, alter, Option.getD_some, at?, child?_putChild_self, hfile,
          Option.bind_some] at hnone ⊢
        rw [hnone]
        rfl
      · simp [alter, at?, child?_putChild_of_ne hother]
  | cons first parent ih =>
    obtain ⟨inner, hchild, hinner⟩ := Option.bind_eq_some_iff.mp hparent
    obtain ⟨mode', es', rfl⟩ := directory_of_child? hchild
    rcases place with _ | ⟨other, rest⟩
    · rfl
    · by_cases hother : other = first
      · subst hother
        simp only [List.cons_append, alter, Option.getD_some, at?, hchild, child?_putChild_self,
          Option.bind_some] at hold ⊢
        refine ih hinner hold ?_
        rintro rfl
        exact hplace rfl
      · simp [alter, at?, child?_putChild_of_ne hother]

end Entry

/-! ## Where a path leads afterwards -/

/-- The place that a spot stands for. -/
def Spot.place? : Spot → Option (List String)
  | found place => some place
  | free parent name => some (parent ++ [name])
  | orphan => none

/-- Two trees that differ at one place. There the second has a file, and the first a file or
nothing. -/
structure Entry.FilledAt (place : List String) (root root' : Entry) : Prop where
  old : ∀ e, root.at? place = some e → ∃ mode content, e = file mode content
  new : ∃ mode content, root'.at? place = some (file mode content)
  others : ∀ other, other ≠ place → (root'.at? other).map face = (root.at? other).map face

namespace Files

variable {place : List String} {root root' : Entry}

/-- A way along which a file could be made leads to it once it is there. -/
theorem follow_filled (h : Entry.FilledAt place root root') (links : Nat)
    (start rest : List String) {spot : Spot} (hspot : spot.place? = some place)
    (hfollow : follow root true links start rest = .ok spot) :
    follow root' false links start rest = .ok (.found place) := by
  induction links, start, rest using follow_induction with
  | nil links start =>
    rw [follow] at hfollow ⊢
    cases hfollow
    cases hspot
    rfl
  | cons links start name rest ih =>
    rw [follow_cons] at hfollow ⊢
    have hstart : start ≠ place := by
      rintro rfl
      cases hat : root.at? start with
      | none =>
        rw [hat] at hfollow
        cases hfollow
      | some e =>
        obtain ⟨mode, content, rfl⟩ := h.old e hat
        rw [hat] at hfollow
        cases hfollow
    have hsight : ∀ child, turn false links start name rest (root'.at? start) child =
        turn false links start name rest (root.at? start) child := by
      intro child
      rw [← turn_face, h.others start hstart, turn_face]
    rw [hsight]
    rcases turn_cases true links start name rest (root.at? start) (root.at? (start ++ [name])) with
      ⟨cause, hturn⟩ | ⟨links', start', rest', hturn, hfree⟩ | ⟨hturn, hfree⟩
    · rw [hturn] at hfollow
      cases hfollow
    · rw [hturn] at hfollow
      rw [hfree]
      exact ih links' start' rest' (turn_shorter hturn) hfollow
    · rw [hfree]
      by_cases hlast : start ++ [name] = place
      · obtain ⟨mode, content, hnew⟩ := h.new
        rw [hlast, hnew]
        change follow root' false links (start ++ [name]) rest = .ok (.found place)
        rw [hturn, hlast] at hfollow
        cases hat : root.at? place with
        | none =>
          rw [hat] at hfollow
          have hends : lookUp links start name rest none = .ends (.ok spot) :=
            congrArg Turn.ends hfollow
          obtain ⟨_, rfl, _⟩ := lookUp_ends_ok hends
          rw [follow, hlast]
        | some e =>
          obtain ⟨mode, content, rfl⟩ := h.old e hat
          rw [hat] at hfollow
          exact ih links (start ++ [name]) rest (.inr ⟨rfl, Nat.le_refl _⟩) hfollow
      · rw [← lookUp_face, h.others _ hlast, lookUp_face, ← hturn]
        cases hgo : turn true links start name rest (root.at? start)
            (root.at? (start ++ [name])) with
        | ends outcome =>
          rw [hgo] at hfollow
          obtain rfl : outcome = .ok spot := hfollow
          obtain ⟨rfl, _, _⟩ := lookUp_ends_ok (hturn.symm.trans hgo)
          exact absurd (Option.some.inj hspot) hlast
        | goes links' start' rest' =>
          rw [hgo] at hfollow
          exact ih links' start' rest' (turn_shorter hgo) hfollow

/-! ## Writing -/

/-- The path can be opened for writing and leads to that place. -/
inductive Opens (f : Files) (path : String) : List String → Prop
  /-- An older file may be changed. -/
  | older {place : List String} {mode : Mode} {content : Content} :
    f.locate true path = .ok (.found place) → f.root.at? place = some (.file mode content) →
    mode.write = true → Opens f path place
  /-- A directory may be changed in which the name is free. -/
  | newer {parent : List String} {name : String} {mode : Mode} {es : List (String × Entry)} :
    f.locate true path = .ok (.free parent name) →
    f.root.at? parent = some (.directory mode es) → mode.write = true →
    Opens f path (parent ++ [name])

theorem writable_eq_ok_iff {f : Files} {path : String} :
    f.writable path = .ok place ↔ f.Opens path place := by
  constructor
  · intro h
    unfold writable at h
    cases hspot : f.locate true path with
    | error cause =>
      rw [hspot] at h
      cases h
    | ok spot =>
      rw [hspot] at h
      simp only [bind, Except.bind] at h
      split at h
      · cases h
      · split at h
        · rename_i hat
          split at h
          · rename_i hwrite
            cases h
            exact .newer hspot hat hwrite
          · cases h
        · cases h
      · split at h
        · cases h
        · rename_i hat
          split at h
          · rename_i hwrite
            cases h
            exact .older hspot hat hwrite
          · cases h
        · cases h
  · intro h
    unfold writable
    cases h with
    | older hspot hat hwrite => simp [hspot, hat, hwrite, bind, Except.bind, pure, Except.pure]
    | newer hspot hat hwrite => simp [hspot, hat, hwrite, bind, Except.bind, pure, Except.pure]

theorem replaced_file (content : Content) (old : Option Entry) :
    ∃ mode, replaced content old = .file mode content := by
  unfold replaced
  split <;> exact ⟨_, rfl⟩

variable {f : Files} {path : String}

theorem Opens.spot (h : f.Opens path place) :
    ∃ spot, f.locate true path = .ok spot ∧ spot.place? = some place := by
  cases h with
  | older hspot _ _ => exact ⟨_, hspot, rfl⟩
  | newer hspot _ _ => exact ⟨_, hspot, rfl⟩

theorem Opens.old (h : f.Opens path place) {e : Entry} (he : f.root.at? place = some e) :
    ∃ mode content, e = .file mode content := by
  cases h with
  | older _ hat _ =>
    rw [hat] at he
    cases he
    exact ⟨_, _, rfl⟩
  | newer hspot _ _ =>
    obtain ⟨_, _, hfollow, _⟩ := locate_follows hspot nofun
    rw [at?_of_follow_free hfollow] at he
    cases he

/-- The place is the root, or a directory holds it. -/
theorem Opens.parent (h : f.Opens path place) :
    place = [] ∨ ∃ parent name mode es, place = parent ++ [name] ∧
      f.root.at? parent = some (.directory mode es) := by
  cases h with
  | newer _ hat _ => exact .inr ⟨_, _, _, _, rfl, hat⟩
  | older _ hat _ =>
    rcases List.eq_nil_or_concat place with rfl | ⟨parent, name, rfl⟩
    · exact .inl rfl
    · rw [List.concat_eq_append, Entry.at?_snoc] at hat
      obtain ⟨dir, hdir, hchild⟩ := Option.bind_eq_some_iff.mp hat
      obtain ⟨mode, es, rfl⟩ := Entry.directory_of_child? hchild
      exact .inr ⟨parent, name, mode, es, List.concat_eq_append, hdir⟩

theorem Opens.at?_put (h : f.Opens path place) (content : Content) :
    (f.put place content).root.at? place = some (replaced content (f.root.at? place)) := by
  rcases h.parent with rfl | ⟨parent, name, mode, es, rfl, hparent⟩
  · rfl
  · exact Entry.at?_alter_self hparent

theorem Opens.filled (h : f.Opens path place) (content : Content) :
    Entry.FilledAt place f.root (f.put place content).root where
  old _ he := h.old he
  new := by
    obtain ⟨mode, hfile⟩ := replaced_file content (f.root.at? place)
    exact ⟨mode, content, by rw [h.at?_put, hfile]⟩
  others other hother := by
    rcases h.parent with rfl | ⟨parent, name, mode, es, rfl, hparent⟩
    · obtain ⟨mode, older, hroot⟩ := h.old rfl
      obtain ⟨first, rest, rfl⟩ := List.exists_cons_of_ne_nil hother
      have hnew : (f.put [] content).root = replaced content (some f.root) := rfl
      rw [hnew, hroot]
      rfl
    · refine Entry.at?_alter_of_ne hparent (fun _ he => h.old he) ?_ hother
      intro old
      obtain ⟨mode, hfile⟩ := replaced_file content old
      exact ⟨mode, content, hfile⟩

theorem find_of_locate {e : Entry} (hlocate : f.locate false path = .ok (.found place))
    (he : f.root.at? place = some e) : f.find path = .ok (some place, e) := by
  unfold find
  rw [hlocate]
  simp only [bind, Except.bind, he]
  rfl

/-- The second files are the first ones with the content at the path, and nothing else is different.
The path leads to the content now. What stood at its place was a file with the same mode or nothing,
and all other places hold what they held. -/
structure Written (f : Files) (path : String) (place : List String) (content : Content)
    (f' : Files) : Prop where
  here : f'.here = f.here
  room : f'.room = f.room
  strays : f'.strays = f.strays
  file : ∃ mode, f'.find path = .ok (some place, .file mode content) ∧
    ∀ old, f.root.at? place = some old → ∃ older, old = .file mode older
  others : ∀ other, other ≠ place →
    (f'.root.at? other).map Entry.face = (f.root.at? other).map Entry.face

/-- What is put at the place of a path that can be opened is what the path leads to. -/
theorem Opens.written (h : f.Opens path place) (content : Content) :
    f.Written path place content (f.put place content) where
  here := rfl
  room := rfl
  strays := rfl
  others := (h.filled content).others
  file := by
    obtain ⟨spot, hspot, hplace⟩ := h.spot
    obtain ⟨start, rest, hfollow, hlocate⟩ := locate_follows hspot (by rintro rfl; cases hplace)
    have hfound := follow_filled (h.filled content) maxLinks start rest hplace hfollow
    rw [← hlocate (f.put place content) rfl] at hfound
    have hat := h.at?_put content
    cases hold : f.root.at? place with
    | none =>
      rw [hold] at hat
      exact ⟨{}, find_of_locate hfound hat, nofun⟩
    | some e =>
      obtain ⟨mode, older, rfl⟩ := h.old hold
      rw [hold] at hat
      refine ⟨mode, find_of_locate hfound hat, ?_⟩
      rintro _ ⟨⟩
      exact ⟨older, rfl⟩

/-- The file at the place can take as many bytes as the text has. -/
def Fits (f : Files) (place : List String) (text : String) : Prop :=
  ∀ n, f.room place = some n → text.utf8ByteSize ≤ n

theorem fitting_of_fits {text : String} (h : f.Fits place text) :
    f.fitting place text.toUTF8 = text.toUTF8 := by
  unfold fitting
  cases hroom : f.room place with
  | none => rfl
  | some n =>
    apply ByteArray.ext
    rw [ByteArray.data_extract]
    exact Array.extract_eq_self_of_le (h n hroom)

/-- A path that cannot be opened is not written to. One that can be holds the whole text afterwards
if there is room for it, and else the beginning for which there is. -/
theorem write_cases (f : Files) (path text : String) :
    (∃ cause, f.writable path = .error cause ∧
        f.write path text = { files := f, fault := some ⟨cause, path⟩ }) ∨
      ∃ place, f.Opens path place ∧
        (f.Fits place text ∧ f.write path text = { files := f.put place (.ofText text) } ∨
          ∃ n, f.room place = some n ∧ n < text.utf8ByteSize ∧
            f.write path text =
              { files := f.put place (.bytes (text.toUTF8.extract 0 n))
                fault := some ⟨.noSpace, none⟩ }) := by
  unfold write
  cases hwritable : f.writable path with
  | error cause => exact .inl ⟨cause, rfl, rfl⟩
  | ok place =>
    refine .inr ⟨place, writable_eq_ok_iff.mp hwritable, ?_⟩
    dsimp only
    by_cases hfits : f.Fits place text
    · left
      rw [fitting_of_fits hfits, if_neg (Nat.lt_irrefl _)]
      exact ⟨hfits, rfl⟩
    · right
      obtain ⟨n, hroom, hlong⟩ : ∃ n, f.room place = some n ∧ n < text.utf8ByteSize := by
        simpa [Fits] using hfits
      have hsize : (text.toUTF8.extract 0 n).size < text.toUTF8.size := by
        rw [ByteArray.size_extract]
        change min n text.utf8ByteSize - 0 < text.utf8ByteSize
        omega
      have hfitting : f.fitting place text.toUTF8 = text.toUTF8.extract 0 n := by
        unfold fitting
        rw [hroom]
      rw [hfitting, if_pos hsize]
      exact ⟨n, hroom, hlong, rfl⟩

end Files

end SourceAtlas
