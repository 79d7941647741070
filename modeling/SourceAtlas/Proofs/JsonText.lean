-- The JSON text of a graph loses nothing. Every string reads back from its escapes, every
-- value that is made of strings reads back from its text, and the value of a graph reads back
-- as the graph.
import SourceAtlas.Graph.Document
import SourceAtlas.Proofs.HexDigits

namespace SourceAtlas

namespace Json

/-! ## Strings -/

attribute [simp] readChars readValue

/-- A character is no surrogate. -/
theorem paired?_of_char (c : Char) (low : Nat) : paired? c.toNat low = none := by
  have hvalid : c.toNat.isValidChar := c.valid
  unfold paired?
  rw [if_neg]
  rintro ⟨hhigh, hhigh', _⟩
  rcases hvalid with h | ⟨h, _⟩ <;> omega

/-- The two surrogates of an astral character stand for it. -/
theorem paired?_astral {c : Char} (h : 0x10000 ≤ c.toNat) :
    paired? (0xD800 + (c.toNat - 0x10000) / 0x400) (0xDC00 + (c.toNat - 0x10000) % 0x400) =
      some c := by
  have hmost := Text.toNat_lt c
  unfold paired?
  rw [if_pos (by omega)]
  have hback : 0x10000 + (0xD800 + (c.toNat - 0x10000) / 0x400 - 0xD800) * 0x400 +
      (0xDC00 + (c.toNat - 0x10000) % 0x400 - 0xDC00) = c.toNat := by omega
  rw [hback, Text.scalar?_toNat]

theorem unitEscape_eq {n : Nat} (h : n < 0x10000) :
    ∃ x y z w, unitEscape n = ['\\', 'u', x, y, z, w] ∧ Text.hexNumber? [x, y, z, w] = some n := by
  have hlength : (Text.hex 4 n).length = 4 := Text.length_hex (by decide) h
  have hnumber := Text.hexNumber?_hex 4 n
  unfold unitEscape
  match hdigits : Text.hex 4 n, hlength with
  | [x, y, z, w], _ => exact ⟨x, y, z, w, rfl, hdigits ▸ hnumber⟩

theorem readChars_unitEscape {c : Char} (h : c.toNat < 0x10000) (rest : List Char) :
    readChars (unitEscape c.toNat ++ rest) = (readChars rest).map fun p => (c :: p.1, p.2) := by
  obtain ⟨x, y, z, w, heq, hnumber⟩ := unitEscape_eq h
  have hlone : lone? c.toNat = some c := Text.scalar?_toNat c
  rw [heq]
  simp only [List.cons_append, List.nil_append]
  rw [readChars.eq_def]
  split
  · rename_i htext
    simp at htext
  · rename_i htext
    simp at htext
  · -- another unit follows, but the first is no surrogate and stands alone
    rename_i htext
    simp only [List.cons.injEq, true_and] at htext
    obtain ⟨rfl, rfl, rfl, rfl, rfl⟩ := htext
    have hpair : ∀ low : Option Nat, low.bind (paired? c.toNat) = none := by
      intro low
      cases low with
      | none => rfl
      | some low => exact paired?_of_char c low
    simp only [hnumber, hpair, hlone]
  · rename_i htext
    simp only [List.cons.injEq, true_and] at htext
    obtain ⟨rfl, rfl, rfl, rfl, rfl⟩ := htext
    simp only [hnumber, Option.bind_some, hlone]
  · rename_i hother htext
    simp only [List.cons.injEq, true_and] at htext
    exact absurd htext.2.symm (hother _ _ _ _ _ htext.1.symm)
  · rename_i hother htext
    simp only [List.cons.injEq] at htext
    exact absurd htext.2.symm (hother _ _ htext.1.symm)

theorem readChars_paired {high low : Nat} (hhigh : high < 0x10000) (hlow : low < 0x10000) {c : Char}
    (h : paired? high low = some c) (rest : List Char) :
    readChars (unitEscape high ++ unitEscape low ++ rest) =
      (readChars rest).map fun p => (c :: p.1, p.2) := by
  obtain ⟨x, y, z, w, heq, hnumber⟩ := unitEscape_eq hhigh
  obtain ⟨x', y', z', w', heq', hnumber'⟩ := unitEscape_eq hlow
  rw [heq, heq']
  simp only [List.cons_append, List.nil_append]
  rw [readChars]
  simp only [hnumber, hnumber', Option.bind_some, h]

/-- The characters that have an escape of one letter. -/
def lettered : List Char := ['"', '\\', '\n', '\r', '\t', '\x0C', '\x08']

theorem writeChar_lettered {c : Char} (h : c ∈ lettered) :
    ∃ letter, writeChar c = ['\\', letter] ∧ letter ≠ 'u' ∧ simpleEscape? letter = some c := by
  simp only [lettered, List.mem_cons, List.not_mem_nil, or_false] at h
  rcases h with rfl | rfl | rfl | rfl | rfl | rfl | rfl
  all_goals exact ⟨_, rfl, by decide, rfl⟩

theorem readChars_lettered {c : Char} (h : c ∈ lettered) (rest : List Char) :
    readChars (writeChar c ++ rest) = (readChars rest).map fun p => (c :: p.1, p.2) := by
  obtain ⟨letter, heq, hletter, hback⟩ := writeChar_lettered h
  rw [heq, List.cons_append, List.singleton_append, readChars, hback]
  · exact fun _ _ _ _ _ _ _ _ _ hu _ => hletter hu
  · exact fun _ _ _ _ _ hu _ => hletter hu

theorem readChars_printable {c : Char} (hquote : c ≠ '"') (hslash : c ≠ '\\') (h : 0x20 ≤ c.toNat)
    (rest : List Char) :
    readChars (c :: rest) = (readChars rest).map fun p => (c :: p.1, p.2) := by
  rw [readChars, if_neg (by omega)]
  · exact hquote
  · exact fun _ _ _ _ _ _ _ _ _ hc _ => hslash hc
  · exact fun _ _ _ _ _ hc _ => hslash hc
  · exact fun _ _ hc _ => hslash hc

/-- A character reads back from its escape. -/
theorem readChars_writeChar (c : Char) (rest : List Char) :
    readChars (writeChar c ++ rest) = (readChars rest).map fun p => (c :: p.1, p.2) := by
  by_cases hlettered : c ∈ lettered
  · exact readChars_lettered hlettered rest
  · have hnone : writeChar c =
        if 0x20 ≤ c.toNat ∧ c.toNat < 0x7f then [c]
        else if c.toNat < 0x10000 then unitEscape c.toNat
        else unitEscape (0xD800 + (c.toNat - 0x10000) / 0x400) ++
          unitEscape (0xDC00 + (c.toNat - 0x10000) % 0x400) := by
      simp only [lettered, List.mem_cons, List.not_mem_nil, or_false, not_or] at hlettered
      simp [writeChar, hlettered]
    rw [hnone]
    split
    · rename_i hprintable
      refine readChars_printable ?_ ?_ hprintable.1 rest
      · rintro rfl
        simp [lettered] at hlettered
      · rintro rfl
        simp [lettered] at hlettered
    · split
      · rename_i hunit
        exact readChars_unitEscape hunit rest
      · rename_i hastral
        have hmost := Text.toNat_lt c
        exact readChars_paired (by omega) (by omega) (paired?_astral (by omega)) rest

theorem readChars_flatMap (cs rest : List Char) :
    readChars (cs.flatMap writeChar ++ '"' :: rest) = some (cs, rest) := by
  induction cs with
  | nil => simp [readChars]
  | cons c cs ih =>
    rw [List.flatMap_cons, List.append_assoc, readChars_writeChar, ih]
    rfl

/-- A string reads back from its text. -/
theorem readString_writeString (s : String) (rest : List Char) :
    readString (writeString s ++ rest) = some (s, rest) := by
  unfold writeString
  simp only [List.cons_append, List.append_assoc, List.nil_append, readString]
  rw [readChars_flatMap]
  simp

/-! ## Values -/

/-- A value that is made of strings, lists and tables alone. -/
inductive Textual : Value → Prop
  | string (s : String) : Textual (.string s)
  | list {vs : List Value} (h : ∀ v ∈ vs, Textual v) : Textual (.list vs)
  | table {fs : List (String × Value)} (h : ∀ f ∈ fs, Textual f.2) : Textual (.table fs)

theorem skipSpace_newline (level : Nat) (cs : List Char) :
    skipSpace (newline level ++ cs) = skipSpace cs := by
  unfold skipSpace newline
  rw [List.cons_append, List.dropWhile_cons_of_pos (by decide)]
  exact List.dropWhile_append_of_pos fun c hc => by
    rw [List.eq_of_mem_replicate hc]
    decide

theorem skipSpace_of_head {c : Char} (h : isSpace c = false) (cs : List Char) :
    skipSpace (c :: cs) = c :: cs :=
  List.dropWhile_cons_of_neg (by simp [h])

/-- The text of a value is read from the front of a text, whatever follows it, when the fuel is
at least as much as it is long. -/
def ReadsBack (v : Value) : Prop :=
  ∀ level fuel rest, (writeIndented level v).length ≤ fuel →
    readValue fuel (writeIndented level v ++ rest) = some (v, rest)

theorem writeIndented_string (level : Nat) (s : String) :
    writeIndented level (.string s) = writeString s := rfl

theorem readsBack_string (s : String) : ReadsBack (.string s) := by
  intro level fuel rest hfuel
  rw [writeIndented_string] at hfuel ⊢
  cases fuel with
  | zero => simp [writeString] at hfuel
  | succ fuel =>
    have hread := readString_writeString s rest
    simp only [writeString, List.cons_append] at hread ⊢
    simp only [readValue, skipSpace_of_head (show isSpace '"' = false by decide), hread,
      Option.map_some]

theorem readValue_congr {cs ds : List Char} (h : skipSpace cs = skipSpace ds) (fuel : Nat) :
    readValue fuel cs = readValue fuel ds := by
  cases fuel with
  | zero => rfl
  | succ fuel => rw [readValue, readValue, h]

theorem readValue_newline (fuel level : Nat) (cs : List Char) :
    readValue fuel (newline level ++ cs) = readValue fuel cs :=
  readValue_congr (skipSpace_newline level cs) fuel

theorem readValue_blank (fuel : Nat) (cs : List Char) :
    readValue fuel (' ' :: cs) = readValue fuel cs :=
  readValue_congr (List.dropWhile_cons_of_pos (by decide)) fuel

theorem skipSpace_writeString (s : String) (rest : List Char) :
    skipSpace (writeString s ++ rest) = writeString s ++ rest := by
  unfold writeString
  exact skipSpace_of_head (by decide) _

theorem readItems_newline (fuel level : Nat) (cs : List Char) :
    readItems fuel (newline level ++ cs) = readItems fuel cs := by
  cases fuel with
  | zero => rfl
  | succ fuel => simp only [readItems, readValue_newline]

theorem readFields_newline (fuel level : Nat) (cs : List Char) :
    readFields fuel (newline level ++ cs) = readFields fuel cs := by
  cases fuel with
  | zero => rfl
  | succ fuel => simp only [readFields, skipSpace_newline]

/-- The first character of the text says what is read. -/
theorem Textual.head {v : Value} (h : Textual v) (level : Nat) :
    ∃ c cs, writeIndented level v = c :: cs ∧ isSpace c = false ∧ c ≠ ']' := by
  cases h with
  | string s => exact ⟨'"', _, rfl, by decide, by decide⟩
  | @list vs _ =>
    cases vs with
    | nil => exact ⟨'[', _, rfl, by decide, by decide⟩
    | cons v vs => exact ⟨'[', _, rfl, by decide, by decide⟩
  | @table fs _ =>
    cases fs with
    | nil => exact ⟨'\x7b', _, rfl, by decide, by decide⟩
    | cons f fs => exact ⟨'\x7b', _, rfl, by decide, by decide⟩

/-- The items of a list are read up to its closing bracket. -/
theorem readItems_write {v : Value} {vs : List Value} (hv : ReadsBack v)
    (hvs : ∀ v ∈ vs, ReadsBack v) (level outer fuel : Nat) (rest : List Char)
    (hfuel : (writeIndented level v ++ writeItems level vs).length < fuel) :
    readItems fuel (writeIndented level v ++ (writeItems level vs ++
        (newline outer ++ (']' :: rest)))) = some (v :: vs, rest) := by
  induction vs generalizing v fuel with
  | nil =>
    cases fuel with
    | zero => simp at hfuel
    | succ fuel =>
      simp only [writeItems, List.nil_append, List.append_nil] at hfuel ⊢
      rw [readItems, hv level fuel _ (by omega)]
      simp only [skipSpace_newline, skipSpace_of_head (show isSpace ']' = false by decide)]
  | cons w vs ih =>
    cases fuel with
    | zero => simp at hfuel
    | succ fuel =>
      obtain ⟨hw, hvs⟩ := List.forall_mem_cons.mp hvs
      simp only [writeItems, List.cons_append, List.append_assoc, List.length_append,
        List.length_cons] at hfuel ⊢
      rw [readItems, hv level fuel _ (by omega)]
      simp only [skipSpace_of_head (show isSpace ',' = false by decide)]
      rw [readItems_newline, ih hw hvs fuel (by rw [List.length_append]; omega)]
      rfl

/-- The fields of a table are read up to its closing brace. -/
theorem readFields_write (key : String) {v : Value} {fs : List (String × Value)}
    (hv : ReadsBack v) (hfs : ∀ f ∈ fs, ReadsBack f.2) (level outer fuel : Nat)
    (rest : List Char)
    (hfuel : (writeIndented level v ++ writeFields level fs).length < fuel) :
    readFields fuel (writeString key ++ (':' :: ' ' :: (writeIndented level v ++
        (writeFields level fs ++ (newline outer ++ ('\x7d' :: rest)))))) =
      some ((key, v) :: fs, rest) := by
  induction fs generalizing key v fuel with
  | nil =>
    cases fuel with
    | zero => simp at hfuel
    | succ fuel =>
      simp only [writeFields, List.nil_append, List.append_nil] at hfuel ⊢
      rw [readFields, skipSpace_writeString, readString_writeString]
      simp only [skipSpace_of_head (show isSpace ':' = false by decide)]
      rw [readValue_blank, hv level fuel _ (by omega)]
      simp only [skipSpace_newline, skipSpace_of_head (show isSpace '\x7d' = false by decide)]
  | cons f fs ih =>
    cases fuel with
    | zero => simp at hfuel
    | succ fuel =>
      obtain ⟨key', w⟩ := f
      obtain ⟨hw, hrest⟩ : ReadsBack w ∧ ∀ f ∈ fs, ReadsBack f.2 := List.forall_mem_cons.mp hfs
      simp only [writeFields, List.cons_append, List.append_assoc, List.length_append,
        List.length_cons, List.nil_append] at hfuel ⊢
      rw [readFields, skipSpace_writeString, readString_writeString]
      simp only [skipSpace_of_head (show isSpace ':' = false by decide)]
      rw [readValue_blank, hv level fuel _ (by omega)]
      simp only [skipSpace_of_head (show isSpace ',' = false by decide)]
      rw [readFields_newline, ih key' hw hrest fuel (by rw [List.length_append]; omega)]
      rfl

theorem readsBack_list {vs : List Value} (htextual : ∀ v ∈ vs, Textual v)
    (h : ∀ v ∈ vs, ReadsBack v) : ReadsBack (.list vs) := by
  intro level fuel rest hfuel
  cases vs with
  | nil =>
    cases fuel with
    | zero => simp [writeIndented] at hfuel
    | succ fuel => simp [writeIndented, readValue, skipSpace, isSpace]
  | cons v vs =>
    cases fuel with
    | zero => simp [writeIndented] at hfuel
    | succ fuel =>
      obtain ⟨hv, hvs⟩ := List.forall_mem_cons.mp h
      obtain ⟨c, cs, htext, hspace, hbracket⟩ :=
        (htextual v List.mem_cons_self).head (level + 1)
      simp only [writeIndented, List.cons_append, List.append_assoc, List.length_append,
        List.length_cons] at hfuel ⊢
      have hitems := readItems_write hv hvs (level + 1) level fuel rest
        (by rw [List.length_append]; omega)
      rw [htext] at hitems ⊢
      simp only [readValue, skipSpace_of_head (show isSpace '[' = false by decide),
        skipSpace_newline, List.cons_append, skipSpace_of_head hspace, List.nil_append] at hitems ⊢
      split
      · rename_i hclose
        simp at hclose
        exact absurd hclose.1 hbracket
      · rw [hitems]
        rfl

theorem readsBack_table {fs : List (String × Value)} (h : ∀ f ∈ fs, ReadsBack f.2) :
    ReadsBack (.table fs) := by
  intro level fuel rest hfuel
  cases fs with
  | nil =>
    cases fuel with
    | zero => simp [writeIndented] at hfuel
    | succ fuel => simp [writeIndented, readValue, skipSpace, isSpace]
  | cons f fs =>
    cases fuel with
    | zero => simp [writeIndented] at hfuel
    | succ fuel =>
      obtain ⟨key, v⟩ := f
      obtain ⟨hv, hfs⟩ : ReadsBack v ∧ ∀ f ∈ fs, ReadsBack f.2 := List.forall_mem_cons.mp h
      simp only [writeIndented, List.cons_append, List.append_assoc, List.length_append,
        List.length_cons, List.nil_append] at hfuel ⊢
      have hfields := readFields_write key hv hfs (level + 1) level fuel rest
        (by rw [List.length_append]; omega)
      simp only [readValue, skipSpace_of_head (show isSpace '\x7b' = false by decide),
        skipSpace_newline, skipSpace_writeString]
      split
      · rename_i hclose
        simp [writeString] at hclose
      · rw [hfields]
        rfl

/-- A value that is made of strings reads back from its text. -/
theorem Textual.readsBack {v : Value} (h : Textual v) : ReadsBack v := by
  induction h with
  | string s => exact readsBack_string s
  | list h ih => exact readsBack_list h ih
  | table _ ih => exact readsBack_table ih

theorem read_write {v : Value} (h : Textual v) : read (write v) = some v := by
  have hread := h.readsBack 0 (2 * (writeIndented 0 v).length + 2) [] (by omega)
  rw [List.append_nil] at hread
  unfold read write
  simp only [String.toList_ofList, hread]
  rfl

end Json

/-! ## Graphs -/

namespace Checked

@[simp]
theorem map_ok {α β : Type} (f : α → β) (a : α) : f <$> ok a = ok (f a) := rfl

@[simp]
theorem seq_ok {α β : Type} (f : α → β) (a : α) : ok f <*> ok a = ok (f a) := rfl

end Checked

namespace Check

variable {α : Type}

theorem choice_ok {word : α → String} {choices : List α} {a : α}
    (h : choices.find? (fun b => word b == word a) = some a) :
    choice word choices (.string (word a)) = .ok a := by
  simp [choice, h]

/-- A list reads back when each of its items does. -/
theorem items_ok {check : Check α} {write : α → Value} (h : ∀ a, check (write a) = .ok a) (n : Nat)
    (as : List α) : items check n (as.map write) = .ok as := by
  induction as generalizing n with
  | nil => rfl
  | cons a as ih => simp [items, h, ih, Checked.under, Checked.both, Checked.map]

end Check

theorem Entity.choice_word (e : Entity) :
    Check.choice Entity.word Entity.all (.string e.word) = .ok e :=
  Check.choice_ok e.find?_word

theorem LinkKind.choice_word (k : LinkKind) :
    Check.choice LinkKind.word LinkKind.all (.string k.word) = .ok k :=
  Check.choice_ok k.find?_word

theorem Component.check_document (c : Component) : Component.check c.document = .ok c := by
  simp [Component.check, Component.document, Check.record, Check.required, Value.lookup,
    Check.string, Checked.under, c.entity.choice_word]

theorem Link.check_document (l : Link) : Link.check l.document = .ok l := by
  obtain ⟨source, target, kind, method⟩ := l
  cases method with
  | none =>
    simp [Link.check, Link.document, Check.record, Link.sourceField, Check.required, Check.optional,
      Value.lookup, Check.string, Checked.under, kind.choice_word]
  | some m =>
    simp [Link.check, Link.document, Check.record, Link.sourceField, Check.required, Check.optional,
      Value.lookup, Check.string, Check.nullableString, Checked.under, kind.choice_word]

theorem Graph.check_document (g : Graph) : Graph.check g.document = .ok g := by
  simp [Graph.check, Graph.document, Check.record, Check.optional, Value.lookup, Check.list,
    Checked.under, Check.items_ok Component.check_document, Check.items_ok Link.check_document]

theorem Component.textual_document (c : Component) : Json.Textual c.document :=
  .table (by simp [Json.Textual.string])

theorem Link.textual_document (l : Link) : Json.Textual l.document := by
  refine .table ?_
  cases l.method with
  | none => simp [Json.Textual.string]
  | some m => simp [Json.Textual.string]

/-- The value of a graph is made of strings. -/
theorem Graph.textual_document (g : Graph) : Json.Textual g.document := by
  have hcomponents : Json.Textual (.list (g.components.map Component.document)) :=
    .list (by simp [Component.textual_document])
  have hlinks : Json.Textual (.list (g.links.map Link.document)) :=
    .list (by simp [Link.textual_document])
  exact .table (by simp [hcomponents, hlinks])

/-! ## The law -/

/-- The JSON text of a graph reads as the value of the graph, field by field and in the same
order, and that value checks as the graph. The value of a link has a called name exactly when
the link has one, be it the empty text, and its source under the name of the written form. -/
theorem Graph.json_text_reads_back (g : Graph) :
    Json.read g.toJson = some g.document ∧ Graph.check g.document = .ok g ∧
      ∀ l : Link, Link.check l.document = .ok l ∧
        l.document.field? "method" = l.method.map Value.string ∧
        l.document.field? "from" = some (.string l.source) ∧ l.document.field? "from_" = none := by
  refine ⟨Json.read_write g.textual_document, g.check_document, ?_⟩
  intro l
  refine ⟨l.check_document, ?_⟩
  cases hmethod : l.method with
  | none => simp [Link.document, Value.field?, Value.lookup, hmethod]
  | some m => simp [Link.document, Value.field?, Value.lookup, hmethod]

end SourceAtlas
