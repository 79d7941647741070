-- How the path of a module is read off the text of its descriptor. The first line that starts
-- with the keyword gives it, blanks around the line and around the path apart, and wherever such
-- a line is put into a text, with whatever line ends, the path comes out again.
import Mathlib.Data.List.TakeWhile
import SourceAtlas.Proofs.AnalysisRuns

namespace SourceAtlas

namespace Text

/-! ## Blanks around a text -/

/-- Neither the first nor the last character is one of `p`. -/
def Bare (p : Char → Bool) (cs : List Char) : Prop :=
  (∀ c ∈ cs.head?, p c = false) ∧ ∀ c ∈ cs.getLast?, p c = false

instance (p : Char → Bool) (cs : List Char) : Decidable (Bare p cs) :=
  decidable_of_iff ((cs.head?.all (!p ·)) && cs.getLast?.all (!p ·))
    (by simp [Bare, Option.all_eq_true])

section

variable {p : Char → Bool} {w cs w' : List Char}

theorem dropWhile_of_head (h : ∀ c ∈ cs.head?, p c = false) : cs.dropWhile p = cs := by
  cases cs with
  | nil => rfl
  | cons c cs =>
    have hc : p c = false := h c rfl
    rw [List.dropWhile_cons, hc, if_neg Bool.false_ne_true]

theorem dropTrailing_append_of_all (hw : ∀ c ∈ w, p c = true) :
    dropTrailing p (cs ++ w) = dropTrailing p cs := by
  unfold dropTrailing
  rw [List.reverse_append, List.dropWhile_append_of_pos (by simpa using hw)]

theorem dropTrailing_of_last (h : ∀ c ∈ cs.getLast?, p c = false) : dropTrailing p cs = cs := by
  unfold dropTrailing
  rw [dropWhile_of_head (by simpa using h), List.reverse_reverse]

/-- What blanks were put around is what is left when they are taken away. -/
theorem trimChars_around (hw : ∀ c ∈ w, p c = true) (hw' : ∀ c ∈ w', p c = true)
    (h : Bare p cs) : trimChars p (w ++ cs ++ w') = cs := by
  unfold trimChars
  rw [List.append_assoc, List.dropWhile_append_of_pos hw]
  cases cs with
  | nil =>
    have hempty : w'.dropWhile p = [] := List.dropWhile_eq_nil_iff.mpr hw'
    rw [List.nil_append, hempty]
    rfl
  | cons c cs =>
    have hhead : ∀ d ∈ (c :: cs ++ w').head?, p d = false := by
      intro d hd
      cases hd
      exact h.1 c rfl
    rw [dropWhile_of_head hhead, dropTrailing_append_of_all hw', dropTrailing_of_last h.2]

end

/-- What is taken away stood around what is left. -/
theorem exists_around (p : Char → Bool) (cs : List Char) :
    Bare p (trimChars p cs) ∧ ∃ w w', cs = w ++ trimChars p cs ++ w' ∧ (∀ c ∈ w, p c = true) ∧
      ∀ c ∈ w', p c = true := by
  have hfront : cs = cs.takeWhile p ++ cs.dropWhile p := List.takeWhile_append_dropWhile.symm
  have hback : cs.dropWhile p =
      trimChars p cs ++ ((cs.dropWhile p).reverse.takeWhile p).reverse := by
    unfold trimChars dropTrailing
    rw [← List.reverse_append, List.takeWhile_append_dropWhile, List.reverse_reverse]
  have hhead : ∀ c ∈ (cs.dropWhile p).head?, p c = false := by
    intro c hc
    have hnot := List.head?_dropWhile_not p cs
    rw [hc] at hnot
    exact hnot
  refine ⟨⟨?_, ?_⟩, cs.takeWhile p, ((cs.dropWhile p).reverse.takeWhile p).reverse, ?_, ?_, ?_⟩
  · intro c hc
    apply hhead
    rw [hback, List.head?_append, hc]
    rfl
  · intro c hc
    have hnot := List.head?_dropWhile_not p (cs.dropWhile p).reverse
    unfold trimChars dropTrailing at hc
    rw [List.getLast?_reverse] at hc
    rw [hc] at hnot
    exact hnot
  · rw [List.append_assoc, ← hback]
    exact hfront
  · exact fun c hc => List.mem_takeWhile_imp hc
  · exact fun c hc => List.mem_takeWhile_imp (List.mem_reverse.mp hc)

/-! ## Newlines -/

theorem unifyNewlines_return {cs : List Char} (h : cs.head? ≠ some '\n') :
    unifyNewlines ('\r' :: cs) = '\n' :: unifyNewlines cs := by
  apply unifyNewlines.eq_3
  rintro rest rfl
  exact h rfl

theorem unifyNewlines_other {c : Char} (cs : List Char) (h : c ≠ '\r') :
    unifyNewlines (c :: cs) = c :: unifyNewlines cs :=
  unifyNewlines.eq_4 c cs (fun _ hc _ => h hc) h

/-- Two texts are changed one by one, unless a return and a newline meet between them. -/
theorem unifyNewlines_append (as : List Char) {bs : List Char} (h : bs.head? ≠ some '\n') :
    unifyNewlines (as ++ bs) = unifyNewlines as ++ unifyNewlines bs := by
  fun_induction unifyNewlines as with
  | case1 => rfl
  | case2 cs ih =>
    rw [List.cons_append, List.cons_append, unifyNewlines, ih]
    rfl
  | case3 cs hnext ih =>
    have hhead : (cs ++ bs).head? ≠ some '\n' := by
      cases cs with
      | nil => exact h
      | cons d ds =>
        intro hd
        cases hd
        exact hnext ds rfl
    rw [List.cons_append, unifyNewlines_return hhead, ih]
    rfl
  | case4 c cs _ hc ih =>
    rw [List.cons_append, unifyNewlines_other _ hc, ih]
    rfl

theorem ne_return_of_not_lineEnd {c : Char} (h : isLineEnd c = false) : c ≠ '\r' := by
  rintro rfl
  exact absurd h (by decide)

/-- A piece of a line is left as it is. -/
theorem unifyNewlines_of_line {line : List Char} (h : ∀ c ∈ line, isLineEnd c = false)
    (cs : List Char) : unifyNewlines (line ++ cs) = line ++ unifyNewlines cs := by
  induction line with
  | nil => rfl
  | cons c line ih =>
    obtain ⟨hc, hline⟩ := List.forall_mem_cons.mp h
    rw [List.cons_append, unifyNewlines_other _ (ne_return_of_not_lineEnd hc), ih hline]
    rfl

theorem unifyNewlines_eq_nil_iff {cs : List Char} : unifyNewlines cs = [] ↔ cs = [] := by
  fun_cases unifyNewlines cs <;> simp

/-- A text that starts with the end of a line still does. -/
theorem lineEnd_head_unifyNewlines {cs : List Char} (h : ∀ c ∈ cs.head?, isLineEnd c = true) :
    ∀ c ∈ (unifyNewlines cs).head?, isLineEnd c = true := by
  fun_cases unifyNewlines cs with
  | case1 => simp
  | case2 cs =>
    intro c hc
    cases hc
    decide
  | case3 cs _ =>
    intro c hc
    cases hc
    decide
  | case4 d ds _ _ =>
    intro c hc
    cases hc
    exact h d rfl

/-- The last character of a list with a head is that of the tail, or the head itself. -/
theorem forall_last_cons {P : Char → Prop} {c : Char} {cs : List Char} :
    (∀ d ∈ (c :: cs).getLast?, P d) ↔ (cs = [] → P c) ∧ ∀ d ∈ cs.getLast?, P d := by
  cases cs with
  | nil => simp
  | cons e es => simp [List.getLast?_cons_cons]

/-- A text that ends where a line ends still does. -/
theorem lineEnd_last_unifyNewlines {cs : List Char} (h : ∀ c ∈ cs.getLast?, isLineEnd c = true) :
    ∀ c ∈ (unifyNewlines cs).getLast?, isLineEnd c = true := by
  have hnewline : isLineEnd '\n' = true := by decide
  fun_induction unifyNewlines cs with
  | case1 => simp
  | case2 cs ih =>
    have hlast := (forall_last_cons.mp (forall_last_cons.mp h).2).2
    exact forall_last_cons.mpr ⟨fun _ => hnewline, ih hlast⟩
  | case3 cs _ ih =>
    have hlast := (forall_last_cons.mp h).2
    exact forall_last_cons.mpr ⟨fun _ => hnewline, ih hlast⟩
  | case4 c cs _ _ ih =>
    obtain ⟨honly, hlast⟩ := forall_last_cons.mp h
    exact forall_last_cons.mpr ⟨fun hnil => honly (unifyNewlines_eq_nil_iff.mp hnil), ih hlast⟩

/-! ## Lines -/

/-- A character that ends no line stands in front of the first line. -/
theorem splitLines_cons {c : Char} (h : isLineEnd c = false) (cs : List Char) :
    splitLines (c :: cs) = (c :: (splitLines cs).headD []) :: (splitLines cs).tail := by
  rw [splitLines, h, if_neg Bool.false_ne_true]
  cases splitLines cs <;> rfl

theorem splitLines_lineEnd {c : Char} (h : isLineEnd c = true) (cs : List Char) :
    splitLines (c :: cs) = [] :: splitLines cs := by
  rw [splitLines, if_pos h]

theorem not_lineEnd_of_mem_splitLines {cs line : List Char} (h : line ∈ splitLines cs) :
    ∀ c ∈ line, isLineEnd c = false := by
  induction cs generalizing line with
  | nil => cases h
  | cons c cs ih =>
    cases hc : isLineEnd c with
    | true =>
      rw [splitLines_lineEnd hc] at h
      rcases List.mem_cons.mp h with rfl | h
      · simp
      · exact ih h
    | false =>
      rw [splitLines_cons hc] at h
      rcases List.mem_cons.mp h with rfl | h
      · refine List.forall_mem_cons.mpr ⟨hc, ?_⟩
        cases hlines : splitLines cs with
        | nil => simp
        | cons l ls => exact ih (by simp [hlines])
      · exact ih (List.mem_of_mem_tail h)

theorem splitLines_eq_nil_iff {cs : List Char} : splitLines cs = [] ↔ cs = [] := by
  cases cs with
  | nil => simp [splitLines]
  | cons c cs => cases hc : isLineEnd c <;> simp [splitLines_cons, splitLines_lineEnd, hc]

/-- The lines of a text that ends where a line ends are not touched by what follows. -/
theorem splitLines_append {as : List Char} (h : ∀ c ∈ as.getLast?, isLineEnd c = true)
    (bs : List Char) : splitLines (as ++ bs) = splitLines as ++ splitLines bs := by
  induction as with
  | nil => rfl
  | cons c as ih =>
    obtain ⟨honly, hlast⟩ := forall_last_cons.mp h
    cases hc : isLineEnd c with
    | true =>
      rw [List.cons_append, splitLines_lineEnd hc, splitLines_lineEnd hc, ih hlast]
      rfl
    | false =>
      -- the line goes on, so there is a first line in what is left
      have hne : splitLines as ≠ [] := by
        rw [Ne, splitLines_eq_nil_iff]
        intro hnil
        exact absurd (honly hnil) (by simp [hc])
      rw [List.cons_append, splitLines_cons hc, splitLines_cons hc, ih hlast]
      cases hlines : splitLines as with
      | nil => exact absurd hlines hne
      | cons l ls => rfl

/-- A line that is not empty stands alone before the end of a line. -/
theorem splitLines_line {line : List Char} (hne : line ≠ [])
    (hline : ∀ c ∈ line, isLineEnd c = false) {cs : List Char}
    (hend : ∀ c ∈ cs.head?, isLineEnd c = true) :
    splitLines (line ++ cs) = line :: splitLines cs.tail := by
  induction line with
  | nil => exact absurd rfl hne
  | cons c line ih =>
    obtain ⟨hc, hline⟩ := List.forall_mem_cons.mp hline
    rw [List.cons_append, splitLines_cons hc]
    cases line with
    | nil =>
      cases cs with
      | nil => rfl
      | cons e cs =>
        rw [List.nil_append, splitLines_lineEnd (hend e rfl)]
        rfl
    | cons d line =>
      rw [ih (by simp) hline]
      rfl

/-- The text keeps to one line. -/
def OneLine (s : String) : Prop := ∀ c ∈ s.toList, isLineEnd c = false

instance (s : String) : Decidable (OneLine s) :=
  decidable_of_iff (s.toList.all (!isLineEnd ·)) (by simp [OneLine])

theorem oneLine_of_mem_lines {text line : String} (h : line ∈ lines text) : OneLine line := by
  obtain ⟨cs, hcs, rfl⟩ := List.mem_map.mp h
  intro c hc
  rw [String.toList_ofList] at hc
  exact not_lineEnd_of_mem_splitLines hcs c hc

/-- The text is empty or ends where a line ends. -/
def Ended (s : String) : Prop := ∀ c ∈ s.toList.getLast?, isLineEnd c = true

instance (s : String) : Decidable (Ended s) :=
  decidable_of_iff (s.toList.getLast?.all isLineEnd) (by simp [Ended, Option.all_eq_true])

/-- The text is empty or starts with the end of a line. -/
def Breaks (s : String) : Prop := ∀ c ∈ s.toList.head?, isLineEnd c = true

instance (s : String) : Decidable (Breaks s) :=
  decidable_of_iff (s.toList.head?.all isLineEnd) (by simp [Breaks, Option.all_eq_true])

/-- A line put between the end of a line and another stands among the lines of the text, after
those of the text before it. -/
theorem lines_around {before line after : String} (hbefore : Ended before) (hne : line ≠ "")
    (hline : OneLine line) (hafter : Breaks after) :
    ∃ later, lines (before ++ line ++ after) = lines before ++ line :: later := by
  have hchars : line.toList ≠ [] := fun h => hne (String.toList_eq_nil_iff.mp h)
  have hhead : (line.toList ++ after.toList).head? ≠ some '\n' := by
    cases hcs : line.toList with
    | nil => exact absurd hcs hchars
    | cons c cs =>
      intro hc
      cases hc
      exact absurd (hline '\n' (by simp [hcs])) (by decide)
  unfold lines
  refine ⟨(splitLines (unifyNewlines after.toList).tail).map String.ofList, ?_⟩
  rw [String.toList_append, String.toList_append, List.append_assoc,
    unifyNewlines_append _ hhead, unifyNewlines_of_line hline,
    splitLines_append (lineEnd_last_unifyNewlines hbefore),
    splitLines_line hchars hline (lineEnd_head_unifyNewlines hafter), List.map_append,
    List.map_cons, String.ofList_toList]

/-- The text is made of white space alone. -/
def Blank (s : String) : Prop := ∀ c ∈ s.toList, isBlank c = true

instance (s : String) : Decidable (Blank s) :=
  decidable_of_iff (s.toList.all isBlank) (by simp [Blank])

end Text

/-! ## The keyword -/

namespace ModulePath

open Text

/-- The line is the keyword and then the path, with white space around the two and perhaps more of
it between them. -/
def Gives (line path : String) : Prop :=
  ∃ indent gap trail, line = indent ++ keyword ++ gap ++ path ++ trail ∧ Blank indent ∧ Blank gap ∧
    Blank trail

theorem keyword_chars : keyword.toList = ['m', 'o', 'd', 'u', 'l', 'e'] ++ [' '] := by decide

/-- A stripped line that starts with the keyword does not end with it: the blank of the keyword
would have been stripped off. -/
theorem trimChars_ne_nil {rest : List Char} (h : Bare isBlank (keyword.toList ++ rest)) :
    trimChars isBlank rest ≠ [] := by
  intro hnil
  obtain ⟨_, w, w', hrest, hw, hw'⟩ := exists_around isBlank rest
  rw [hnil, List.append_nil] at hrest
  have hblank : ∀ c ∈ ' ' :: rest, isBlank c = true := by
    rw [hrest]
    refine List.forall_mem_cons.mpr ⟨by decide, ?_⟩
    exact List.forall_mem_append.mpr ⟨hw, hw'⟩
  obtain ⟨c, hc⟩ : ∃ c, (' ' :: rest).getLast? = some c := ⟨_, List.getLast?_cons⟩
  have hlast : (keyword.toList ++ rest).getLast? = some c := by
    rw [keyword_chars, List.append_assoc, List.getLast?_append, List.singleton_append, hc]
    rfl
  have hbare := h.2 c hlast
  rw [hblank c (List.mem_of_getLast? hc)] at hbare
  cases hbare

/-- What a line gives, on its characters. -/
theorem ofLine?_eq (line : String) :
    ofLine? line =
      if keyword.toList.isPrefixOf (trimChars isBlank line.toList) then
        some (String.ofList
          (trimChars isBlank ((trimChars isBlank line.toList).drop keyword.toList.length)))
      else none := by
  unfold ofLine? strip trim startsWith
  simp only [String.toList_ofList, String.length_toList]

/-- A line that starts with the keyword gives a path, and that is what stands after it. -/
theorem ofLine?_eq_some_iff {line path : String} :
    ofLine? line = some path ↔ Gives line path ∧ path ≠ "" ∧ Bare isBlank path.toList := by
  rw [ofLine?_eq]
  constructor
  · intro h
    obtain ⟨hbody, w, w', hline, hw, hw'⟩ := exists_around isBlank line.toList
    split at h
    · rename_i hstart
      obtain ⟨rest, hrest⟩ := List.isPrefixOf_iff_prefix.mp hstart
      rw [← hrest] at hline hbody h
      rw [List.drop_left] at h
      cases h
      obtain ⟨hpath, v, v', hv, hblank, hblank'⟩ := exists_around isBlank rest
      refine ⟨⟨String.ofList w, String.ofList v, String.ofList (v' ++ w'), ?_, ?_, ?_, ?_⟩, ?_, ?_⟩
      · apply String.toList_injective
        simp only [String.toList_append, String.toList_ofList]
        rw [hline]
        nth_rewrite 1 [hv]
        simp only [List.append_assoc]
      · simpa [Blank] using hw
      · simpa [Blank] using hblank
      · simpa [Blank, or_imp, forall_and] using ⟨hblank', hw'⟩
      · simpa using trimChars_ne_nil hbody
      · rwa [String.toList_ofList]
    · cases h
  · rintro ⟨⟨indent, gap, trail, rfl, hindent, hgap, htrail⟩, hne, hbare⟩
    have hchars : path.toList ≠ [] := fun h => hne (String.toList_eq_nil_iff.mp h)
    have hbody : Bare isBlank (keyword.toList ++ (gap.toList ++ path.toList)) := by
      refine ⟨?_, ?_⟩
      · intro c hc
        cases hc
        decide
      · intro c hc
        apply hbare.2
        rw [← List.append_assoc, List.getLast?_append_of_ne_nil _ hchars] at hc
        exact hc
    have hstripped : trimChars isBlank (indent ++ keyword ++ gap ++ path ++ trail).toList =
        keyword.toList ++ (gap.toList ++ path.toList) := by
      simp only [String.toList_append]
      rw [List.append_assoc indent.toList, List.append_assoc indent.toList,
        List.append_assoc keyword.toList]
      exact trimChars_around hindent htrail hbody
    rw [hstripped, if_pos (List.isPrefixOf_iff_prefix.mpr (List.prefix_append _ _)), List.drop_left]
    have hpath : trimChars isBlank (gap.toList ++ path.toList ++ []) = path.toList :=
      trimChars_around hgap (by simp) hbare
    rw [List.append_nil] at hpath
    rw [hpath, String.ofList_toList]

theorem ofLine?_eq_none_iff {line : String} :
    ofLine? line = none ↔ startsWith (strip line) keyword = false := by
  unfold ofLine?
  dsimp only
  split
  · rename_i h
    simp [h]
  · rename_i h
    simp [h]

theorem startsWith_of_ofLine? {line path : String} (h : ofLine? line = some path) :
    startsWith (strip line) keyword = true := by
  rw [← Bool.not_eq_false, ← ofLine?_eq_none_iff, h]
  simp

/-- The first line that starts with the keyword gives the path of the whole text. -/
theorem ofText?_eq_some_iff {text path : String} :
    ofText? text = some path ↔ ∃ before line after, lines text = before ++ line :: after ∧
      (Gives line path ∧ path ≠ "" ∧ Bare isBlank path.toList) ∧
      ∀ l ∈ before, startsWith (strip l) keyword = false := by
  unfold ofText?
  simp only [List.findSome?_eq_some_iff, ofLine?_eq_some_iff, ofLine?_eq_none_iff]

theorem ofText?_eq_none_iff {text : String} :
    ofText? text = none ↔ ∀ line ∈ lines text, startsWith (strip line) keyword = false := by
  unfold ofText?
  simp only [List.findSome?_eq_none_iff, ofLine?_eq_none_iff]

theorem oneLine_keyword : OneLine keyword := by decide

/-- A line of that form gives its path in every text that it is put into, unless a line before it
starts with the keyword. -/
theorem ofText?_around {before indent gap path trail after : String} (hbefore : Ended before)
    (hother : ∀ l ∈ lines before, startsWith (strip l) keyword = false)
    (hblank : ∀ s ∈ [indent, gap, trail], Blank s ∧ OneLine s) (hne : path ≠ "")
    (hbare : Bare isBlank path.toList) (hpath : OneLine path) (hafter : Breaks after) :
    ofText? (before ++ (indent ++ keyword ++ gap ++ path ++ trail) ++ after) = some path := by
  obtain ⟨⟨hindent, hindent'⟩, ⟨hgap, hgap'⟩, htrail, htrail'⟩ :
      (Blank indent ∧ OneLine indent) ∧ (Blank gap ∧ OneLine gap) ∧
        Blank trail ∧ OneLine trail := by
    simpa using hblank
  have hline : OneLine (indent ++ keyword ++ gap ++ path ++ trail) := by
    unfold OneLine
    simp only [String.toList_append, List.forall_mem_append]
    exact ⟨⟨⟨⟨hindent', oneLine_keyword⟩, hgap'⟩, hpath⟩, htrail'⟩
  have hline' : indent ++ keyword ++ gap ++ path ++ trail ≠ "" := by
    intro hempty
    have hchars := congrArg String.toList hempty
    simp [keyword_chars] at hchars
  obtain ⟨later, hlines⟩ := lines_around hbefore hline' hline hafter
  exact ofText?_eq_some_iff.mpr ⟨lines before, _, later, hlines,
    ⟨⟨indent, gap, trail, rfl, hindent, hgap, htrail⟩, hne, hbare⟩, hother⟩

theorem Gives.oneLine {line path : String} (h : Gives line path) (hline : OneLine line) :
    OneLine path := by
  obtain ⟨indent, gap, trail, rfl, _⟩ := h
  intro c hc
  apply hline
  simp [hc]

theorem outcome_detect {f : Files} {root text : String} {settings : Settings} {content : Content}
    (hread : f.read (descriptor root settings) = .ok content) (htext : content.text? = some text) :
    (detect f root settings).outcome = .ok ((ofText? text).getD "") := by
  unfold detect
  simp only [hread, htext]
  cases ofText? text <;> rfl

/-! ## The law -/

/-- A descriptor that holds text always has an outcome. It is a path, and not the empty text,
exactly when a line starts with the keyword once it is stripped; the first such line is then the
keyword and the path with white space around them, and the path has no white space at its ends
and keeps to one line. And whatever text a line of that form stands in, after lines that do not
start with the keyword, its path is the outcome. -/
theorem the_first_keyword_line_gives_the_path {f : Files} {root text : String} {settings : Settings}
    {content : Content} (hread : f.read (descriptor root settings) = .ok content)
    (htext : content.text? = some text) :
    ∃ path, (detect f root settings).outcome = .ok path ∧
      (path ≠ "" ↔ ∃ line ∈ lines text, startsWith (strip line) keyword = true) ∧
      (path ≠ "" → Bare isBlank path.toList ∧ OneLine path ∧
        ∃ before line after, lines text = before ++ line :: after ∧
          (∀ l ∈ before, startsWith (strip l) keyword = false) ∧
          startsWith (strip line) keyword = true ∧ Gives line path) ∧
      ∀ before indent gap p trail after : String,
        text = before ++ (indent ++ keyword ++ gap ++ p ++ trail) ++ after →
        Ended before → (∀ l ∈ lines before, startsWith (strip l) keyword = false) →
        (∀ s ∈ [indent, gap, trail], Blank s ∧ OneLine s) →
        p ≠ "" → Bare isBlank p.toList → OneLine p → Breaks after → path = p := by
  refine ⟨(ofText? text).getD "", outcome_detect hread htext, ?_, ?_, ?_⟩
  · cases hpath : ofText? text with
    | none => simpa using ofText?_eq_none_iff.mp hpath
    | some path =>
      obtain ⟨before, line, after, hlines, hgives, _⟩ := ofText?_eq_some_iff.mp hpath
      have hmem : line ∈ lines text := by simp [hlines]
      exact iff_of_true hgives.2.1
        ⟨line, hmem, startsWith_of_ofLine? (ofLine?_eq_some_iff.mpr hgives)⟩
  · intro hne
    cases hpath : ofText? text with
    | none =>
      rw [hpath] at hne
      exact absurd rfl hne
    | some path =>
      obtain ⟨before, line, after, hlines, hgives, hother⟩ := ofText?_eq_some_iff.mp hpath
      have hmem : line ∈ lines text := by simp [hlines]
      exact ⟨hgives.2.2, hgives.1.oneLine (oneLine_of_mem_lines hmem), before, line, after, hlines,
        hother, startsWith_of_ofLine? (ofLine?_eq_some_iff.mpr hgives), hgives.1⟩
  · rintro before indent gap p trail after rfl hbefore hother hblank hne hbare hline hafter
    rw [ofText?_around hbefore hother hblank hne hbare hline hafter]
    rfl

/-- A comment, the bare word of the keyword, and then the line that gives the path, with white
space of several kinds in it and a form feed at its end. -/
def spacedDescriptor : String :=
  "// module x\r\nmodule \r" ++ ("\u3000\tmodule \u00a0example.com/app " ++ "\x0cmodule other\n")

/-- The bare word gives nothing, and the line after it does. -/
theorem a_path_is_found_after_a_bare_keyword :
    (detect { root := .directory {} [("go.mod", .file {} (.ofText spacedDescriptor))] } "/"
      {}).outcome = .ok "example.com/app" := by
  have hread :
      Files.read { root := .directory {} [("go.mod", .file {} (.ofText spacedDescriptor))] }
        (descriptor "/" {}) = .ok (.ofText spacedDescriptor) :=
    Files.read_child _ spells_descriptor rfl rfl rfl rfl
  obtain ⟨path, hpath, _, _, hplaced⟩ :=
    the_first_keyword_line_gives_the_path hread (Content.text?_ofText spacedDescriptor)
  rw [hpath]
  congr 1
  apply hplaced "// module x\r\nmodule \r" "\u3000\t" "\u00a0" "example.com/app" " "
    "\x0cmodule other\n"
  · decide
  · decide
  · decide
  · decide
  · decide
  · decide
  · decide
  · decide

end ModulePath

end SourceAtlas
