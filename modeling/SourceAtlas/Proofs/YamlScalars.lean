-- What a YAML string stands for. Each of the three styles has a reader of its own, which
-- undoes the quotes, the escapes, the folds and the doubled breaks, wherever the writer
-- chose to fold. So a string is the only one with its text.
import SourceAtlas.Format.Yaml
import SourceAtlas.Proofs.HexDigits

namespace SourceAtlas.Yaml

/-- A character in front of what has been read. -/
def push (c : Char) (read : Option (List Char × List Char)) : Option (List Char × List Char) :=
  read.map fun (cs, after) => (c :: cs, after)

/-! ## Without quotes -/

/-- A string without quotes, up to the end of its last line. An indented line goes on with it
after a blank. -/
@[simp]
def readPlain : List Char → Option (List Char × List Char)
  | [] => none
  | '\n' :: ' ' :: ' ' :: ' ' :: ' ' :: cs => push ' ' (readPlain cs)
  | '\n' :: cs => some ([], '\n' :: cs)
  | c :: cs => push c (readPlain cs)

/-- The text does not start with an indented line. -/
def Shallow (rest : List Char) : Prop := ∀ cs, rest ≠ ' ' :: ' ' :: ' ' :: ' ' :: cs

theorem readPlain_writePlain {cs rest : List Char} (h : '\n' ∉ cs) (hrest : Shallow rest)
    (column : Nat) (alone : Bool) :
    readPlain (writePlain column alone cs ++ '\n' :: rest) = some (cs, '\n' :: rest) := by
  induction cs generalizing column alone with
  | nil =>
    rw [writePlain, List.nil_append, readPlain]
    exact fun cs hcs => hrest cs hcs
  | cons c cs ih =>
    obtain ⟨hc, hcs⟩ : '\n' ≠ c ∧ '\n' ∉ cs := by simpa using h
    rw [writePlain]
    split
    · rename_i hfold
      have hblank : c = ' ' := by
        simp only [Bool.and_eq_true, beq_iff_eq] at hfold
        exact hfold.1.1.1
      simp only [continuation, indent, List.replicate, List.cons_append, List.nil_append, readPlain,
        ih hcs, hblank]
      rfl
    · rw [List.cons_append, readPlain, ih hcs]
      · rfl
      · exact fun _ hnewline _ => hc hnewline.symm
      · exact fun hnewline => hc hnewline.symm

/-! ## Single quotes -/

/-- A string between single quotes, from after the opening one on. A quote is written twice. A
line that goes on indented is a blank; any other newline only says that breaks follow, and they
last up to the next indented line. `broken` says that the character before was a break. -/
@[simp]
def readSingle : Bool → List Char → Option (List Char × List Char)
  | _, [] => none
  | true, ' ' :: ' ' :: ' ' :: ' ' :: cs => readSingle false cs
  | true, c :: cs => if isBreak c then push c (readSingle true cs) else none
  | false, '\x27' :: '\x27' :: cs => push '\x27' (readSingle false cs)
  | false, '\x27' :: cs => some ([], cs)
  | false, '\n' :: ' ' :: ' ' :: ' ' :: ' ' :: cs => push ' ' (readSingle false cs)
  | false, '\n' :: cs => readSingle true cs
  | false, c :: cs => push c (readSingle (isBreak c) cs)

/-- After a break the indentation is passed over. -/
theorem readSingle_lead (broken : Bool) (cs : List Char) :
    readSingle broken ((if broken then continuation else []) ++ cs) = readSingle false cs := by
  cases broken with
  | false => rfl
  | true => simp [continuation, indent, List.replicate, readSingle]

theorem readSingle_fold (cs : List Char) :
    readSingle false ('\n' :: (continuation ++ cs)) = push ' ' (readSingle false cs) := by
  simp [continuation, indent, List.replicate, readSingle]

theorem readSingle_other {c : Char} (hbreak : isBreak c = false) (hquote : c ≠ '\x27')
    (cs : List Char) : readSingle false (c :: cs) = push c (readSingle false cs) := by
  have hnewline : c ≠ '\n' := by
    rintro rfl
    simp [isBreak] at hbreak
  rw [readSingle, hbreak]
  · exact fun _ h _ => hquote h
  · exact hquote
  · exact fun _ h _ => hnewline h
  · exact hnewline

/-- The first newline of a run of breaks is written twice. -/
theorem readSingle_break (broken : Bool) {c : Char} (h : isBreak c = true) (cs : List Char) :
    readSingle broken ((if c == '\n' && !broken then ['\n', c] else [c]) ++ cs) =
      push c (readSingle true cs) := by
  have hblank : c ≠ ' ' := by
    rintro rfl
    simp [isBreak] at h
  have hquote : c ≠ '\x27' := by
    rintro rfl
    simp [isBreak] at h
  have hagain : readSingle true (c :: cs) = push c (readSingle true cs) := by
    rw [readSingle, if_pos h]
    exact fun _ hc _ => hblank hc
  cases broken with
  | true => simpa using hagain
  | false =>
    by_cases hnewline : c = '\n'
    · subst hnewline
      simpa [readSingle] using hagain
    · simp only [hnewline, beq_iff_eq, Bool.not_false, Bool.and_true, if_false, List.cons_append,
        List.nil_append]
      rw [readSingle, h]
      · exact fun _ hc _ => hquote hc
      · exact hquote
      · exact fun _ hc _ => hnewline hc
      · exact hnewline

theorem readSingle_close {rest : List Char} (hrest : rest.head? ≠ some '\x27') :
    readSingle false ('\x27' :: rest) = some ([], rest) := by
  rw [readSingle]
  rintro cs rfl
  exact hrest rfl

theorem readSingle_writeSingle {rest : List Char} (hrest : rest.head? ≠ some '\x27')
    (cs : List Char) (column : Nat) (before : Option Char) :
    readSingle (before.any isBreak) (writeSingle column before cs ++ rest) = some (cs, rest) := by
  induction cs generalizing column before with
  | nil =>
    have hend : writeSingle column before [] =
        (if before.any isBreak then continuation else []) ++ ['\x27'] := by
      rw [writeSingle]
      split <;> rfl
    rw [hend, List.append_assoc, readSingle_lead]
    exact readSingle_close hrest
  | cons c cs ih =>
    rw [writeSingle]
    dsimp only
    by_cases hbreak : isBreak c = true
    · have hnext := ih 0 (some c)
      rw [Option.any_some, hbreak] at hnext
      rw [if_pos hbreak, List.append_assoc, readSingle_break _ hbreak, hnext]
      rfl
    · have hnext : ∀ column, readSingle false (writeSingle column (some c) cs ++ rest) =
          some (cs, rest) := by
        intro column
        have h := ih column (some c)
        rwa [Option.any_some, Bool.eq_false_iff.mpr hbreak] at h
      simp only [hbreak, Bool.not_false, Bool.and_true, Bool.false_eq_true, if_false]
      generalize (if before.any isBreak = true then indent else column) = place
      split
      · rename_i hblank
        obtain rfl : c = ' ' := beq_iff_eq.mp hblank
        split
        · simp only [List.append_assoc, List.cons_append]
          rw [readSingle_lead, readSingle_fold, hnext]
          rfl
        · simp only [List.append_assoc, List.cons_append]
          rw [readSingle_lead, readSingle_other (by decide) (by decide), hnext]
          rfl
      · split
        · rename_i hquote
          obtain rfl : c = '\x27' := beq_iff_eq.mp hquote
          simp only [List.append_assoc, List.cons_append]
          rw [readSingle_lead, readSingle, hnext]
          rfl
        · rename_i hquote
          simp only [List.append_assoc, List.cons_append]
          rw [readSingle_lead,
            readSingle_other (Bool.eq_false_iff.mpr hbreak) (by simpa using hquote), hnext]
          rfl

/-! ## Double quotes -/

/-- The character that a letter after a backslash stands for. -/
def unescape? : Char → Option Char
  | '0' => some '\x00'
  | 'a' => some '\x07'
  | 'b' => some '\x08'
  | 't' => some '\t'
  | 'n' => some '\n'
  | 'v' => some '\x0B'
  | 'f' => some '\x0C'
  | 'r' => some '\r'
  | 'e' => some '\x1B'
  | ' ' => some ' '
  | '"' => some '"'
  | '\\' => some '\\'
  | 'N' => some '\x85'
  | '_' => some '\xA0'
  | 'L' => some '\u2028'
  | 'P' => some '\u2029'
  | _ => none

/-- The character with a number in base 16. -/
def numbered? (digits : List Char) : Option Char := (Text.hexNumber? digits).bind Text.scalar?

/-- A string between double quotes, from after the opening one on. A backslash at the end of a
line joins it to the next one. -/
@[simp]
def readDouble : List Char → Option (List Char × List Char)
  | [] => none
  | '"' :: cs => some ([], cs)
  | '\\' :: '\n' :: ' ' :: ' ' :: ' ' :: ' ' :: cs => readDouble cs
  | '\\' :: 'x' :: a :: b :: cs => (numbered? [a, b]).bind fun c => push c (readDouble cs)
  | '\\' :: 'u' :: a :: b :: c :: d :: cs =>
    (numbered? [a, b, c, d]).bind fun c => push c (readDouble cs)
  | '\\' :: 'U' :: a :: b :: c :: d :: e :: f :: g :: h :: cs =>
    (numbered? [a, b, c, d, e, f, g, h]).bind fun c => push c (readDouble cs)
  | '\\' :: letter :: cs => (unescape? letter).bind fun c => push c (readDouble cs)
  | c :: cs => push c (readDouble cs)

theorem readDouble_backslash {letter : Char} (h : letter ∉ ['\n', 'x', 'u', 'U']) (cs : List Char) :
    readDouble ('\\' :: letter :: cs) =
      (unescape? letter).bind fun c => push c (readDouble cs) := by
  obtain ⟨hn, hx, hu, hU⟩ : letter ≠ '\n' ∧ letter ≠ 'x' ∧ letter ≠ 'u' ∧ letter ≠ 'U' := by
    simpa using h
  rw [readDouble]
  · exact fun _ hletter _ => hn hletter
  · exact fun _ _ _ hletter _ => hx hletter
  · exact fun _ _ _ _ _ hletter _ => hu hletter
  · exact fun _ _ _ _ _ _ _ _ _ hletter _ => hU hletter

theorem unescape?_of_escapeLetter? {c letter : Char} (h : escapeLetter? c = some letter) :
    letter ∉ ['\n', 'x', 'u', 'U'] ∧ unescape? letter = some c := by
  unfold escapeLetter? at h
  split at h
  all_goals cases h
  all_goals decide

theorem readDouble_other {c : Char} (h : needsEscape c = false) (cs : List Char) :
    readDouble (c :: cs) = push c (readDouble cs) := by
  have hquote : c ≠ '"' := by
    rintro rfl
    simp [needsEscape] at h
  have hslash : c ≠ '\\' := by
    rintro rfl
    simp [needsEscape] at h
  rw [readDouble]
  · exact hquote
  · exact fun _ hc _ => hslash hc
  · exact fun _ _ _ hc _ => hslash hc
  · exact fun _ _ _ _ _ hc _ => hslash hc
  · exact fun _ _ _ _ _ _ _ _ _ hc _ => hslash hc
  · exact fun _ _ hc _ => hslash hc

theorem numbered?_upperHex (width : Nat) (c : Char) :
    numbered? (upperHex width c.toNat) = some c := by
  unfold numbered? upperHex
  rw [Text.hexNumber?_upper, Option.bind_some, Text.scalar?_toNat]

theorem length_upperHex {width n : Nat} (hwidth : 0 < width) (h : n < Nat.pow 16 width) :
    (upperHex width n).length = width := by
  unfold upperHex
  rw [List.length_map, Text.length_hex hwidth h]

/-- A character reads back from its escape. -/
theorem readDouble_escape (c : Char) (cs : List Char) :
    readDouble (escape c ++ cs) = push c (readDouble cs) := by
  unfold escape
  cases hletter : escapeLetter? c with
  | some letter =>
    obtain ⟨hother, hback⟩ := unescape?_of_escapeLetter? hletter
    dsimp only
    rw [List.cons_append, List.singleton_append, readDouble_backslash hother, hback,
      Option.bind_some]
  | none =>
    have hnumber := fun width => numbered?_upperHex width c
    dsimp only
    split
    · have hlength : (upperHex 2 c.toNat).length = 2 :=
        length_upperHex (by decide) (show c.toNat < 0x100 by omega)
      match hdigits : upperHex 2 c.toNat, hlength with
      | [x, y], _ =>
        have hread := hnumber 2
        rw [hdigits] at hread
        simp [readDouble, hread]
    · split
      · have hlength : (upperHex 4 c.toNat).length = 4 :=
          length_upperHex (by decide) (show c.toNat < 0x10000 by omega)
        match hdigits : upperHex 4 c.toNat, hlength with
        | [x, y, z, w], _ =>
          have hread := hnumber 4
          rw [hdigits] at hread
          simp [readDouble, hread]
      · have hlength : (upperHex 8 c.toNat).length = 8 :=
          length_upperHex (by decide)
            (show c.toNat < 0x100000000 from Nat.lt_trans (Text.toNat_lt c) (by decide))
        match hdigits : upperHex 8 c.toNat, hlength with
        | [s, t, u, v, x, y, z, w], _ =>
          have hread := hnumber 8
          rw [hdigits] at hread
          simp [readDouble, hread]

/-- A fold adds nothing. The mark that it leaves stands before a blank alone. -/
theorem readDouble_fold {next : Option Char} {cs : List Char}
    (h : next = some ' ' → cs.head? = some ' ') :
    readDouble (doubleFold next ++ cs) = readDouble cs := by
  unfold doubleFold
  by_cases hblank : next = some ' '
  · obtain ⟨after, rfl⟩ := List.head?_eq_some_iff.mp (h hblank)
    have hother := readDouble_other (c := ' ') (by decide) after
    simp [hblank, continuation, indent, List.replicate, readDouble, unescape?, hother]
  · simp [hblank, continuation, indent, List.replicate, readDouble]

theorem head_writeDouble_blank {column : Nat} (h : column ≤ width) (first escaped : Bool)
    (cs : List Char) : (writeDouble column first escaped (' ' :: cs)).head? = some ' ' := by
  have hplain : needsEscape ' ' = false := by decide
  have hshort : ¬ width < column := by omega
  simp [writeDouble, hplain, hshort]

theorem readDouble_writeDouble (cs rest : List Char) (column : Nat) (first escaped : Bool) :
    readDouble (writeDouble column first escaped cs ++ rest) = some (cs, rest) := by
  induction cs generalizing column first escaped with
  | nil => simp [writeDouble, readDouble]
  | cons c cs ih =>
    rw [writeDouble]
    dsimp only
    split
    · split
      · simp only [List.append_assoc]
        rw [readDouble_escape, readDouble_fold, ih]
        · rfl
        · intro hblank
          obtain ⟨after, rfl⟩ := List.head?_eq_some_iff.mp hblank
          rw [List.head?_append, head_writeDouble_blank (by simp [afterFold, indent, width])]
          rfl
      · rw [List.append_assoc, readDouble_escape, ih]
        rfl
    · rename_i hplain
      have hother := readDouble_other (Bool.eq_false_iff.mpr hplain)
      split
      · rw [List.append_assoc, readDouble_fold, List.cons_append, hother, ih]
        · rfl
        · exact fun hblank => hblank
      · rw [List.cons_append, hother, ih]
        rfl

/-! ## Any string -/

/-- A string after its key, in the style that its first character shows. -/
def readScalar : List Char → Option (List Char × List Char)
  | ' ' :: '\x27' :: cs => readSingle false cs
  | ' ' :: '"' :: cs => readDouble cs
  | ' ' :: cs => readPlain cs
  | _ => none

/-- A string without quotes has a first character, which is no quote, and no breaks. -/
theorem of_allowsPlain {cs : List Char} (h : allowsPlain cs = true) :
    '\n' ∉ cs ∧ ∃ c after, cs = c :: after ∧ c ≠ '\x27' ∧ c ≠ '"' := by
  unfold allowsPlain at h
  simp only [Bool.and_eq_true, Bool.not_eq_true'] at h
  obtain ⟨⟨⟨_, hbreaks⟩, hindicator⟩, hother⟩ := h
  constructor
  · intro hmem
    have hany : cs.any isBreak = true := List.any_eq_true.mpr ⟨'\n', hmem, by decide⟩
    rw [hbreaks] at hany
    cases hany
  · cases cs with
    | nil =>
      have hnull : readsAsOther [] = true := by decide
      rw [hnull] at hother
      cases hother
    | cons c after =>
      refine ⟨c, after, rfl, ?_, ?_⟩
      · rintro rfl
        simp [hasIndicator] at hindicator
      · rintro rfl
        simp [hasIndicator] at hindicator

/-- A string reads back from its text, wherever it starts, when no indented line follows. -/
theorem readScalar_writeString (column : Nat) (s : String) {rest : List Char}
    (hrest : Shallow rest) :
    readScalar (writeString column s ++ '\n' :: rest) = some (s.toList, '\n' :: rest) := by
  unfold writeString
  dsimp only
  cases hstyle : style s.toList with
  | plain =>
    have hplain : allowsPlain s.toList = true := by
      unfold style at hstyle
      split at hstyle
      · assumption
      · split at hstyle <;> cases hstyle
    obtain ⟨hbreaks, c, after, heq, hsingle, hdouble⟩ := of_allowsPlain hplain
    have hread := readPlain_writePlain hbreaks hrest (column + 1) false
    dsimp only
    rw [heq] at hread ⊢
    simp only [writePlain, Bool.and_false, Bool.false_and, Bool.false_eq_true, if_false,
      List.cons_append] at hread ⊢
    rw [readScalar, hread]
    · exact fun _ h => hsingle (List.cons.inj h).1
    · exact fun _ h => hdouble (List.cons.inj h).1
  | single =>
    exact readSingle_writeSingle (by simp) s.toList (column + 2) none
  | double =>
    exact readDouble_writeDouble s.toList ('\n' :: rest) (column + 2) true false

end SourceAtlas.Yaml
