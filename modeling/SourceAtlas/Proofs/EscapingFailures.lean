-- The failures that a run does not report as errors of the analysis. They come from three places
-- alone: the files that keep the settings, the descriptor of the module, and source files that
-- have no text where text is asked for. All else that a run meets, on the walk and in the source
-- files, is reported. What escapes from a run ends a command without an exit code and makes the
-- service answer that it has failed.
import SourceAtlas.Command.Run
import SourceAtlas.Proofs.FirstFault
import SourceAtlas.Service

namespace SourceAtlas

/-! ## Settings files -/

namespace Files

theorem isFile_of_read {f : Files} {path : String} {content : Content}
    (h : f.read path = .ok content) : f.isFile path = .ok true := by
  unfold read at h
  unfold isFile
  cases hfind : f.find path with
  | error cause =>
    rw [hfind] at h
    cases h
  | ok x =>
    obtain ⟨place, e⟩ := x
    cases e with
    | file mode content => rfl
    | directory mode es =>
      rw [hfind] at h
      cases h
    | link target =>
      rw [hfind] at h
      cases h

/-- Asking for a file fails when it is not allowed to look there and when a name is too long. -/
theorem isFile_error_iff {f : Files} {path : String} {fault : Fault} :
    f.isFile path = .error fault ↔ ∃ cause, f.find path = .error cause ∧
      (cause = .denied ∨ cause = .nameTooLong) ∧ fault = ⟨cause, path⟩ := by
  unfold isFile
  cases f.find path with
  | ok x =>
    obtain ⟨place, e⟩ := x
    cases e <;> simp
  | error cause => cases cause <;> simp [eq_comm]

end Files

namespace Configuration

/-- What makes a settings file stop all work: it is not allowed to look there or the name is too
long, or the file holds no text, or a number in it is too long. -/
inductive Jams (f : Files) (file : String) : Failure → Prop where
  | unasked {cause : Cause} : f.find file = .error cause →
    cause = .denied ∨ cause = .nameTooLong → Jams f file (.fault ⟨cause, file⟩)
  | noText {content : Content} : f.read file = .ok content → content.text? = none →
    Jams f file .undecodable
  | longNumber {content : Content} {text : String} : f.read file = .ok content →
    content.text? = some text → Toml.read text = .error .oversized →
    Jams f file .oversizedNumber

/-- What makes a settings file decide nothing: it is not there, it cannot be read, it is no
document, or it keeps nothing under its keys. -/
inductive Passed (f : Files) (file : String) (keys : List String) : Prop where
  | absent : f.isFile file = .ok false → Passed f file keys
  | unreadable {fault : Fault} : f.isFile file = .ok true → f.read file = .error fault →
    Passed f file keys
  | noDocument {content : Content} {text : String} : f.read file = .ok content →
    content.text? = some text → Toml.read text = .error .malformed → Passed f file keys
  | nothingKept {content : Content} {text : String} {document : List (String × Value)} :
    f.read file = .ok content → content.text? = some text → Toml.read text = .ok document →
    descend document keys = .ok [] → Passed f file keys

variable {f : Files} {root file : String} {keys : List String} {e : Failure}

theorem readPlace_of_text {content : Content} {text : String} (hread : f.read file = .ok content)
    (htext : content.text? = some text) : readPlace f file keys = ofText file keys text := by
  unfold readPlace
  simp only [Files.isFile_of_read hread, hread, htext]

theorem readPlace_of_missing (h : f.find file = .error .notFound) :
    readPlace f file keys = .ok (.silent none) := by
  unfold readPlace Files.isFile
  rw [h]

theorem ofDocument_silent_iff {document : List (String × Value)} :
    (∃ skipped, ofDocument keys document = .silent skipped) ↔ descend document keys = .ok [] := by
  unfold ofDocument
  constructor
  · rintro ⟨skipped, h⟩
    split at h
    · cases h
    · assumption
    · split at h <;> cases h
  · intro h
    rw [h]
    exact ⟨none, rfl⟩

/-- Reading a settings file comes to nothing for one of the reasons above, or the file decides. -/
theorem readPlace_cases (f : Files) (file : String) (keys : List String) :
    (∃ e, readPlace f file keys = .error e ∧ Jams f file e) ∨
      (∃ skipped, readPlace f file keys = .ok (.silent skipped) ∧ Passed f file keys) ∨
      ∃ reading, readPlace f file keys = .ok reading ∧ ∀ skipped, reading ≠ .silent skipped := by
  cases hread : f.read file with
  | error fault =>
    unfold readPlace
    cases hask : f.isFile file with
    | error fault' =>
      obtain ⟨cause, hfind, hcause, rfl⟩ := Files.isFile_error_iff.mp hask
      exact .inl ⟨_, rfl, .unasked hfind hcause⟩
    | ok there =>
      cases there with
      | false => exact .inr (.inl ⟨none, rfl, .absent hask⟩)
      | true =>
        simp only [hread]
        exact .inr (.inl ⟨_, rfl, .unreadable hask hread⟩)
  | ok content =>
    cases htext : content.text? with
    | none =>
      unfold readPlace
      simp only [Files.isFile_of_read hread, hread, htext]
      exact .inl ⟨_, rfl, .noText hread htext⟩
    | some text =>
      rw [readPlace_of_text hread htext]
      unfold ofText
      cases hdocument : Toml.read text with
      | error flaw =>
        cases flaw with
        | malformed => exact .inr (.inl ⟨_, rfl, .noDocument hread htext hdocument⟩)
        | oversized => exact .inl ⟨_, rfl, .longNumber hread htext hdocument⟩
      | ok document =>
        by_cases hkept : descend document keys = .ok []
        · obtain ⟨skipped, hsilent⟩ := ofDocument_silent_iff.mpr hkept
          exact .inr (.inl ⟨skipped, congrArg Except.ok hsilent,
            .nothingKept hread htext hdocument hkept⟩)
        · exact .inr (.inr ⟨_, rfl, fun skipped hsilent =>
            hkept (ofDocument_silent_iff.mp ⟨skipped, hsilent⟩)⟩)

/-- Reading a settings file fails exactly when it jams. -/
theorem readPlace_error_iff : readPlace f file keys = .error e ↔ Jams f file e := by
  constructor
  · intro h
    rcases readPlace_cases f file keys with ⟨e', he, hjams⟩ | ⟨_, he, _⟩ | ⟨_, he, _⟩
    · rw [h] at he
      cases he
      exact hjams
    · rw [h] at he
      cases he
    · rw [h] at he
      cases he
  · intro h
    cases h with
    | unasked hfind hcause =>
      unfold readPlace
      rw [Files.isFile_error_iff.mpr ⟨_, hfind, hcause, rfl⟩]
    | noText hread htext =>
      unfold readPlace
      simp only [Files.isFile_of_read hread, hread, htext]
    | longNumber hread htext hlong =>
      rw [readPlace_of_text hread htext]
      unfold ofText
      rw [hlong]

/-- A settings file is passed over exactly when it decides nothing. -/
theorem readPlace_silent_iff :
    (∃ skipped, readPlace f file keys = .ok (.silent skipped)) ↔ Passed f file keys := by
  constructor
  · rintro ⟨skipped, h⟩
    rcases readPlace_cases f file keys with ⟨_, he, _⟩ | ⟨_, _, hpassed⟩ | ⟨reading, he, hnone⟩
    · rw [h] at he
      cases he
    · exact hpassed
    · rw [h] at he
      cases he
      exact absurd rfl (hnone skipped)
  · intro h
    cases h with
    | absent hask =>
      unfold readPlace
      rw [hask]
      exact ⟨none, rfl⟩
    | unreadable hask hread =>
      unfold readPlace
      rw [hask, hread]
      exact ⟨_, rfl⟩
    | noDocument hread htext hbad =>
      rw [readPlace_of_text hread htext]
      unfold ofText
      rw [hbad]
      exact ⟨_, rfl⟩
    | nothingKept hread htext hdocument hkept =>
      obtain ⟨skipped, hsilent⟩ := ofDocument_silent_iff.mpr hkept
      rw [readPlace_of_text hread htext]
      unfold ofText
      rw [hdocument]
      exact ⟨skipped, congrArg Except.ok hsilent⟩

/-- The first of the places that is not passed over jams. -/
def JamsAt (f : Files) (root : String) (places : List Place) (e : Failure) : Prop :=
  ∃ before place after, places = before ++ place :: after ∧
    (∀ p ∈ before, Passed f (p.file root) p.keys) ∧ Jams f (place.file root) e

theorem jamsAt_cons_iff {place : Place} {rest : List Place} :
    JamsAt f root (place :: rest) e ↔ Jams f (place.file root) e ∨
      Passed f (place.file root) place.keys ∧ JamsAt f root rest e := by
  constructor
  · rintro ⟨before, p, after, hsplit, hpassed, hjams⟩
    cases before with
    | nil =>
      cases hsplit
      exact .inl hjams
    | cons q before =>
      cases hsplit
      obtain ⟨hq, hbefore⟩ := List.forall_mem_cons.mp hpassed
      exact .inr ⟨hq, before, p, after, rfl, hbefore, hjams⟩
  · rintro (hjams | ⟨hpassed, before, p, after, rfl, hbefore, hjams⟩)
    · exact ⟨[], place, rest, rfl, by simp, hjams⟩
    · exact ⟨place :: before, p, after, rfl, List.forall_mem_cons.mpr ⟨hpassed, hbefore⟩, hjams⟩

theorem Jams.ne_analysis (h : Jams f file e) (a : AnalysisError) : e ≠ .analysis a := by
  cases h <;> exact nofun

theorem outcome_search_cons (place : Place) (rest : List Place) :
    (search f root (place :: rest)).outcome =
      match readPlace f (place.file root) place.keys with
      | .error failure => .error failure
      | .ok (.silent _) => (search f root rest).outcome
      | .ok (.refused flaw) => .error (.analysis (.badSettings (place.file root) flaw))
      | .ok (.settled s) => .ok s := by
  rw [search]
  cases readPlace f (place.file root) place.keys with
  | error failure => rfl
  | ok reading =>
    cases reading with
    | silent skipped =>
      have hnoted : (Traced.noteAll skipped.toList).outcome = .ok () := rfl
      exact Traced.outcome_bind_ok hnoted
    | refused flaw => rfl
    | settled s => rfl

/-- Looking for settings ends without an error of the analysis exactly at a file that jams. -/
theorem search_escapes_iff {places : List Place} :
    ((search f root places).outcome = .error e ∧ ∀ a, e ≠ .analysis a) ↔
      JamsAt f root places e := by
  induction places with
  | nil =>
    constructor
    · rintro ⟨h, _⟩
      cases h
    · rintro ⟨before, place, after, hsplit, _⟩
      cases before <;> cases hsplit
  | cons place rest ih =>
    have hjams : Jams f (place.file root) e ↔
        readPlace f (place.file root) place.keys = .error e := readPlace_error_iff.symm
    have hpassed : Passed f (place.file root) place.keys ↔
        ∃ skipped, readPlace f (place.file root) place.keys = .ok (.silent skipped) :=
      readPlace_silent_iff.symm
    rw [jamsAt_cons_iff, ← ih, hpassed, outcome_search_cons]
    cases hread : readPlace f (place.file root) place.keys with
    | error failure =>
      rw [hread, Except.error.injEq] at hjams
      simp only [Except.error.injEq, reduceCtorEq, exists_false, false_and, or_false]
      constructor
      · rintro ⟨h, _⟩
        exact hjams.mpr h
      · intro h
        exact ⟨hjams.mp h, h.ne_analysis⟩
    | ok reading =>
      rw [hread] at hjams
      simp only [hjams, reduceCtorEq, false_or]
      cases reading with
      | silent skipped => simp
      | refused flaw =>
        simp only [Except.ok.injEq, reduceCtorEq, exists_false, false_and, iff_false]
        rintro ⟨h, hnone⟩
        cases h
        exact hnone _ rfl
      | settled s => simp

end Configuration

/-! ## The descriptor -/

namespace ModulePath

variable {f : Files} {settings : Settings} {root : String} {e : Failure}

/-- What makes a descriptor stop all work: its path holds a NUL, or it holds no text. -/
inductive Jams (f : Files) (file : String) : Failure → Prop where
  | nul : '\x00' ∈ file.toList → Jams f file (.fault ⟨.embeddedNul, file⟩)
  | noText {content : Content} : f.read file = .ok content → content.text? = none →
    Jams f file .undecodable

theorem Jams.ne_analysis {file : String} (h : Jams f file e) (a : AnalysisError) :
    e ≠ .analysis a := by
  cases h <;> exact nofun

theorem Jams.detect (h : Jams f (descriptor root settings) e) :
    (ModulePath.detect f root settings).outcome = .error e := by
  cases h with
  | nul hnul => exact detect_of_nul hnul
  | noText hread htext =>
    unfold ModulePath.detect
    simp only [hread, htext]
    rfl

/-- A descriptor that does not jam gives a path, which may be empty. -/
theorem detect_of_not_jams (h : ∀ e, ¬ Jams f (descriptor root settings) e) :
    (detect f root settings).outcome = .ok (declared f root settings) :=
  detect_of_plain (fun hnul => h _ (.nul hnul)) fun _ hread htext => h _ (.noText hread htext)

end ModulePath

/-! ## Whole runs -/

namespace Analysis

variable {f : Files} {ready : Bool} {path root : String} {language : Option String}
  {given : Option Settings} {settings : Settings} {e : Failure}

/-- A walk through the tree comes to a source file without text where text is asked for, and nothing
is wrong with the files before it. -/
def Garbles (f : Files) (settings : Settings) (root : String) : Prop :=
  ∃ before file after content, walk f settings root = .ok (before ++ file :: after) ∧
    (∀ path ∈ before, f.badSource? path = none) ∧ f.read file = .ok content ∧
    content.tree.hasFault = false ∧ content.tree.Garbled

/-- What stops a run and is no error of the analysis: a settings file that the run has to ask,
or the descriptor of a tree whose settings are there and whose language is known, or in such a
tree, when the descriptor is in order, a source file. -/
inductive Escapes (f : Files) (path : String) (language : Option String)
    (given : Option Settings) : Failure → Prop where
  | settings {root : String} {e : Failure} : given = none → f.absolute? path = some root →
    Configuration.JamsAt f root Configuration.places e → Escapes f path language given e
  | descriptor {root : String} {settings : Settings} {e : Failure} :
    f.absolute? path = some root → (settingsFor f root language given).outcome = .ok settings →
    languages.contains settings.language = true →
    ModulePath.Jams f (ModulePath.descriptor root settings) e → Escapes f path language given e
  | source {root : String} {settings : Settings} :
    f.absolute? path = some root → (settingsFor f root language given).outcome = .ok settings →
    languages.contains settings.language = true →
    (∀ e, ¬ ModulePath.Jams f (ModulePath.descriptor root settings) e) →
    Garbles f settings root → Escapes f path language given .undecodable

theorem settingsFor_error_iff :
    (settingsFor f root language given).outcome = .error e ↔
      given = none ∧ (Configuration.load f root).outcome = .error e := by
  unfold settingsFor
  cases given with
  | some settings =>
    cases language <;> simp <;> exact nofun
  | none =>
    cases hload : (Configuration.load f root).outcome with
    | error failure =>
      rw [Traced.outcome_bind_error hload]
      simp
    | ok settings =>
      rw [Traced.outcome_bind_ok hload]
      cases language <;> simp <;> exact nofun

theorem outcome_run_of_error (hroot : f.absolute? path = some root)
    (h : (settingsFor f root language given).outcome = .error e) :
    (run f ready path language given).outcome = .error e := by
  unfold run
  rw [hroot]
  exact Traced.outcome_bind_error h

theorem outcome_run_of_settings (hroot : f.absolute? path = some root)
    (h : (settingsFor f root language given).outcome = .ok settings) :
    (run f ready path language given).outcome = (graphAt f ready root settings).outcome := by
  unfold run
  rw [hroot]
  exact Traced.outcome_bind_ok h

theorem badSource?_escapes_iff {file : String} :
    (f.badSource? file = some e ∧ ∀ a, e ≠ .analysis a) ↔
      e = .undecodable ∧ ∃ content, f.read file = .ok content ∧
        content.tree.hasFault = false ∧ content.tree.Garbled := by
  unfold Files.badSource?
  cases f.read file with
  | error fault =>
    simp only [Option.some.injEq, reduceCtorEq, false_and, exists_false, and_false, iff_false]
    rintro ⟨rfl, hnone⟩
    exact hnone _ rfl
  | ok content =>
    simp only [Except.ok.injEq, exists_eq_left']
    split
    · rename_i hfault
      simp only [Option.some.injEq, hfault, Bool.true_eq_false, false_and, and_false, iff_false]
      rintro ⟨rfl, hnone⟩
      exact hnone _ rfl
    · rename_i hsound
      split
      · rename_i hgarbled
        simp only [Option.some.injEq, hsound, hgarbled, and_true, eq_comm]
        constructor
        · rintro ⟨rfl, _⟩
          rfl
        · rintro rfl
          exact ⟨rfl, nofun⟩
      · rename_i hreadable
        simp [hreadable]

/-- Of what a walk and its source files can end in, only a garbled file escapes. -/
theorem verdict_escapes_iff :
    (verdict f settings root = .error e ∧ ∀ a, e ≠ .analysis a) ↔
      e = .undecodable ∧ Garbles f settings root := by
  unfold verdict Garbles
  rw [walk_eq]
  cases f.isDirectory root with
  | false =>
    simp only [Bool.not_false, if_true, reduceCtorEq, false_and, exists_false, and_false, iff_false]
    rintro ⟨h, hnone⟩
    cases h
    exact hnone _ rfl
  | true =>
    simp only [Bool.not_true, Bool.false_eq_true, if_false]
    cases (f.stops settings root).findSome? (·.refusal? f) with
    | some a =>
      simp only [reduceCtorEq, false_and, exists_false, and_false, iff_false]
      rintro ⟨h, hnone⟩
      cases h
      exact hnone _ rfl
    | none =>
      simp only [Except.ok.injEq]
      constructor
      · rintro ⟨h, hnone⟩
        cases hbad : (f.walked settings root).findSome? f.badSource? with
        | none =>
          rw [hbad] at h
          cases h
        | some failure =>
          rw [hbad] at h
          cases h
          obtain ⟨before, file, after, hsplit, hfile, hbefore⟩ :=
            List.findSome?_eq_some_iff.mp hbad
          obtain ⟨rfl, content, hcontent⟩ := badSource?_escapes_iff.mp ⟨hfile, hnone⟩
          exact ⟨rfl, before, file, after, content, hsplit, hbefore, hcontent⟩
      · rintro ⟨rfl, before, file, after, content, hsplit, hbefore, hcontent⟩
        have hfile := badSource?_escapes_iff.mpr ⟨rfl, content, hcontent⟩
        have hbad := List.findSome?_eq_some_iff.mpr
          ⟨before, file, after, hsplit, hfile.1, hbefore⟩
        rw [hbad]
        exact ⟨rfl, nofun⟩

/-- A run that has its settings lets out what the descriptor jams with, and when that is in order
what comes of a garbled source file, and no more. -/
theorem graphAt_escapes_iff (hnames : f.root.wellNamed = true)
    (hroot : Path.isAbsolute root = true) :
    ((graphAt f ready root settings).outcome = .error e ∧ ∀ a, e ≠ .analysis a) ↔
      languages.contains settings.language = true ∧
        (ModulePath.Jams f (ModulePath.descriptor root settings) e ∨
          (∀ e', ¬ ModulePath.Jams f (ModulePath.descriptor root settings) e') ∧
            e = .undecodable ∧ Garbles f settings root) := by
  by_cases hlanguage : languages.contains settings.language = true
  · rw [outcome_graphAt hlanguage]
    by_cases hjams : ∃ e', ModulePath.Jams f (ModulePath.descriptor root settings) e'
    · obtain ⟨e', hjams⟩ := hjams
      have hcollect : (collect f settings ready root).outcome = .error e' :=
        Traced.outcome_bind_error hjams.detect
      rw [hcollect]
      constructor
      · rintro ⟨h, _⟩
        cases h
        exact ⟨hlanguage, .inl hjams⟩
      · rintro ⟨_, hother | ⟨hsound, _⟩⟩
        · have hsame : e' = e := Except.error.inj (hjams.detect.symm.trans hother.detect)
          exact ⟨congrArg Except.error hsame, hother.ne_analysis⟩
        · exact absurd hjams (hsound e')
    · have hsound : ∀ e', ¬ ModulePath.Jams f (ModulePath.descriptor root settings) e' :=
        fun e' h => hjams ⟨e', h⟩
      rw [outcome_collect hnames hroot hlanguage (ModulePath.detect_of_not_jams hsound),
        verdict_escapes_iff]
      constructor
      · exact fun h => ⟨hlanguage, .inr ⟨hsound, h⟩⟩
      · rintro ⟨_, h | ⟨_, h⟩⟩
        · exact absurd h (hsound e)
        · exact h
  · unfold graphAt
    simp only [hlanguage, Bool.not_false, if_true, false_and, iff_false, Bool.false_eq_true]
    rintro ⟨h, hnone⟩
    cases h
    exact hnone _ rfl

theorem run_escapes_iff (hnames : f.root.wellNamed = true) :
    ((run f ready path language given).outcome = .error e ∧ ∀ a, e ≠ .analysis a) ↔
      Escapes f path language given e := by
  constructor
  · rintro ⟨h, hnone⟩
    cases hroot : f.absolute? path with
    | none =>
      unfold run at h
      rw [hroot] at h
      cases h
      exact absurd rfl (hnone _)
    | some root =>
      cases hsettings : (settingsFor f root language given).outcome with
      | error failure =>
        rw [outcome_run_of_error hroot hsettings] at h
        cases h
        obtain ⟨hgiven, hload⟩ := settingsFor_error_iff.mp hsettings
        exact .settings hgiven hroot (Configuration.search_escapes_iff.mp ⟨hload, hnone⟩)
      | ok settings =>
        rw [outcome_run_of_settings hroot hsettings] at h
        obtain ⟨hlanguage, hjams | ⟨hsound, rfl, hgarbles⟩⟩ :=
          (graphAt_escapes_iff hnames (Files.isAbsolute_of_absolute? hroot)).mp ⟨h, hnone⟩
        · exact .descriptor hroot hsettings hlanguage hjams
        · exact .source hroot hsettings hlanguage hsound hgarbles
  · intro h
    cases h with
    | settings hgiven hroot hjams =>
      obtain ⟨hload, hnone⟩ := Configuration.search_escapes_iff.mpr hjams
      exact ⟨outcome_run_of_error hroot (settingsFor_error_iff.mpr ⟨hgiven, hload⟩), hnone⟩
    | descriptor hroot hsettings hlanguage hjams =>
      rw [outcome_run_of_settings hroot hsettings]
      exact (graphAt_escapes_iff hnames (Files.isAbsolute_of_absolute? hroot)).mpr
        ⟨hlanguage, .inl hjams⟩
    | source hroot hsettings hlanguage hsound hgarbles =>
      rw [outcome_run_of_settings hroot hsettings]
      exact (graphAt_escapes_iff hnames (Files.isAbsolute_of_absolute? hroot)).mpr
        ⟨hlanguage, .inr ⟨hsound, rfl, hgarbles⟩⟩

end Analysis

/-! ## Around a run -/

namespace Files

theorem writable_embeddedNul_iff {f : Files} {path : String} :
    f.writable path = .error .embeddedNul ↔ '\x00' ∈ path.toList := by
  constructor
  · intro h
    by_contra hnul
    unfold writable at h
    cases hspot : f.locate true path with
    | error cause =>
      rw [hspot] at h
      cases h
      exact locate_ne_embeddedNul hnul hspot
    | ok spot =>
      rw [hspot] at h
      simp only [bind, Except.bind] at h
      split at h
      · cases h
      · split at h
        · split at h <;> cases h
        · cases h
      · split at h
        · cases h
        · split at h <;> cases h
        · cases h
  · intro h
    unfold writable locate
    rw [if_pos (by simpa using h)]
    rfl

theorem fault_write_of_nul {f : Files} {path : String} (h : '\x00' ∈ path.toList) (text : String) :
    (f.write path text).fault = some ⟨.embeddedNul, path⟩ := by
  unfold write
  rw [writable_embeddedNul_iff.mpr h]

theorem cause_of_write {f : Files} {path text : String} {fault : Fault}
    (hnul : '\x00' ∉ path.toList) (h : (f.write path text).fault = some fault) :
    fault.cause ≠ .embeddedNul := by
  unfold write at h
  cases hwritable : f.writable path with
  | error cause =>
    rw [hwritable] at h
    cases h
    rintro rfl
    exact hnul (writable_embeddedNul_iff.mp hwritable)
  | ok place =>
    simp only [hwritable] at h
    split at h
    · cases h
      exact nofun
    · cases h

theorem encodes_of_no_strays {f : Files} (h : f.strays = []) (text : String) :
    f.encodes text = true := by
  simp [encodes, h]

end Files

namespace Ending

variable (output errors : String) (e : Ending)

@[simp] theorem result_after : (e.after output errors).result = e.result := rfl

@[simp] theorem files_after : (e.after output errors).files = e.files := rfl

end Ending

namespace Command

/-- Writing the graph ends without an exit code when the path has a NUL, and when all is written
and the path cannot be told. -/
theorem finish_error_iff {f : Files} {output : String} {g : Graph} {e : Failure} :
    (finish f output g).result = .error e ↔
      '\x00' ∈ output.toList ∧ e = .fault ⟨.embeddedNul, output⟩ ∨
        (g.save f output).fault = none ∧ f.encodes output = false ∧ e = .unencodable := by
  unfold finish
  by_cases hnul : '\x00' ∈ output.toList
  · have hfault : (g.save f output).fault = some ⟨.embeddedNul, output⟩ :=
      Files.fault_write_of_nul hnul _
    simp only [hfault, hnul, if_true, Except.error.injEq, true_and, reduceCtorEq, false_and,
      or_false]
    exact eq_comm
  · cases hfault : (g.save f output).fault with
    | none =>
      simp only [hfault, hnul, false_and, false_or, true_and]
      cases f.encodes output with
      | false =>
        simp only [Bool.false_eq_true, if_false, Except.error.injEq, true_and]
        exact eq_comm
      | true => simp
    | some fault =>
      have hcause : fault.cause ≠ .embeddedNul := Files.cause_of_write hnul hfault
      simp [hfault, hcause, hnul]

/-- A command ends without an exit code when its path or its language cannot be told, when a
failure escapes from the run, and when there is a graph whose writing ends so. -/
theorem runCollect_error_iff {f : Files} {ready verbose : Bool} {o : CollectOptions} {e : Failure}
    (hnames : f.root.wellNamed = true) :
    (runCollect f ready verbose o).result = .error e ↔
      f.exists? o.path = true ∧
        (¬ (f.encodes o.path = true ∧ f.encodes o.language = true) ∧ e = .unencodable ∨
          (f.encodes o.path = true ∧ f.encodes o.language = true) ∧
            (Analysis.Escapes f o.path (some o.language) none e ∨
              ∃ g, (Analysis.run f ready o.path (some o.language) none).outcome = .ok g ∧
                ('\x00' ∈ o.output.toList ∧ e = .fault ⟨.embeddedNul, o.output⟩ ∨
                  (g.save f o.output).fault = none ∧ f.encodes o.output = false ∧
                    e = .unencodable))) := by
  have hescapes : Analysis.Escapes f o.path (some o.language) none e ↔
      (Analysis.run f ready o.path (some o.language) none).outcome = .error e ∧
        ∀ a, e ≠ .analysis a := (Analysis.run_escapes_iff hnames).symm
  rw [hescapes]
  unfold runCollect
  cases f.exists? o.path with
  | false => simp
  | true =>
    by_cases htold : f.encodes o.path = true ∧ f.encodes o.language = true
    · simp only [htold, Bool.not_true, Bool.false_eq_true, if_false, true_and, Bool.and_self,
        not_true_eq_false, false_and, false_or]
      cases (Analysis.run f ready o.path (some o.language) none).outcome with
      | ok g =>
        simp only [Ending.result_after, reduceCtorEq, false_and, false_or, Except.ok.injEq,
          exists_eq_left']
        exact finish_error_iff
      | error failure =>
        simp only [Ending.result_after, reduceCtorEq, exists_false, false_and, or_false,
          Except.error.injEq]
        cases failure with
        | analysis a =>
          constructor
          · exact nofun
          · rintro ⟨rfl, hnone⟩
            exact absurd rfl (hnone a)
        | _ =>
          -- the command passes on what it does not know
          simp only [Except.error.injEq, iff_self_and]
          rintro rfl a h
          cases h
    · have hmute : (f.encodes o.path && f.encodes o.language) = false := by
        simpa using htold
      simp only [Bool.not_true, Bool.false_eq_true, if_false, hmute, Bool.not_false, if_true,
        htold, not_false_eq_true, true_and, false_and, or_false, Except.error.injEq]
      exact eq_comm

end Command

namespace Service

theorem statusOf_cases (a : AnalysisError) : statusOf a = 400 ∨ statusOf a = 422 := by
  cases a <;> simp [statusOf]

/-- An answer goes out as it is, unless some text in it cannot. -/
theorem sent_cases (f : Files) (r : Response) :
    (sent f r = r ∧ ∀ v, r.body = some v → ∀ text ∈ v.texts, f.encodes text = true) ∨
      sent f r = .internal ∧ ∃ v, r.body = some v ∧ ∃ text ∈ v.texts, f.encodes text = false := by
  unfold sent
  cases hbody : r.body with
  | none => exact .inl ⟨rfl, nofun⟩
  | some v =>
    dsimp only
    split
    · rename_i hall
      exact .inl ⟨rfl, by simpa using hall⟩
    · rename_i hsome
      exact .inr ⟨rfl, v, rfl, by simpa using hsome⟩

theorem status_sent (f : Files) (r : Response) :
    (sent f r).status = 500 ↔
      r.status = 500 ∨ ∃ v, r.body = some v ∧ ∃ text ∈ v.texts, f.encodes text = false := by
  rcases sent_cases f r with ⟨hsent, hall⟩ | ⟨hsent, hsome⟩
  · have hnone : ¬ ∃ v, r.body = some v ∧ ∃ text ∈ v.texts, f.encodes text = false := by
      rintro ⟨v, hv, text, htext, hbad⟩
      rw [hall v hv text htext] at hbad
      cases hbad
    rw [hsent, or_iff_left hnone]
  · rw [hsent]
    exact ⟨fun _ => .inr hsome, fun _ => rfl⟩

/-- The service fails when the request is not all text, and when a failure escapes from the
run. -/
theorem analyze_internal_iff {f : Files} {ready : Bool} {r : AnalyzeRequest}
    (hnames : f.root.wellNamed = true) :
    (analyze f ready r).status = 500 ↔
      ¬ (f.encodes r.rootPath = true ∧ f.encodes r.language = true) ∨
        f.isDirectory r.rootPath = true ∧
          ∃ e, Analysis.Escapes f r.rootPath (some r.language) none e := by
  have hescapes : ∀ e, Analysis.Escapes f r.rootPath (some r.language) none e ↔
      (Analysis.run f ready r.rootPath (some r.language) none).outcome = .error e ∧
        ∀ a, e ≠ .analysis a := fun e => (Analysis.run_escapes_iff hnames).symm
  simp only [hescapes]
  unfold analyze
  by_cases htold : f.encodes r.rootPath = true ∧ f.encodes r.language = true
  · simp only [htold, Bool.and_self, Bool.not_true, Bool.false_eq_true, if_false, and_self,
      not_true_eq_false, false_or]
    cases f.isDirectory r.rootPath with
    | false => simp [Response.refusal]
    | true =>
      simp only [Bool.not_true, Bool.false_eq_true, if_false, true_and]
      cases (Analysis.run f ready r.rootPath (some r.language) none).outcome with
      | ok g => simp
      | error failure =>
        cases failure with
        | analysis a =>
          have hstatus : statusOf a ≠ 500 := by
            rcases statusOf_cases a with h | h <;> rw [h] <;> decide
          simp [Response.refusal, hstatus]
        | _ => simp [Response.internal]
  · have hmute : (f.encodes r.rootPath && f.encodes r.language) = false := by
      simpa using htold
    simp [hmute, htold, Response.internal]

end Service

/-! ## The law -/

namespace Analysis

/-- A tree that keeps no settings at its root. -/
theorem outcome_settingsFor_bare (f : Files) {mode : Mode} {es : List (String × Entry)}
    (hroot : f.root = .directory mode es) (hmode : mode.execute = true)
    (hfirst : f.root.child? ".archgraph.toml" = none)
    (hsecond : f.root.child? "pyproject.toml" = none) :
    (settingsFor f "/" (some "go") none).outcome = .ok {} := by
  have hfirstPath : Configuration.Place.file "/" ⟨".archgraph.toml", ["archgraph"]⟩ =
      "/.archgraph.toml" := by decide
  have hsecondPath : Configuration.Place.file "/" ⟨"pyproject.toml", ["tool", "archgraph"]⟩ =
      "/pyproject.toml" := by decide
  have hfindFirst : f.find "/.archgraph.toml" = .error .notFound :=
    f.find_free (by decide) hroot hmode hfirst
  have hfindSecond : f.find "/pyproject.toml" = .error .notFound :=
    f.find_free (by decide) hroot hmode hsecond
  have hload : (Configuration.load f "/").outcome = .ok {} := by
    unfold Configuration.load Configuration.places
    rw [Configuration.search, Configuration.search, hfirstPath, hsecondPath,
      Configuration.readPlace_of_missing hfindFirst,
      Configuration.readPlace_of_missing hfindSecond]
    rfl
  unfold settingsFor
  exact Traced.outcome_bind_ok hload

/-- A tree with a source file and a descriptor that is no text. -/
def unreadableDescriptor : Files where
  root := .directory {}
    [("go.mod", .file {} (.bytes ⟨#[0xff]⟩)), ("a.go", .file {} (.ofText "package a\n"))]

theorem escapes_unreadableDescriptor :
    Escapes unreadableDescriptor "/" (some "go") none .undecodable := by
  have hread : unreadableDescriptor.read (ModulePath.descriptor "/" {}) =
      .ok (.bytes ⟨#[0xff]⟩) :=
    unreadableDescriptor.read_child ModulePath.spells_descriptor rfl rfl rfl rfl
  have htext : (Content.bytes ⟨#[0xff]⟩).text? = none := by decide
  exact .descriptor unreadableDescriptor.absolute?_root
    (outcome_settingsFor_bare _ rfl rfl rfl rfl) (by decide) (.noText hread htext)

/-- A file with a byte that is no text in the path of an import stops a run, and the broken file
behind it is never reported. -/
theorem escapes_garbledBeforeBroken :
    Escapes garbledBeforeBroken "/" (some "go") none .undecodable := by
  have hescapes : ∀ a, Failure.undecodable ≠ .analysis a := by
    intro a h
    cases h
  refine .source garbledBeforeBroken.absolute?_root
    (outcome_settingsFor_bare _ rfl rfl rfl rfl) (by decide) ?_
    (verdict_escapes_iff.mp ⟨verdict_garbledBeforeBroken, hescapes⟩).2
  intro e hjams
  cases hjams with
  | nul hnul => exact ModulePath.nul_notMem_descriptor hnul
  | noText hread htext => exact no_descriptor rfl rfl rfl _ hread htext

end Analysis

end SourceAtlas
