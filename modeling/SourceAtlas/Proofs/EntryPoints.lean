-- The two ways to a graph: a request to the service, and the command that writes a file. Both
-- give what the analysis gives, as far as it can be sent, written and told. Nothing is touched
-- before the output is opened; from then on what an older output held is gone.
import SourceAtlas.Proofs.EscapingFailures
import SourceAtlas.Proofs.SharedIds
import SourceAtlas.Proofs.Writing

namespace SourceAtlas

/-- The text that a graph is written as: JSON where the suffix of the path says so in letters of any
case, and YAML elsewhere. -/
def Graph.textFor (g : Graph) (path : String) : String :=
  if (Path.suffix path).toList.map Char.toLower = ".json".toList then g.toJson else Yaml.write g

theorem Graph.render_ofPath (g : Graph) (path : String) :
    g.render (.ofPath path) = g.textFor path := by
  unfold GraphForm.ofPath textFor
  split <;> rfl

/-- A path that can be opened is opened at one place. -/
theorem Files.Opens.unique {f : Files} {path : String} {place place' : List String}
    (h : f.Opens path place) (h' : f.Opens path place') : place = place' :=
  Except.ok.inj ((writable_eq_ok_iff.mpr h).symm.trans (writable_eq_ok_iff.mpr h'))

/-! ## The command line -/

namespace Arguments

/-- The word does not start with a dash. -/
def Undashed (text : String) : Prop := text.toList.head? ≠ some '-'

instance (text : String) : Decidable (Undashed text) := inferInstanceAs (Decidable (_ ≠ _))

theorem words_cons {flags : List Flag} {text : String} {word : Word}
    (hdivider : text ≠ dividerText) (hclass : classify flags text = .ok word)
    (rest : List String) : words flags (text :: rest) = (words flags rest).map (word :: ·) := by
  rw [words, if_neg hdivider, hclass]

theorem words_undashed {text : String} (h : Undashed text) (flags : List Flag)
    (rest : List String) :
    words flags (text :: rest) = (words flags rest).map (.operand text :: ·) := by
  refine words_cons ?_ ?_ rest
  · rintro rfl
    exact h (by decide)
  · unfold classify
    split
    · rename_i hdash
      exact absurd (by rw [hdash]; rfl) h
    · rfl

end Arguments

namespace Command

open Arguments

/-- The words that ask for the graph of a directory to be written to a file. -/
def collectLine (path language out : String) : List String :=
  ["collect", path, "-l", language, "-o", out]

variable {path language out : String}

theorem readCollect_undashed (hpath : Undashed path) (hlanguage : Undashed language)
    (hout : Undashed out) :
    readCollect [path, "-l", language, "-o", out] =
      .ok (.collect { path, output := out, language }, []) := by
  have hl : classify collectShape.flags "-l" =
      .ok (.option "-l" { flag := languageFlag, name := "-l" }) := rfl
  have ho : classify collectShape.flags "-o" =
      .ok (.option "-o" { flag := outputFlag, name := "-o" }) := rfl
  unfold readCollect Arguments.read
  rw [words_undashed hpath, words_cons (by decide) hl, words_undashed hlanguage,
    words_cons (by decide) ho, words_undashed hout]
  rfl

theorem ofArguments_undashed (hpath : Undashed path) (hlanguage : Undashed language)
    (hout : Undashed out) :
    ofArguments (collectLine path language out) =
      .ok (false, .collect { path, output := out, language }) := by
  have hl : classify topShape.flags "-l" = .ok (.unknown "-l") := rfl
  have ho : classify topShape.flags "-o" = .ok (.unknown "-o") := rfl
  have hread : Arguments.read topShape (collectLine path language out) =
      { events := [.operand (collectLine path language out)] } := by
    unfold Arguments.read collectLine
    rw [words_undashed (by decide), words_undashed hpath, words_cons (by decide) hl,
      words_undashed hlanguage, words_cons (by decide) ho, words_undashed hout]
    rfl
  have hstep : topStep { options := {} } (.operand (collectLine path language out)) =
      .ok { options := { command := some (.collect { path, output := out, language }) },
            settled := true } := by
    change (readCollect [path, "-l", language, "-o", out] >>= _) = _
    rw [readCollect_undashed hpath hlanguage hout]
    rfl
  unfold ofArguments follow
  rw [hread]
  simp only [List.foldlM_cons, List.foldlM_nil, hstep]
  rfl

/-! ## The command -/

variable {f : Files} {ready : Bool}

/-- How a command ends that has a text to write. An output that cannot be opened leaves the files as
they were. One that can be holds the whole text afterwards, and the command ends well if it can also
say so, or the output holds the beginning for which there is room. -/
inductive Ends (f : Files) (out text : String) : Except Failure Nat → Files → Prop
  | written {place : List String} {f' : Files} : f.Opens out place → f.Fits place text →
    f.encodes out = true → f.Written out place (.ofText text) f' → Ends f out text (.ok 0) f'
  | untold {place : List String} {f' : Files} : f.Opens out place → f.Fits place text →
    f.encodes out = false → f.Written out place (.ofText text) f' →
    Ends f out text (.error .unencodable) f'
  | cut {place : List String} {f' : Files} {n : Nat} : f.Opens out place →
    f.room place = some n → n < text.utf8ByteSize →
    f.Written out place (.bytes (text.toUTF8.extract 0 n)) f' → Ends f out text (.ok 1) f'
  | closed {result : Except Failure Nat} : (¬ ∃ place, f.Opens out place) → result ≠ .ok 0 →
    Ends f out text result f

theorem ends_finish (f : Files) (out : String) (g : Graph) :
    Ends f out (g.textFor out) (finish f out g).result (finish f out g).files := by
  unfold finish Graph.save
  rw [g.render_ofPath]
  rcases f.write_cases out (g.textFor out) with
    ⟨cause, hclosed, hwrite⟩ | ⟨place, hopens, ⟨hfits, hwrite⟩ | ⟨n, hroom, hlong, hwrite⟩⟩
  · have hnone : ¬ ∃ place, f.Opens out place := by
      rintro ⟨place, hopens⟩
      rw [Files.writable_eq_ok_iff.mpr hopens] at hclosed
      cases hclosed
    simp only [hwrite]
    split
    · exact .closed hnone nofun
    · exact .closed hnone nofun
  · simp only [hwrite]
    split
    · rename_i htold
      exact .written hopens hfits htold (hopens.written _)
    · rename_i huntold
      exact .untold hopens hfits (eq_false_of_ne_true huntold) (hopens.written _)
  · simp only [hwrite]
    exact .cut hopens hroom hlong (hopens.written _)

/-- A command that has a text ends well exactly when the output can be opened, there is room for the
text and the output can be told. -/
theorem ends_well_iff {text : String} {result : Except Failure Nat} {f' : Files}
    (h : Ends f out text result f') :
    result = .ok 0 ↔ f.encodes out = true ∧ ∃ place, f.Opens out place ∧ f.Fits place text := by
  cases h with
  | written hopens hfits htold => exact ⟨fun _ => ⟨htold, _, hopens, hfits⟩, fun _ => rfl⟩
  | untold _ _ huntold =>
    refine ⟨nofun, fun ⟨htold, _⟩ => ?_⟩
    rw [huntold] at htold
    cases htold
  | cut hopens hroom hlong =>
    refine ⟨nofun, fun ⟨_, place, hopens', hfits⟩ => ?_⟩
    obtain rfl := hopens.unique hopens'
    exact absurd (hfits _ hroom) (Nat.not_le.mpr hlong)
  | closed hnone hresult =>
    exact ⟨fun h => absurd h hresult, fun ⟨_, place, hopens, _⟩ => absurd ⟨place, hopens⟩ hnone⟩

theorem written_of_ends_well {text : String} {result : Except Failure Nat} {f' : Files}
    (h : Ends f out text result f') (hresult : result = .ok 0) :
    ∃ place, f.Opens out place ∧ f.Written out place (.ofText text) f' := by
  cases h with
  | written hopens _ _ hwritten => exact ⟨_, hopens, hwritten⟩
  | untold => cases hresult
  | cut => cases hresult
  | closed _ hother => exact absurd hresult hother

/-- A command that collects has a text to write when there is something at its path, path and
language can be told, and the analysis has a graph. Otherwise it does not end well, and the files
are as they were. -/
theorem runCollect_cases (f : Files) (ready verbose : Bool) (o : CollectOptions) :
    (∃ g, f.encodes o.path = true ∧ f.encodes o.language = true ∧
        (Analysis.run f ready o.path (some o.language) none).outcome = .ok g ∧
        Ends f o.output (g.textFor o.output) (runCollect f ready verbose o).result
          (runCollect f ready verbose o).files) ∨
      (¬ (f.exists? o.path = true ∧ f.encodes o.path = true ∧ f.encodes o.language = true ∧
        ∃ g, (Analysis.run f ready o.path (some o.language) none).outcome = .ok g)) ∧
      (runCollect f ready verbose o).result ≠ .ok 0 ∧
      (runCollect f ready verbose o).files = f := by
  unfold runCollect
  cases f.exists? o.path with
  | false => exact .inr ⟨nofun, nofun, rfl⟩
  | true =>
    by_cases htold : (f.encodes o.path && f.encodes o.language) = true
    · obtain ⟨hpath, hlanguage⟩ := Bool.and_eq_true_iff.mp htold
      simp only [Bool.not_true, Bool.false_eq_true, if_false, hpath, hlanguage, true_and,
        Bool.and_self, Ending.result_after, Ending.files_after]
      cases (Analysis.run f ready o.path (some o.language) none).outcome with
      | ok g => exact .inl ⟨g, rfl, ends_finish f o.output g⟩
      | error failure =>
        refine .inr ⟨nofun, ?_⟩
        cases failure <;> exact ⟨nofun, rfl⟩
    · simp only [Bool.not_true, Bool.false_eq_true, if_false, htold, Bool.not_false, if_true]
      refine .inr ⟨?_, nofun, trivial⟩
      rintro ⟨_, hpath, hlanguage, _⟩
      exact htold (by rw [hpath, hlanguage]; rfl)

/-- A command that does not end well has not touched a file, or it has a graph and has opened its
output. Then there was no room for the text, or all was written and the command could not say
so. -/
theorem files_of_run_ne (argv : List String) (h : (run f ready argv).result ≠ .ok 0) :
    (run f ready argv).files = f ∨ ∃ verbose o g place,
      ofArguments argv = .ok (verbose, .collect o) ∧
      (Analysis.run f ready o.path (some o.language) none).outcome = .ok g ∧
      f.Opens o.output place ∧
      ((∃ n, f.room place = some n ∧ n < (g.textFor o.output).utf8ByteSize ∧
          (run f ready argv).result = .ok 1 ∧
          f.Written o.output place (.bytes ((g.textFor o.output).toUTF8.extract 0 n))
            (run f ready argv).files) ∨
        f.Fits place (g.textFor o.output) ∧ f.encodes o.output = false ∧
          (run f ready argv).result = .error .unencodable ∧
          f.Written o.output place (.ofText (g.textFor o.output)) (run f ready argv).files) := by
  unfold run at h ⊢
  cases hline : ofArguments argv with
  | error stop => cases stop <;> exact .inl rfl
  | ok line =>
    obtain ⟨verbose, command⟩ := line
    cases command with
    | serve o => exact .inl rfl
    | collect o =>
      rw [hline] at h
      rcases runCollect_cases f ready verbose o with ⟨g, _, _, hg, hends⟩ | ⟨_, _, hfiles⟩
      · dsimp only at h ⊢
        generalize (runCollect f ready verbose o).result = result at h hends ⊢
        generalize (runCollect f ready verbose o).files = f' at hends ⊢
        cases hends with
        | written => exact absurd rfl h
        | untold hopens hfits huntold hwritten =>
          exact .inr ⟨verbose, o, g, _, rfl, hg, hopens, .inr ⟨hfits, huntold, rfl, hwritten⟩⟩
        | cut hopens hroom hlong hwritten =>
          exact .inr ⟨verbose, o, g, _, rfl, hg, hopens, .inl ⟨_, hroom, hlong, rfl, hwritten⟩⟩
        | closed => exact .inl rfl
      · exact .inl hfiles

end Command

namespace Service

/-- The request for the graph of a directory. -/
def requestFor (path language : String) : Request where
  method := "POST"
  target := "/analyze"
  body := some (.table [("root_path", .string path), ("language", .string language)])

theorem answer_requestFor (f : Files) (ready : Bool) (path language : String) :
    answer f ready (requestFor path language) = sent f (analyze f ready ⟨path, language⟩) := by
  have hpath : Resource.at? (pathOf "/analyze") = some .analyze := by decide
  unfold answer fullAnswer requestFor
  rw [hpath]
  rfl

/-- The service has a graph to answer with exactly when the request is all text and the analysis
has one. -/
theorem analyze_cases (f : Files) (ready : Bool) (r : AnalyzeRequest)
    (hdir : f.isDirectory r.rootPath = true) :
    (∃ g, f.encodes r.rootPath = true ∧ f.encodes r.language = true ∧
        (Analysis.run f ready r.rootPath (some r.language) none).outcome = .ok g ∧
        analyze f ready r = { status := 200, body := some g.document }) ∨
      (¬ (f.encodes r.rootPath = true ∧ f.encodes r.language = true ∧
        ∃ g, (Analysis.run f ready r.rootPath (some r.language) none).outcome = .ok g)) ∧
        (analyze f ready r).status ≠ 200 := by
  unfold analyze
  by_cases htold : (f.encodes r.rootPath && f.encodes r.language) = true
  · obtain ⟨hpath, hlanguage⟩ := Bool.and_eq_true_iff.mp htold
    simp only [hpath, hlanguage, hdir, Bool.not_true, Bool.false_eq_true, if_false, true_and]
    cases (Analysis.run f ready r.rootPath (some r.language) none).outcome with
    | ok g => exact .inl ⟨g, rfl, rfl⟩
    | error failure =>
      refine .inr ⟨nofun, ?_⟩
      cases failure with
      | analysis a =>
        change statusOf a ≠ 200
        rcases statusOf_cases a with hstatus | hstatus <;> rw [hstatus] <;> decide
      | _ => exact nofun
  · simp only [htold, Bool.not_false, if_true]
    refine .inr ⟨?_, nofun⟩
    rintro ⟨hpath, hlanguage, _⟩
    exact htold (by rw [hpath, hlanguage]; rfl)

/-- The answer that goes out has a graph exactly when all of that graph is text as well. -/
theorem answer_cases (f : Files) (ready : Bool) (path language : String)
    (hdir : f.isDirectory path = true) :
    (∃ g, f.encodes path = true ∧ f.encodes language = true ∧
        (Analysis.run f ready path (some language) none).outcome = .ok g ∧
        (∀ text ∈ g.document.texts, f.encodes text = true) ∧
        answer f ready (requestFor path language) = { status := 200, body := some g.document }) ∨
      (¬ (f.encodes path = true ∧ f.encodes language = true ∧
        ∃ g, (Analysis.run f ready path (some language) none).outcome = .ok g ∧
          ∀ text ∈ g.document.texts, f.encodes text = true)) ∧
        (answer f ready (requestFor path language)).status ≠ 200 := by
  rw [answer_requestFor]
  rcases analyze_cases f ready ⟨path, language⟩ hdir with
    ⟨g, hpath, hlanguage, hg, hanalyze⟩ | ⟨hnot, hstatus⟩
  · rcases sent_cases f (analyze f ready ⟨path, language⟩) with
      ⟨hsent, hall⟩ | ⟨hsent, v, hv, text, htext, hstray⟩
    · rw [hsent, hanalyze]
      exact .inl ⟨g, hpath, hlanguage, hg, hall _ (by rw [hanalyze]), rfl⟩
    · rw [hanalyze] at hv
      cases hv
      rw [hsent]
      refine .inr ⟨?_, nofun⟩
      rintro ⟨_, _, g', hg', hall⟩
      cases hg.symm.trans hg'
      rw [hall text htext] at hstray
      cases hstray
  · refine .inr ⟨fun ⟨hpath, hlanguage, g, hg, _⟩ => hnot ⟨hpath, hlanguage, g, hg⟩, ?_⟩
    rcases sent_cases f (analyze f ready ⟨path, language⟩) with ⟨hsent, _⟩ | ⟨hsent, _⟩
    · rwa [hsent]
    · rw [hsent]
      exact nofun

end Service

/-! ## The law -/

namespace Analysis

theorem exists?_of_isDirectory {f : Files} {path : String} (h : f.isDirectory path = true) :
    f.exists? path = true := by
  unfold Files.isDirectory at h
  unfold Files.exists?
  cases hfind : (f.find path).toOption with
  | none =>
    rw [hfind] at h
    cases h
  | some x => rfl

theorem run_collectLine (f : Files) (ready : Bool) {path language out : String}
    (hpath : Arguments.Undashed path) (hlanguage : Arguments.Undashed language)
    (hout : Arguments.Undashed out) :
    Command.run f ready (Command.collectLine path language out) =
      Command.runCollect f ready false { path, output := out, language } := by
  unfold Command.run
  rw [Command.ofArguments_undashed hpath hlanguage hout]

theorem opens_dottedDirectories : dottedDirectories.Opens "/g.JSON" ["g.JSON"] := by
  have hpath : Files.Spells "/g.JSON" ["g.JSON"] := by decide
  have hlocate : dottedDirectories.locate true "/g.JSON" = .ok (.free [] "g.JSON") := by
    rw [hpath.locate, Files.follow_cons]
    rfl
  exact .newer hlocate rfl rfl

theorem not_opens_dottedDirectories : ¬ ∃ place, dottedDirectories.Opens "/a" place := by
  have hpath : Files.Spells "/a" ["a"] := by decide
  have hlocate : dottedDirectories.locate true "/a" = .ok (.found ["a"]) := by
    rw [hpath.locate, Files.follow_cons]
    change Files.follow dottedDirectories.root true Files.maxLinks ["a"] [] = _
    rw [Files.follow]
  rintro ⟨place, hopens⟩
  have hwritable := Files.writable_eq_ok_iff.mpr hopens
  unfold Files.writable at hwritable
  rw [hlocate] at hwritable
  cases hwritable

theorem run_dottedDirectories :
    (run dottedDirectories true "/" (some "go") none).outcome =
      .ok ((⟨"/", "/", ""⟩ : Origin).gather [⟨"/a/x.go", functionTree⟩,
        ⟨"/a.b/y.go", .mk { kind := "source_file" } []⟩]).graph := by
  have hsettings := outcome_settingsFor_bare dottedDirectories rfl rfl rfl rfl
  exact outcome_run (o := ⟨"/", "/", ""⟩) (Files.hereText_root rfl) dottedDirectories.absolute?_root
    hsettings (by decide) taken_dottedDirectories

/-- A tree without sources, on a disk that is full, with an output from before. -/
def fullDisk : Files where
  root := .directory {} [("g.yaml", .file {} (.ofText "old"))]
  room := fun _ => some 0

theorem spells_output : Files.Spells "/g.yaml" ["g.yaml"] := by decide

theorem opens_fullDisk : fullDisk.Opens "/g.yaml" ["g.yaml"] := by
  have hlocate : fullDisk.locate true "/g.yaml" = .ok (.found ["g.yaml"]) := by
    rw [spells_output.locate, Files.follow_cons]
    change Files.follow fullDisk.root true Files.maxLinks ["g.yaml"] [] = _
    rw [Files.follow]
  exact .older hlocate rfl rfl

theorem taken_fullDisk : Taken fullDisk {} ⟨"/", "/", ""⟩ [] where
  here := by rw [Files.hereText_root rfl]; rfl
  modulePath := ModulePath.detect_of_missing rfl rfl rfl
  walked := by
    have hlist : fullDisk.list "/" = .ok _ := Files.list_of_find fullDisk.find_root rfl
    have hsources : fullDisk.sources {} "/" = .ok [] := by
      unfold Files.sources
      rw [fullDisk.find_root]
      exact fullDisk.sourcesBelow_of_files hlist (by simp) (by simp)
    unfold walk
    rw [fullDisk.isDirectory_root rfl, hsources]
    rfl
  read := nofun
  readable := nofun

theorem run_fullDisk :
    (run fullDisk true "/" (some "go") none).outcome =
      .ok ((⟨"/", "/", ""⟩ : Origin).gather []).graph :=
  outcome_run (o := ⟨"/", "/", ""⟩) (Files.hereText_root rfl) fullDisk.absolute?_root
    (outcome_settingsFor_bare fullDisk rfl rfl rfl rfl) (by decide) taken_fullDisk

theorem not_fits_fullDisk {place : List String} :
    ¬ fullDisk.Fits place (((⟨"/", "/", ""⟩ : Origin).gather []).graph.textFor "/g.yaml") := by
  intro hfits
  have htext :
      0 < (((⟨"/", "/", ""⟩ : Origin).gather []).graph.textFor "/g.yaml").utf8ByteSize := by
    decide
  exact absurd (hfits 0 rfl) (Nat.not_le.mpr htext)

end Analysis

end SourceAtlas
