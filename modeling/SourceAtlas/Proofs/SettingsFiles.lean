-- Which settings count when a tree keeps some. The first file that says anything decides alone:
-- it is refused as a whole, or its keys take the place of the defaults, and no file after it is
-- looked at. What a file says is told here by the table that its keys lead to.
import Mathlib.Data.Set.List
import SourceAtlas.Proofs.EscapingFailures
import SourceAtlas.Proofs.JsonText

namespace SourceAtlas

/-! ## Checks and the fields that they find at fault -/

/-- The step into a field of that name comes first on the way to the issue. -/
def Issue.Names (i : Issue) (name : String) : Prop := i.loc.head? = some (.field name)

namespace Checked

variable {α β : Type}

/-- A check comes out well and with `P` when no field is at fault; else its issues name exactly
the fields that are. -/
inductive Tells (P : α → Prop) (atFault : String → Prop) : Checked α → Prop where
  | ok {a : α} : P a → (∀ name, ¬ atFault name) → Tells P atFault (.ok a)
  | bad {issues : List Issue} : (∃ name, atFault name) →
    (∀ name, (∃ i ∈ issues, i.Names name) ↔ atFault name) → Tells P atFault (.bad issues)

theorem Tells.map {P : α → Prop} {Q : β → Prop} {atFault : String → Prop} {c : Checked α}
    (h : c.Tells P atFault) {g : α → β} (hg : ∀ a, P a → Q (g a)) : (g <$> c).Tells Q atFault := by
  cases h with
  | ok ha hnone => exact .ok (hg _ ha) hnone
  | bad hsome hnames => exact .bad hsome hnames

/-- The faults of two checks add up. -/
theorem Tells.seq {P : α → Prop} {Q : β → Prop} {atFault atFault' : String → Prop}
    {g : Checked (α → β)} {c : Checked α} (hg : g.Tells (fun g => ∀ a, P a → Q (g a)) atFault)
    (hc : c.Tells P atFault') : (g <*> c).Tells Q fun name => atFault name ∨ atFault' name := by
  cases hg with
  | ok hq hnone =>
    cases hc with
    | ok hp hnone' => exact .ok (hq _ hp) fun name => not_or.mpr ⟨hnone name, hnone' name⟩
    | bad hsome' hnames' =>
      refine .bad (hsome'.imp fun _ => .inr) fun name => ?_
      simp [hnames', hnone]
  | bad hsome hnames =>
    cases hc with
    | ok hp hnone' =>
      refine .bad (hsome.imp fun _ => .inl) fun name => ?_
      simp [hnames, hnone']
    | bad hsome' hnames' =>
      refine .bad (hsome.imp fun _ => .inl) fun name => ?_
      simp [← hnames, ← hnames', or_and_right, exists_or]

theorem Tells.congr {P : α → Prop} {atFault atFault' : String → Prop} {c : Checked α}
    (h : c.Tells P atFault) (hsame : ∀ name, atFault name ↔ atFault' name) :
    c.Tells P atFault' := by
  have : atFault = atFault' := funext fun name => propext (hsame name)
  exact this ▸ h

end Checked

namespace Check

variable {α : Type}

/-- The check takes exactly the values that `write` makes, each for what it was made from. -/
structure Inverts (check : Check α) (write : α → Value) : Prop where
  ok : ∀ a, check (write a) = .ok a
  bad : ∀ v, (∀ a, v ≠ write a) → ∃ i issues, check v = .bad (i :: issues)

theorem inverts_string : Inverts Check.string Value.string := by
  refine ⟨fun _ => rfl, ?_⟩
  intro v hv
  cases v with
  | string s => exact absurd rfl (hv s)
  | _ => exact ⟨_, _, rfl⟩

/-- The items of a list are refused as soon as one of them is. -/
theorem items_bad {check : Check α} {write : α → Value} (h : Inverts check write) (n : Nat)
    {vs : List Value} (hvs : ∃ v ∈ vs, ∀ a, v ≠ write a) :
    ∃ i issues, items check n vs = .bad (i :: issues) := by
  induction vs generalizing n with
  | nil => simp at hvs
  | cons v vs ih =>
    rw [items]
    by_cases hv : ∃ a, v = write a
    · obtain ⟨a, rfl⟩ := hv
      have hrest : ∃ w ∈ vs, ∀ a, w ≠ write a := by
        obtain ⟨w, hw, hnone⟩ := hvs
        rcases List.mem_cons.mp hw with rfl | hw
        · exact absurd rfl (hnone a)
        · exact ⟨w, hw, hnone⟩
      obtain ⟨i, issues, hbad⟩ := ih (n + 1) hrest
      rw [h.ok, hbad]
      exact ⟨_, _, rfl⟩
    · obtain ⟨i, issues, hbad⟩ := h.bad v fun a ha => hv ⟨a, ha⟩
      rw [hbad]
      cases items check (n + 1) vs <;> exact ⟨_, _, rfl⟩

theorem inverts_list {check : Check α} {write : α → Value} (h : Inverts check write) :
    Inverts (list check) fun as => .list (as.map write) := by
  refine ⟨fun as => items_ok h.ok 0 as, ?_⟩
  intro v hv
  cases v with
  | list vs =>
    apply items_bad h
    by_contra hall
    have hwritten : vs ∈ Set.range (List.map write) := by
      rw [Set.range_list_map]
      intro w hw
      by_contra hnone
      exact hall ⟨w, hw, fun a ha => hnone ⟨a, ha.symm⟩⟩
    obtain ⟨as, rfl⟩ := hwritten
    exact hv as rfl
  | _ => exact ⟨_, _, rfl⟩

/-- A field was taken over, or it is not there and the default stands. -/
def Taken (fields : List (String × Value)) (name : String) (write : α → Value) (default a : α) :
    Prop :=
  Value.lookup fields name = some (write a) ∨ Value.lookup fields name = none ∧ a = default

theorem Inverts.injective {check : Check α} {write : α → Value} (h : Inverts check write) :
    Function.Injective write := by
  intro a b hab
  have hsame := h.ok a
  rw [hab, h.ok] at hsame
  cases hsame
  rfl

/-- Only one thing can have been taken over. -/
theorem Taken.unique {fields : List (String × Value)} {name : String} {check : Check α}
    {write : α → Value} {default a b : α} (h : Inverts check write)
    (ha : Taken fields name write default a) (hb : Taken fields name write default b) : a = b := by
  rcases ha with ha | ⟨ha, rfl⟩
  · rcases hb with hb | ⟨hb, _⟩
    · exact h.injective (Option.some.inj (ha.symm.trans hb))
    · cases ha.symm.trans hb
  · rcases hb with hb | ⟨_, rfl⟩
    · cases ha.symm.trans hb
    · rfl

theorem tells_optional {check : Check α} {write : α → Value} (h : Inverts check write)
    (fields : List (String × Value)) (name : String) (default : α) :
    (optional fields name default check).Tells (Taken fields name write default) fun other =>
      other = name ∧ ∃ v, Value.lookup fields name = some v ∧ ∀ a, v ≠ write a := by
  unfold optional
  cases hlookup : Value.lookup fields name with
  | none =>
    refine .ok (.inr ⟨hlookup, rfl⟩) ?_
    simp
  | some v =>
    by_cases hv : ∃ a, v = write a
    · obtain ⟨a, rfl⟩ := hv
      dsimp only
      rw [h.ok]
      refine .ok (.inl hlookup) ?_
      rintro other ⟨_, v, hv, hnone⟩
      cases hv
      exact hnone a rfl
    · have hnone : ∀ a, v ≠ write a := fun a ha => hv ⟨a, ha⟩
      obtain ⟨i, issues, hbad⟩ := h.bad v hnone
      dsimp only
      rw [hbad]
      refine .bad ⟨name, rfl, v, rfl, hnone⟩ ?_
      intro other
      simp [Issue.Names, hnone, eq_comm]

theorem exists_lookup_iff {fields : List (String × Value)} {name : String} :
    (∃ v, Value.lookup fields name = some v) ↔ ∃ v, (name, v) ∈ fields := by
  unfold Value.lookup
  rw [← Option.isSome_iff_exists, Option.isSome_map, List.find?_isSome]
  constructor
  · rintro ⟨⟨other, v⟩, hmem, hname⟩
    cases eq_of_beq hname
    exact ⟨v, List.mem_reverse.mp hmem⟩
  · rintro ⟨v, hmem⟩
    exact ⟨(name, v), List.mem_reverse.mpr hmem, beq_self_eq_true name⟩

theorem tells_onlyKnown (fields : List (String × Value)) (known : List String) :
    (onlyKnown fields known).Tells (fun _ => True) fun name =>
      name ∉ known ∧ ∃ v, Value.lookup fields name = some v := by
  simp only [exists_lookup_iff]
  have hextra : ∀ name, (∃ e ∈ fields.filter fun f => !known.contains f.1, e.1 = name) ↔
      name ∉ known ∧ ∃ v, (name, v) ∈ fields := by
    intro name
    simp [and_comm]
  unfold onlyKnown
  cases hextras : fields.filter fun f => !known.contains f.1 with
  | nil =>
    refine .ok trivial ?_
    intro name
    rw [← hextra, hextras]
    simp
  | cons e extras =>
    rw [hextras] at hextra
    refine .bad ⟨e.1, (hextra e.1).mp ⟨e, List.mem_cons_self, rfl⟩⟩ ?_
    intro name
    rw [← hextra]
    simp [Issue.Names]

end Check

/-! ## Settings in a table -/

namespace Settings

open Check

/-- The settings that are texts. -/
def textNames : List String := ["language", "source_suffix", "test_suffix", "module_descriptor"]

/-- What is wrong with a field of a table: it is no setting, or its value is not of the kind that
the setting has. -/
inductive Flawed (fields : List (String × Value)) : String → Prop where
  | unknown {name : String} {v : Value} : name ∉ fieldNames →
    Value.lookup fields name = some v → Flawed fields name
  | noText {name : String} {v : Value} : name ∈ textNames →
    Value.lookup fields name = some v → (∀ s, v ≠ .string s) → Flawed fields name
  | noNames {v : Value} : Value.lookup fields "excluded_dirs" = some v →
    (∀ names : List String, v ≠ .list (names.map .string)) → Flawed fields "excluded_dirs"

/-- The settings are the defaults, but for those that the table gives. -/
structure Overrides (fields : List (String × Value)) (s : Settings) : Prop where
  language : Taken fields "language" .string ({} : Settings).language s.language
  excludedDirs : Taken fields "excluded_dirs" (fun names => .list (names.map .string))
    ({} : Settings).excludedDirs s.excludedDirs
  sourceSuffix : Taken fields "source_suffix" .string ({} : Settings).sourceSuffix s.sourceSuffix
  testSuffix : Taken fields "test_suffix" .string ({} : Settings).testSuffix s.testSuffix
  moduleDescriptor : Taken fields "module_descriptor" .string ({} : Settings).moduleDescriptor
    s.moduleDescriptor

/-- A table overrides the defaults in one way only. -/
theorem Overrides.unique {fields : List (String × Value)} {s t : Settings} (hs : Overrides fields s)
    (ht : Overrides fields t) : s = t := by
  obtain ⟨language, dirs, source, test, descriptor⟩ := s
  obtain ⟨language', dirs', source', test', descriptor'⟩ := t
  cases hs.language.unique inverts_string ht.language
  cases hs.excludedDirs.unique (inverts_list inverts_string) ht.excludedDirs
  cases hs.sourceSuffix.unique inverts_string ht.sourceSuffix
  cases hs.testSuffix.unique inverts_string ht.testSuffix
  cases hs.moduleDescriptor.unique inverts_string ht.moduleDescriptor
  rfl

/-- A table is taken over as it is, or every flawed field of it is named. -/
theorem tells_ofFields (fields : List (String × Value)) :
    (ofFields fields).Tells (Overrides fields) (Flawed fields) := by
  have hdirs := tells_optional (inverts_list inverts_string) fields "excluded_dirs"
    ({} : Settings).excludedDirs
  have htext := tells_optional inverts_string fields
  unfold ofFields
  refine .congr (.seq (.map (P := Overrides fields) (.seq (.seq (.seq (.seq
    (.map (htext "language" _) ?_) hdirs) (htext "source_suffix" _)) (htext "test_suffix" _))
    (htext "module_descriptor" _)) ?_) (tells_onlyKnown fields fieldNames)) ?_
  · intro language hlanguage dirs hdirs source hsource test htest descriptor hdescriptor
    exact ⟨hlanguage, hdirs, hsource, htest, hdescriptor⟩
  · intro s hs _ _
    exact hs
  · intro name
    constructor
    · rintro (((((⟨rfl, v, hv, hnone⟩ | ⟨rfl, v, hv, hnone⟩) | ⟨rfl, v, hv, hnone⟩) |
        ⟨rfl, v, hv, hnone⟩) | ⟨rfl, v, hv, hnone⟩) | ⟨hunknown, v, hv⟩)
      · exact .noText (by decide) hv hnone
      · exact .noNames hv hnone
      · exact .noText (by decide) hv hnone
      · exact .noText (by decide) hv hnone
      · exact .noText (by decide) hv hnone
      · exact .unknown hunknown hv
    · intro h
      cases h with
      | unknown hunknown hv => exact .inr ⟨hunknown, _, hv⟩
      | noNames hv hnone => exact .inl (.inl (.inl (.inl (.inr ⟨rfl, _, hv, hnone⟩))))
      | noText hname hv hnone =>
        simp only [textNames, List.mem_cons, List.not_mem_nil, or_false] at hname
        rcases hname with rfl | rfl | rfl | rfl
        · exact .inl (.inl (.inl (.inl (.inl ⟨rfl, _, hv, hnone⟩))))
        · exact .inl (.inl (.inl (.inr ⟨rfl, _, hv, hnone⟩)))
        · exact .inl (.inl (.inr ⟨rfl, _, hv, hnone⟩))
        · exact .inl (.inr ⟨rfl, _, hv, hnone⟩)

end Settings

/-! ## The way to the table -/

namespace Configuration

/-- The keys lead from table to table, and `last` is the one at the end. -/
inductive Leads : List (String × Value) → List String → List (String × Value) → Prop where
  | here {fields : List (String × Value)} : Leads fields [] fields
  | into {fields inner last : List (String × Value)} {key : String} {keys : List String} :
    Value.lookup fields key = some (.table inner) → Leads inner keys last →
    Leads fields (key :: keys) last

/-- The keys lead from table to table up to one that holds something else. -/
inductive Meets : List (String × Value) → List String → String → Prop where
  | here {fields : List (String × Value)} {key : String} {keys : List String} {v : Value} :
    Value.lookup fields key = some v → (∀ inner, v ≠ .table inner) → Meets fields (key :: keys) key
  | into {fields inner : List (String × Value)} {key stray : String} {keys : List String} :
    Value.lookup fields key = some (.table inner) → Meets inner keys stray →
    Meets fields (key :: keys) stray

section

variable {fields last : List (String × Value)} {keys : List String}

theorem descend_empty (keys : List String) : descend [] keys = .ok [] := by
  induction keys with
  | nil => rfl
  | cons key keys ih => exact ih

theorem Leads.descend (h : Leads fields keys last) : descend fields keys = .ok last := by
  induction h with
  | here => rfl
  | into hlookup _ ih =>
    unfold Configuration.descend
    rw [hlookup]
    exact ih

theorem Leads.unique {last' : List (String × Value)} (h : Leads fields keys last)
    (h' : Leads fields keys last') : last = last' :=
  Except.ok.inj (h.descend.symm.trans h'.descend)

theorem Meets.descend {key : String} (h : Meets fields keys key) :
    descend fields keys = .error (.notTable key) := by
  induction h with
  | here hlookup hnone =>
    unfold Configuration.descend
    rw [hlookup]
    rename_i v
    cases v with
    | table inner => exact absurd rfl (hnone inner)
    | _ => rfl
  | into hlookup _ ih =>
    unfold Configuration.descend
    rw [hlookup]
    exact ih

/-- The keys meet something other than a table, or lead to a table with fields, or come to
nothing. -/
theorem descend_cases (fields : List (String × Value)) (keys : List String) :
    (∃ key, Meets fields keys key) ∨ (∃ last, Leads fields keys last ∧ last ≠ []) ∨
      descend fields keys = .ok [] := by
  induction keys generalizing fields with
  | nil =>
    cases fields with
    | nil => exact .inr (.inr rfl)
    | cons e es => exact .inr (.inl ⟨_, .here, by simp⟩)
  | cons key keys ih =>
    cases hlookup : Value.lookup fields key with
    | none =>
      refine .inr (.inr ?_)
      rw [descend, hlookup]
      exact descend_empty keys
    | some v =>
      by_cases htable : ∃ inner, v = .table inner
      · obtain ⟨inner, rfl⟩ := htable
        rcases ih inner with ⟨stray, hmeets⟩ | ⟨last, hleads, hne⟩ | hnothing
        · exact .inl ⟨stray, .into hlookup hmeets⟩
        · exact .inr (.inl ⟨last, .into hlookup hleads, hne⟩)
        · refine .inr (.inr ?_)
          rw [descend, hlookup]
          exact hnothing
      · exact .inl ⟨key, .here hlookup fun inner hinner => htable ⟨inner, hinner⟩⟩

end

/-! ## What a file decides -/

/-- The file is there, can be read, and is a document. -/
def Holds (f : Files) (file : String) (document : List (String × Value)) : Prop :=
  f.isFile file = .ok true ∧ ∃ content text, f.read file = .ok content ∧
    content.text? = some text ∧ Toml.read text = .ok document

/-- The file holds a document in which the keys meet something other than a table, or lead to a
table with fields. -/
def Decides (f : Files) (file : String) (keys : List String) : Prop :=
  ∃ document, Holds f file document ∧
    ((∃ key, Meets document keys key) ∨ ∃ fields, Leads document keys fields ∧ fields ≠ [])

/-- What a document comes to: it is refused for what its keys meet or for the flawed fields of its
table, or the table overrides the defaults. -/
inductive Verdict (file : String) (keys : List String) (document : List (String × Value)) :
    Except Failure Settings → Prop where
  | stray {key : String} : Meets document keys key →
    Verdict file keys document (.error (.analysis (.badSettings file (.notTable key))))
  | flawed {fields : List (String × Value)} {issues : List Issue} :
    Leads document keys fields → fields ≠ [] → (∃ name, Settings.Flawed fields name) →
    (∀ name, (∃ i ∈ issues, i.Names name) ↔ Settings.Flawed fields name) →
    Verdict file keys document (.error (.analysis (.badSettings file (.issues issues))))
  | settled {fields : List (String × Value)} {s : Settings} :
    Leads document keys fields → fields ≠ [] → (∀ name, ¬ Settings.Flawed fields name) →
    Settings.Overrides fields s → Verdict file keys document (.ok s)

variable {f g : Files} {root file : String} {keys : List String}

/-- A file stops all work, is passed over, or decides. -/
theorem jams_or_passed_or_decides (f : Files) (file : String) (keys : List String) :
    (∃ e, Jams f file e) ∨ Passed f file keys ∨ Decides f file keys := by
  cases hask : f.isFile file with
  | error fault =>
    obtain ⟨cause, hfind, hcause, _⟩ := Files.isFile_error_iff.mp hask
    exact .inl ⟨_, .unasked hfind hcause⟩
  | ok there =>
    cases there with
    | false => exact .inr (.inl (.absent hask))
    | true =>
      cases hread : f.read file with
      | error fault => exact .inr (.inl (.unreadable hask hread))
      | ok content =>
        cases htext : content.text? with
        | none => exact .inl ⟨_, .noText hread htext⟩
        | some text =>
          cases hdocument : Toml.read text with
          | error flaw =>
            cases flaw with
            | malformed => exact .inr (.inl (.noDocument hread htext hdocument))
            | oversized => exact .inl ⟨_, .longNumber hread htext hdocument⟩
          | ok document =>
            have hholds : Holds f file document := ⟨hask, content, text, hread, htext, hdocument⟩
            rcases descend_cases document keys with hmeets | hleads | hnothing
            · exact .inr (.inr ⟨document, hholds, .inl hmeets⟩)
            · exact .inr (.inr ⟨document, hholds, .inr hleads⟩)
            · exact .inr (.inl (.nothingKept hread htext hdocument hnothing))

theorem Holds.unique {document document' : List (String × Value)} (h : Holds f file document)
    (h' : Holds f file document') : document = document' := by
  obtain ⟨_, content, text, hread, htext, hdocument⟩ := h
  obtain ⟨_, content', text', hread', htext', hdocument'⟩ := h'
  cases hread.symm.trans hread'
  cases htext.symm.trans htext'
  exact Except.ok.inj (hdocument.symm.trans hdocument')

theorem Holds.readPlace {document : List (String × Value)} (h : Holds f file document) :
    readPlace f file keys = .ok (ofDocument keys document) := by
  obtain ⟨_, content, text, hread, htext, hdocument⟩ := h
  rw [readPlace_of_text hread htext, ofText, hdocument]

/-- Where a file decides, the search ends with its verdict. -/
theorem Holds.verdict {place : Place} {rest : List Place} {document : List (String × Value)}
    (h : Holds f (place.file root) document)
    (htold : (∃ key, Meets document place.keys key) ∨
      ∃ fields, Leads document place.keys fields ∧ fields ≠ []) :
    Verdict (place.file root) place.keys document (search f root (place :: rest)).outcome := by
  rw [outcome_search_cons, h.readPlace, ofDocument]
  rcases htold with ⟨key, hmeets⟩ | ⟨fields, hleads, hne⟩
  · rw [hmeets.descend]
    exact .stray hmeets
  · rw [hleads.descend]
    cases fields with
    | nil => exact absurd rfl hne
    | cons field fields =>
      dsimp only
      have htells := Settings.tells_ofFields (field :: fields)
      cases hchecked : Settings.ofFields (field :: fields) with
      | ok s =>
        rw [hchecked] at htells
        cases htells with
        | ok hs hnone => exact .settled hleads hne hnone hs
      | bad issues =>
        rw [hchecked] at htells
        cases htells with
        | bad hsome hnames => exact .flawed hleads hne hsome hnames

/-- Files that are passed over leave all to those after them. -/
theorem outcome_search_of_passed {before rest : List Place}
    (h : ∀ p ∈ before, Passed f (p.file root) p.keys) :
    (search f root (before ++ rest)).outcome = (search f root rest).outcome := by
  induction before with
  | nil => rfl
  | cons place before ih =>
    obtain ⟨hplace, hbefore⟩ := List.forall_mem_cons.mp h
    obtain ⟨skipped, hsilent⟩ := readPlace_silent_iff.mpr hplace
    rw [List.cons_append, outcome_search_cons, hsilent]
    exact ih hbefore

theorem readPlace_congr (hask : g.isFile file = f.isFile file) (hread : g.read file = f.read file) :
    readPlace g file keys = readPlace f file keys := by
  unfold readPlace
  rw [hask, hread]

theorem Decides.not_silent (h : Decides f file keys) :
    ∃ reading, readPlace f file keys = .ok reading ∧ ∀ skipped, reading ≠ .silent skipped := by
  obtain ⟨document, hholds, htold⟩ := h
  refine ⟨_, hholds.readPlace, ?_⟩
  intro skipped hsilent
  have hnothing := ofDocument_silent_iff.mp ⟨skipped, hsilent⟩
  rcases htold with ⟨key, hmeets⟩ | ⟨fields, hleads, hne⟩
  · rw [hmeets.descend] at hnothing
    cases hnothing
  · rw [hleads.descend] at hnothing
    cases hnothing
    exact hne rfl

/-- Only a silent file lets the search go on. -/
theorem settle_of_not_silent {reading : Reading} (h : ∀ skipped, reading ≠ .silent skipped)
    (left left' : Traced Settings) :
    settle file left (.ok reading) = settle file left' (.ok reading) := by
  cases reading with
  | silent skipped => exact absurd rfl (h skipped)
  | refused flaw => rfl
  | settled s => rfl

/-- Once a file has decided, no file after it is looked at. -/
theorem search_of_decides {before after : List Place} {place : Place}
    (hdecides : Decides f (place.file root) place.keys)
    (hsame : ∀ p ∈ before ++ [place], g.isFile (p.file root) = f.isFile (p.file root) ∧
      g.read (p.file root) = f.read (p.file root)) :
    search g root (before ++ place :: after) = search f root (before ++ place :: after) := by
  induction before with
  | nil =>
    obtain ⟨hask, hread⟩ := hsame place List.mem_cons_self
    obtain ⟨reading, hreading, hnone⟩ := hdecides.not_silent
    rw [List.nil_append, search, search, readPlace_congr hask hread, hreading]
    exact settle_of_not_silent hnone _ _
  | cons p before ih =>
    obtain ⟨⟨hask, hread⟩, hbefore⟩ := List.forall_mem_cons.mp hsame
    rw [List.cons_append, search, search, readPlace_congr hask hread, ih hbefore]

/-! ## The law -/

/-- The first file that decides, with none before it that stops all work, gives the verdict, and
whatever stands in the files after it, the whole outcome and the log are the same. If no file
decides or stops all work, the defaults count. -/
theorem one_settings_file_decides_alone (f : Files) (root : String) :
    (∀ before place after, places = before ++ place :: after →
      (∀ p ∈ before, ¬ Decides f (p.file root) p.keys ∧ ∀ e, ¬ Jams f (p.file root) e) →
      Decides f (place.file root) place.keys →
        (∃ document, Holds f (place.file root) document ∧
          Verdict (place.file root) place.keys document (load f root).outcome) ∧
        ∀ g : Files, (∀ p ∈ before ++ [place], g.isFile (p.file root) = f.isFile (p.file root) ∧
          g.read (p.file root) = f.read (p.file root)) → load g root = load f root) ∧
    ((∀ p ∈ places, ¬ Decides f (p.file root) p.keys ∧ ∀ e, ¬ Jams f (p.file root) e) →
      (load f root).outcome = .ok {}) := by
  have hpassed : ∀ p : Place, ¬ Decides f (p.file root) p.keys ∧ (∀ e, ¬ Jams f (p.file root) e) →
      Passed f (p.file root) p.keys := by
    rintro p ⟨hdecides, hjams⟩
    rcases jams_or_passed_or_decides f (p.file root) p.keys with ⟨e, he⟩ | hpassed | hd
    · exact absurd he (hjams e)
    · exact hpassed
    · exact absurd hd hdecides
  constructor
  · intro before place after hplaces hbefore hdecides
    unfold load
    rw [hplaces]
    refine ⟨?_, fun g hsame => search_of_decides hdecides hsame⟩
    obtain ⟨document, hholds, htold⟩ := hdecides
    rw [outcome_search_of_passed fun p hp => hpassed p (hbefore p hp)]
    exact ⟨document, hholds, hholds.verdict htold⟩
  · intro hnone
    have hall : (search f root (places ++ [])).outcome = (search f root []).outcome :=
      outcome_search_of_passed fun p hp => hpassed p (hnone p hp)
    rw [List.append_nil] at hall
    exact hall

/-- The document is one table with one text in it. -/
def isOneText (table key text : String) : Except Toml.Refusal Toml.Fields → Bool
  | .ok [(table', .table [(key', .string text')])] => table' == table && key' == key && text' == text
  | _ => false

theorem eq_of_isOneText {table key text : String} {r : Except Toml.Refusal Toml.Fields}
    (h : isOneText table key text r = true) : r = .ok [(table, .table [(key, .string text)])] := by
  unfold isOneText at h
  split at h
  · simp only [Bool.and_eq_true, beq_iff_eq] at h
    obtain ⟨⟨rfl, rfl⟩, rfl⟩ := h
    rfl
  · cases h

/-- A tree whose two settings files say different things. -/
def twoSettingsFiles : Files where
  root := .directory {}
    [(".archgraph.toml", .file {} (.ofText "[archgraph]\ntest_suffix = \"_gen.go\"\n")),
     ("pyproject.toml", .file {} (.ofText "[tool.archgraph]\nsource_suffix = \".x\"\n"))]

/-- The first file sets the suffix of tests, and the suffix of sources keeps its default though
the second file gives another. -/
theorem the_second_settings_file_is_not_mixed_in :
    (load twoSettingsFiles "/").outcome = .ok { testSuffix := "_gen.go" } := by
  have hfile : Place.file "/" ⟨".archgraph.toml", ["archgraph"]⟩ = "/.archgraph.toml" := by
    decide
  have hread : twoSettingsFiles.read "/.archgraph.toml" =
      .ok (.ofText "[archgraph]\ntest_suffix = \"_gen.go\"\n") := by
    have hpath : Files.Spells "/.archgraph.toml" [".archgraph.toml"] := by decide
    exact twoSettingsFiles.read_child hpath rfl rfl rfl rfl
  have hdocument : Toml.read "[archgraph]\ntest_suffix = \"_gen.go\"\n" =
      .ok [("archgraph", .table [("test_suffix", .string "_gen.go")])] :=
    eq_of_isOneText (by decide +kernel)
  have hholds : Holds twoSettingsFiles (Place.file "/" ⟨".archgraph.toml", ["archgraph"]⟩)
      [("archgraph", .table [("test_suffix", .string "_gen.go")])] := by
    rw [hfile]
    exact ⟨Files.isFile_of_read hread, _, _, hread, Content.text?_ofText _, hdocument⟩
  have hleads : Leads [("archgraph", .table [("test_suffix", .string "_gen.go")])] ["archgraph"]
      [("test_suffix", .string "_gen.go")] := .into rfl .here
  obtain ⟨hfirst, _⟩ := one_settings_file_decides_alone twoSettingsFiles "/"
  obtain ⟨⟨document, hholds', hverdict⟩, _⟩ := hfirst [] ⟨".archgraph.toml", ["archgraph"]⟩ _ rfl
    (by simp) ⟨_, hholds, .inr ⟨_, hleads, by simp⟩⟩
  cases hholds.unique hholds'
  have htells := Settings.tells_ofFields [("test_suffix", .string "_gen.go")]
  have hchecked : Settings.ofFields [("test_suffix", .string "_gen.go")] =
      .ok { testSuffix := "_gen.go" } := rfl
  rw [hchecked] at htells
  cases htells with
  | ok hoverrides hsound =>
    generalize (load twoSettingsFiles "/").outcome = outcome at hverdict ⊢
    cases hverdict with
    | stray hmeets => cases hleads.descend.symm.trans hmeets.descend
    | flawed hleads' _ hflawed _ =>
      cases hleads.unique hleads'
      exact absurd hflawed (not_exists.mpr hsound)
    | settled hleads' _ _ hs =>
      cases hleads.unique hleads'
      exact congrArg Except.ok (hs.unique hoverrides)

end Configuration

end SourceAtlas
