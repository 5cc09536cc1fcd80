import AnnotatedMake.Proofs.Collection
import AnnotatedMake.Proofs.Setting.Loading
import AnnotatedMake.Proofs.Text.Cutting
import AnnotatedMake.Setting.Reading
import Mathlib.Data.List.Basic
import Mathlib.Data.List.TakeWhile

namespace AnnotatedMake

namespace Value

/-- What a value is read as where texts are listed: a text is a list of one. -/
inductive ReadsTexts : Value → List String → Prop where
  | text (text : String) : ReadsTexts (.text text) [text]
  | list (texts : List String) : ReadsTexts (Schema.texts texts) texts

/-- What a value is read as where a flag is set. -/
inductive ReadsFlag : Value → Bool → Prop where
  | flag (value : Bool) : ReadsFlag (.flag value) value
  | word (word : String) : ReadsFlag (.text word) (decide (flagWord word ∈ yesWords))

end Value

namespace Text

/-- Blanks have no capitals. -/
theorem toLower_of_isBlank {c : Char} (blank : isBlank c = true) : c.toLower = c := by
  have noCapital : ¬ (65 ≤ c.toNat ∧ c.toNat ≤ 90) := by
    simp only [isBlank, Bool.or_eq_true, Bool.and_eq_true, decide_eq_true_eq, beq_iff_eq] at blank
    omega
  exact dif_neg noCapital

/-- A blank text stays blank in small letters. -/
theorem trim_map_toLower {text : List Char} (none : trim text = []) :
    trim (text.map Char.toLower) = [] := by
  rw [trim_eq_nil_iff] at none ⊢
  intro c inside
  obtain ⟨original, present, rfl⟩ := List.mem_map.1 inside
  rw [toLower_of_isBlank (none original present)]
  exact none original present

end Text

/-- Of the words that a flag may be written as, those for a set flag are read as one. -/
theorem Value.toFlag_word {word : String} (fallback : Bool)
    (known : yesWords.contains (flagWord word) || noWords.contains (flagWord word)) :
    (Value.text word).toFlag fallback = decide (flagWord word ∈ yesWords) := by
  have apart : ∀ known ∈ yesWords, known ≠ "" ∧ known ∉ noWords := by decide
  simp only [List.contains_eq_mem, Bool.or_eq_true, decide_eq_true_eq] at known
  rw [toFlag]
  by_cases yes : flagWord word ∈ yesWords
  · obtain ⟨some', notNo⟩ := apart _ yes
    have notBlank : trimmed word ≠ "" := by
      intro empty
      rw [trimmed, String.ofList_eq_empty_iff] at empty
      exact some' (by rw [flagWord, Text.trim_map_toLower empty])
    simp [yes, notNo, notBlank]
  · simp [yes, known.resolve_left yes]

namespace Field

/-- The value that is set if the field accepts it, else the default. -/
def chosen (field : Field) (entries : OrderedMap String Value) : Value :=
  match entries.get? field.name with
  | some value => if field.accepts value then value else field.default
  | none => field.default

/-- What is chosen for a field is accepted by it. -/
theorem accepts_chosen {field : Field} (default : field.accepts field.default = true)
    (entries : OrderedMap String Value) : field.accepts (field.chosen entries) = true := by
  rw [chosen]
  split
  · split
    · assumption
    · exact default
  · exact default

/-- No field accepts nothing. -/
theorem accepts_null (field : Field) : field.accepts .null = false := by
  simp [accepts, Shape.accepts]

section Accepted

variable {field : Field} {value : Value}

/-- What a field for texts accepts is a text. -/
theorem text_of_accepts (shapes : field.shapes = [.text]) (accepted : field.accepts value = true) :
    ∃ text, value = .text text := by
  rw [accepts, shapes] at accepted
  cases value <;> simp [Shape.accepts] at accepted ⊢

/-- What a field for lists accepts reads as texts. -/
theorem texts_of_accepts (shapes : field.shapes = [.list, .text])
    (accepted : field.accepts value = true) : ∃ texts, value.ReadsTexts texts := by
  rw [accepts, shapes] at accepted
  cases value with
  | text text => exact ⟨[text], .text text⟩
  | list items =>
      have allTexts : ∀ item ∈ items, Value.text item.plain = item := by
        intro item member
        have isText : items.all Value.isText = true := by simpa [Shape.accepts] using accepted
        have isTextHere := List.all_eq_true.1 isText item member
        cases item with
        | text text => rfl
        | _ => cases isTextHere
      have same : Schema.texts (items.map Value.plain) = .list items := by
        rw [Schema.texts, List.map_map]
        exact congrArg Value.list ((List.map_congr_left allTexts).trans (List.map_id _))
      refine ⟨items.map Value.plain, ?_⟩
      rw [← same]
      exact .list _
  | _ => simp [Shape.accepts] at accepted

/-- What a field for flags accepts reads as a flag. -/
theorem flag_of_accepts (shapes : field.shapes = [.flag]) (accepted : field.accepts value = true)
    (fallback : Bool) : value.ReadsFlag (value.toFlag fallback) := by
  rw [accepts, shapes] at accepted
  cases value with
  | flag value => exact .flag value
  | text word =>
      rw [Value.toFlag_word fallback (by simpa [Shape.accepts] using accepted)]
      exact .word word
  | _ => simp [Shape.accepts] at accepted

end Accepted

end Field

namespace Schema

/-- Fields of different names that accept their own defaults. -/
structure IsSound (schema : Schema) : Prop where
  names : schema.names.Nodup
  defaults : ∀ field ∈ schema, field.accepts field.default = true

/-- The standard schema is sound. -/
theorem isSound_standard (cacheDirectory : String) : (standard cacheDirectory).IsSound := by
  constructor
  · simp [standard, names]
  · simp [standard, Field.accepts, Shape.accepts, texts, defaultMakefiles, defaultCommands,
      Value.isText]

section Sound

variable {schema : Schema} {field : Field}

/-- A name that occurs once picks its field. -/
theorem filter_names (once : schema.names.Nodup) (member : field ∈ schema) :
    schema.filter (fun other => other.name = field.name) = [field] := by
  induction schema with
  | nil => cases member
  | cons first rest ih =>
      obtain ⟨apart, onceRest⟩ := List.nodup_cons.1 once
      rcases List.mem_cons.1 member with rfl | later
      · have none : rest.filter (fun other => other.name = field.name) = [] := by
          rw [List.filter_eq_nil_iff]
          intro other inRest same
          exact apart (List.mem_map.2 ⟨other, inRest, of_decide_eq_true same⟩)
        rw [List.filter_cons_of_pos (by simp), none]
      · have differs : first.name ≠ field.name := fun same =>
          apart (List.mem_map.2 ⟨field, later, same.symm⟩)
        rw [List.filter_cons_of_neg (by simpa using differs), ih onceRest later]

/-- A field of a sound schema is found by its name. -/
theorem field?_of_mem (sound : schema.IsSound) (member : field ∈ schema) :
    schema.field? field.name = some field := by
  rw [field?, ← List.head?_filter, filter_names sound.names member]
  rfl

/-- So is its default. -/
theorem default?_of_mem (sound : schema.IsSound) (member : field ∈ schema) :
    schema.default? field.name = some field.default := by
  have accepted := sound.defaults field member
  rw [default?, filter_names sound.names member]
  cases default : field.default with
  | null =>
      rw [default, Field.accepts_null] at accepted
      cases accepted
  | _ => simp [default]

/-- A setting has the value that the section gives its field. -/
theorem value_of_mem (sound : schema.IsSound) (member : field ∈ schema)
    (entries : OrderedMap String Value) (fallback : Value) :
    ({ entries := schema.accepted entries, schema } : Settings).value field.name fallback =
      field.chosen entries := by
  have fits (value : Value) :
      (schema.misfit? field.name value).isNone = field.accepts value := by
    rw [misfit?, field?_of_mem sound member]
    cases fit : field.accepts value <;> simp [Option.filter, fit]
  rw [Settings.value, accepted, OrderedMap.get?_filter, default?_of_mem sound member,
    Field.chosen]
  cases entries.get? field.name with
  | none => rfl
  | some value =>
      rw [Option.filter, fits]
      cases fit : field.accepts value <;> simp [fit]

end Sound

/-- What is reported about a key whose value its field does not accept. -/
def complaint? (schema : Schema) (entries : OrderedMap String Value) (key : String) :
    Option String :=
  match schema.field? key, entries.get? key with
  | some field, some value =>
    if field.accepts value then none else some (shapeError field key value)
  | _, _ => none

/-- The complaints about a section go by its keys. -/
theorem shapeErrors_eq (schema : Schema) (entries : OrderedMap String Value) :
    schema.shapeErrors entries = entries.keys.filterMap (schema.complaint? entries) := by
  rw [shapeErrors, OrderedMap.keys, List.filterMap_map]
  apply List.filterMap_congr
  intro entry member
  have held := OrderedMap.get?_eq_some_iff.2 member
  rw [Function.comp_apply, complaint?, held, misfit?]
  cases schema.field? entry.1 with
  | none => rfl
  | some field => cases fit : field.accepts entry.2 <;> simp [Option.filter, fit]

/-- The warnings about a section go by its unknown keys. -/
theorem unknownWarnings_eq (schema : Schema) (entries : OrderedMap String Value) :
    schema.unknownWarnings entries =
      (entries.keys.filter fun key => key ∉ schema.names).map schema.unknownWarning := by
  simp [unknownWarnings]

/-- A key keeps its value unless there is a complaint about it. -/
theorem get?_accepted (schema : Schema) (entries : OrderedMap String Value) (key : String) :
    (schema.accepted entries).get? key =
      if (schema.complaint? entries key).isSome then none else entries.get? key := by
  rw [accepted, OrderedMap.get?_filter, complaint?]
  cases entries.get? key with
  | none => cases schema.field? key <;> rfl
  | some value =>
      cases known : schema.field? key with
      | none => simp [misfit?, known]
      | some field => cases fit : field.accepts value <;> simp [misfit?, known, Option.filter, fit]

end Schema

namespace Settings

variable {settings : Settings} {name : String} {value : Value}

/-- A setting that holds a text is read as that text. -/
theorem text_of_value {text : String} (held : settings.value name .null = .text text)
    (fallback : String) : settings.text name fallback = text := by
  rw [Settings.text, held]
  rfl

variable [Platform]

/-- Texts that are listed, or one alone, are read without a warning. -/
theorem run_readTexts_of_value (held : settings.value name .null = value) {texts : List String}
    (reads : value.ReadsTexts texts) (fallback : List String) (host : Host) :
    (settings.readTexts name fallback).run host = (.ok texts, host) := by
  have quiet : settings.listWarning? name = none := by
    rw [listWarning?, held]
    cases reads <;> rfl
  have told : settings.texts name fallback = texts := by
    rw [Settings.texts, held]
    cases reads with
    | text text => rfl
    | list texts => simp [Schema.texts, Function.comp_def, Value.plain]
  rw [readTexts, quiet, told]
  rfl

/-- Settings that answer for each setting of the program with the value that a section gives it, and
report nothing. -/
structure Answers (settings : Settings) (schema : Schema) (entries : OrderedMap String Value) :
    Prop where
  text : ∀ name ∈ ["marker", "cache_dir"], ∀ fallback, ∃ field, schema.field? name = some field ∧
    field.chosen entries = .text (settings.text name fallback)
  texts : ∀ name ∈ ["makefiles", "commands"], ∀ fallback, ∃ field texts,
    schema.field? name = some field ∧ (field.chosen entries).ReadsTexts texts ∧
    ∀ host, (settings.readTexts name fallback).run host = (.ok texts, host)
  flag : ∀ fallback, ∃ field, schema.field? "use_cache" = some field ∧
    (field.chosen entries).ReadsFlag (settings.flag "use_cache" fallback)

/-- Settings of a section answer as the schema says. -/
theorem answers_ofEntries (locations : Locations) (entries : OrderedMap String Value) :
    (ofEntries locations entries).Answers (standard locations).schema entries := by
  have sound := Schema.isSound_standard locations.cacheDirectory.text
  have value {field : Field} (member : field ∈ (standard locations).schema) :
      (ofEntries locations entries).value field.name .null = field.chosen entries :=
    Schema.value_of_mem sound member entries .null
  have accepts {field : Field} (member : field ∈ (standard locations).schema) :
      field.accepts (field.chosen entries) = true :=
    Field.accepts_chosen (sound.defaults field member) entries
  have found {field : Field} (member : field ∈ (standard locations).schema) :
      (standard locations).schema.field? field.name = some field :=
    Schema.field?_of_mem sound member
  constructor
  · intro name known fallback
    obtain ⟨field, member, rfl, shapes⟩ : ∃ field ∈ (standard locations).schema,
        field.name = name ∧ field.shapes = [.text] := by
      simp only [List.mem_cons, List.not_mem_nil, or_false] at known
      rcases known with rfl | rfl
      · exact ⟨_, .head _, rfl, rfl⟩
      · exact ⟨_, .tail _ (.head _), rfl, rfl⟩
    obtain ⟨text, chosen⟩ := Field.text_of_accepts shapes (accepts member)
    have held := (value member).trans chosen
    exact ⟨field, found member, by rw [text_of_value held fallback, chosen]⟩
  · intro name known fallback
    obtain ⟨field, member, rfl, shapes⟩ : ∃ field ∈ (standard locations).schema,
        field.name = name ∧ field.shapes = [.list, .text] := by
      simp only [List.mem_cons, List.not_mem_nil, or_false] at known
      rcases known with rfl | rfl
      · exact ⟨_, .tail _ (.tail _ (.head _)), rfl, rfl⟩
      · exact ⟨_, .tail _ (.tail _ (.tail _ (.head _))), rfl, rfl⟩
    obtain ⟨texts, reads⟩ := Field.texts_of_accepts shapes (accepts member)
    exact ⟨field, texts, found member, reads, run_readTexts_of_value (value member) reads fallback⟩
  · intro fallback
    obtain ⟨field, member, named, shapes⟩ : ∃ field ∈ (standard locations).schema,
        field.name = "use_cache" ∧ field.shapes = [.flag] :=
      ⟨_, .tail _ (.tail _ (.tail _ (.tail _ (.head _)))), rfl, rfl⟩
    have reads := Field.flag_of_accepts shapes (accepts member) fallback
    rw [← named, flag, value member]
    exact ⟨field, found member, reads⟩

/-- Reports of one level are made one behind the other. -/
theorem run_reports (level : Level) (texts : List String) (host : Host) :
    (Program.forEach (Program.report level) texts).run host =
      (.ok (), host.reportAll (texts.map fun text => { level, text })) := by
  induction texts generalizing host with
  | nil => rfl
  | cons text rest ih =>
      rw [Program.forEach, Program.run_bind, Program.run_report]
      exact ih _

/-- A section is checked with reports alone. -/
theorem run_ofSection (locations : Locations) (entries : OrderedMap String Value) (host : Host) :
    (ofSection locations entries).run host = (.ok (ofEntries locations entries), host.reportAll
      (((standard locations).schema.unknownWarnings entries).map (fun text =>
          { level := .warning, text }) ++
        ((standard locations).schema.shapeErrors entries).map fun text =>
          { level := .error, text })) := by
  simp only [ofSection, Program.bind_eq_bind, Program.pure_eq_done]
  rw [Program.run_bind, run_reports]
  dsimp only
  rw [Program.run_bind, run_reports, ← Host.reportAll_append]
  rfl

section Table

variable {locations : Locations} {name : String} {host : Host} {path : Path}
  {document : Toml.Members} {entries : OrderedMap String Value}

/-- A document that can be read is opened. -/
theorem run_openDocument_of_read (read : (readDocument path).run host = (.ok document, host)) :
    (openDocument path).run host = (.ok document, host) := by
  rw [openDocument, Program.run_recover, read]

/-- A section that is a table is given. -/
theorem run_sectionIn_of_table (table : entriesOf document = .ok entries) :
    (sectionIn path document).run host = (.ok entries, host) := by
  rw [entriesOf] at table
  rw [sectionIn]
  cases found : Toml.member? document sectionName with
  | none =>
      rw [found] at table
      obtain rfl := Except.ok.inj table
      rfl
  | some value =>
      rw [found] at table
      cases value with
      | table members =>
          obtain rfl := Except.ok.inj table
          rfl
      | _ => cases table

/-- What is reported before a settings file is read. -/
def loading (path : Path) : Entry := { level := .debug, text := "Loading " ++ path.text }

/-- A settings file is loaded with its values read as their fields are meant, and every misfit is
reported once. -/
theorem load_answers
    (named : (fileNamed locations name).run host = (.ok path, host))
    (there : (Program.isThere path).run host = (.ok true, host))
    (read : (readDocument path).run (host.report (loading path)) =
      (.ok document, host.report (loading path)))
    (table : entriesOf document = .ok entries) :
    let schema := Schema.standard locations.cacheDirectory.text
    ∃ settings,
      (load locations name).run host = (.ok settings, host.reportAll (loading path ::
        (entries.keys.filter fun key => key ∉ schema.names).map (fun key =>
          { level := .warning, text := schema.unknownWarning key }) ++
        (entries.keys.filterMap (schema.complaint? entries)).map fun text =>
          { level := .error, text })) ∧
      settings.Answers schema entries ∧
      ∀ key, settings.entries.get? key =
        if (schema.complaint? entries key).isSome then none else entries.get? key := by
  have began : (Program.debug ("Loading " ++ path.text)).run host =
      (.ok (), host.report (loading path)) := rfl
  refine ⟨ofEntries locations entries, ?_, answers_ofEntries locations entries,
    Schema.get?_accepted _ entries⟩
  simp only [load, Program.bind_eq_bind, Program.pure_eq_done]
  rw [Program.run_bind, named]
  dsimp only
  rw [Program.run_bind, there]
  dsimp only
  rw [if_pos rfl, Program.run_bind, began]
  dsimp only
  rw [Program.run_bind, run_openDocument_of_read read]
  dsimp only
  rw [Program.run_bind, run_sectionIn_of_table table]
  dsimp only
  rw [run_ofSection, Schema.unknownWarnings_eq, Schema.shapeErrors_eq, List.map_map]
  rfl

end Table

section Configured

/-- Where a settings file in the root directory is looked for. -/
def rootLocations : Locations where
  settingsFile := ⟨.root, ["settings"]⟩
  cacheDirectory := ⟨.root, []⟩

/-- A section that passes a test was read from a document. -/
theorem exists_entries_of_any {content : Bytes} {test : OrderedMap String Value → Bool}
    (passes : ((documentIn content).bind entriesOf).toOption.any test = true) :
    ∃ document entries, documentIn content = .ok document ∧ entriesOf document = .ok entries ∧
      test entries = true := by
  cases found : documentIn content with
  | error fault =>
      rw [found] at passes
      cases passes
  | ok document =>
      cases table : entriesOf document with
      | error fault =>
          rw [found, Except.bind, table] at passes
          cases passes
      | ok entries =>
          rw [found, Except.bind, table] at passes
          exact ⟨document, entries, rfl, table, passes⟩

end Configured

end Settings

end AnnotatedMake

namespace AnnotatedMake.Settings

/-- A settings file with an unknown key and a value that is no flag. -/
def misfitText : String :=
  "[makecomp]\nmarker = \"#!\"\nmakefiles = \"Makefile\"\nuse_cache = 1\nmarkr = 2\n"

/-- A host with nothing but this settings file in its root directory. -/
def misfitHost : Host where
  files := FileSystem.empty.put ["settings"] (.file (bytesOf misfitText) 5)

/-- The unknown key is warned about, and the value that is no flag is rejected. -/
theorem load_answers_misfit : ∃ settings entries,
    entries.keys = ["marker", "makefiles", "use_cache", "markr"] ∧
    (load rootLocations "").run misfitHost = (.ok settings, misfitHost.reportAll [
      loading ⟨.root, ["settings"]⟩,
      { level := .warning, text := (Schema.standard "/").unknownWarning "markr" },
      { level := .error
        text := "Config error for 'use_cache' (Persist parsed annotations between completions): " ++
          "expected bool, got int, using the default" }]) ∧
    settings.Answers (Schema.standard "/") entries := by
  have root : misfitHost.files.node? [] = some (.directory 0) := by
    rw [misfitHost, FileSystem.node?_put, if_neg (by simp), FileSystem.node?_empty, if_pos rfl]
  have file : misfitHost.files.node? ["settings"] = some (.file (bytesOf misfitText) 5) :=
    FileSystem.node?_put_self ..
  have plain : IsPlainName "settings" := ⟨⟨⟨by decide, by decide⟩, by decide⟩, by decide⟩
  have there : (Program.isThere ⟨.root, ["settings"]⟩).run misfitHost = _ :=
    run_isThere (nodeAt_of_root root plain (by decide) file)
  have content := (Host.ends_of_root root plain (by decide)).read file
  obtain ⟨document, entries, found, table, passes⟩ : ∃ document entries,
      documentIn (bytesOf misfitText) = .ok document ∧ entriesOf document = .ok entries ∧
      (decide (entries.keys = ["marker", "makefiles", "use_cache", "markr"]) &&
        decide (entries.keys.filterMap ((Schema.standard "/").complaint? entries) =
          ["Config error for 'use_cache' (Persist parsed annotations between completions): " ++
            "expected bool, got int, using the default"])) = true :=
    exists_entries_of_any (by decide +kernel)
  obtain ⟨named, complained⟩ := Bool.and_eq_true_iff.1 passes
  have keys := of_decide_eq_true named
  have complaints := of_decide_eq_true complained
  have reported : (misfitHost.report (loading ⟨.root, ["settings"]⟩)).query
      ⟨.root, ["settings"]⟩ (.error Fault.isDirectory)
      (misfitHost.report (loading ⟨.root, ["settings"]⟩)).files.read =
        .ok (bytesOf misfitText) := content
  have read : (readDocument ⟨.root, ["settings"]⟩).run
      (misfitHost.report (loading ⟨.root, ["settings"]⟩)) =
        (.ok document, misfitHost.report (loading ⟨.root, ["settings"]⟩)) := by
    rw [run_readDocument, reported, Except.bind, found]
  have usual : (fileNamed rootLocations "").run misfitHost =
      (.ok ⟨.root, ["settings"]⟩, misfitHost) := rfl
  obtain ⟨settings, ran, answers, _⟩ := load_answers usual there read table
  have schema : Schema.standard rootLocations.cacheDirectory.text = Schema.standard "/" := rfl
  have unknown : (["marker", "makefiles", "use_cache", "markr"].filter fun key =>
      key ∉ (Schema.standard "/").names) = ["markr"] := by decide
  rw [schema, complaints, keys, unknown] at ran
  exact ⟨settings, entries, keys, ran, answers⟩

end AnnotatedMake.Settings
