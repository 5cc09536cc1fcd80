import AnnotatedMake.Proofs.Completion.Narrowing
import AnnotatedMake.Proofs.Host.Looking
import AnnotatedMake.Proofs.IndexCache.Giving

namespace AnnotatedMake

/-- No text that an index offers goes over a line. -/
structure ScopeIndex.OffersLines (index : ScopeIndex) : Prop where
  definitions : ∀ definition ∈ index.definitions, definition.Recordable
  targets : ∀ name ∈ index.targets, ∀ c ∈ name.toList, Text.isLineBreak c = false

namespace ScopeIndex

variable {index : ScopeIndex} {marker text : String} {lines : List String}

/-- What is visible to a target is defined somewhere. -/
theorem mem_definitions_of_mem_visibleTo {target : Option String} {definition : Definition}
    (member : definition ∈ index.visibleTo target) : definition ∈ index.definitions := by
  obtain ⟨entry, kept, inScope⟩ := List.mem_flatMap.1 member
  exact List.mem_flatMap.2 ⟨entry, (List.mem_filter.1 kept).1, inScope⟩

/-- An index of lines has candidates of one line each. -/
theorem OffersLines.candidates (oneLine : index.OffersLines) {target : Option String}
    {word : String} {position : Position} (member : text ∈ index.candidates target word position) :
    ∀ c ∈ text.toList, Text.isLineBreak c = false := by
  obtain ⟨member, _⟩ := List.mem_filter.1 (mem_distinct.1 member)
  cases position with
  | target => exact oneLine.targets text member
  | parameter =>
      obtain ⟨definition, visible, inValues⟩ := List.mem_flatMap.1 member
      obtain ⟨value, isValue, rfl⟩ := List.mem_map.1 inValues
      have fit := oneLine.definitions definition (mem_definitions_of_mem_visibleTo visible)
      intro c inside
      rw [assignment, String.toList_append, String.toList_append, List.append_assoc,
        List.mem_append, List.mem_append] at inside
      rcases inside with inName | isEquals | inValue
      · exact fit.name.oneLine c inName
      · obtain rfl := List.mem_singleton.1 isEquals
        decide
      · have dark := (fit.values value isValue).word.2 c inValue
        exact Bool.eq_false_iff.2 fun ends => by simp [Text.isBlank_of_isLineBreak ends] at dark

/-- The characters of a rule's name lie between the hyphen and 'z'. -/
theorem range_of_isNameCharacter {c : Char} (isName : RuleName.isNameCharacter c = true) :
    45 ≤ c.toNat ∧ c.toNat ≤ 122 := by
  simp only [RuleName.isNameCharacter, Bool.or_eq_true, Bool.and_eq_true, decide_eq_true_eq,
    Char.le_def, UInt32.le_iff_toNat_le] at isName
  rcases isName with ((((letter | letter) | digit) | rfl) | rfl) | rfl
  · change 65 ≤ c.toNat ∧ c.toNat ≤ 90 at letter
    omega
  · change 97 ≤ c.toNat ∧ c.toNat ≤ 122 at letter
    omega
  · change 48 ≤ c.toNat ∧ c.toNat ≤ 57 at digit
    omega
  · decide
  · decide
  · decide

/-- The name of a rule holds no line break. -/
theorem oneLine_of_mem_ruleNames {name : String} (member : name ∈ RuleName.ofLines lines) :
    ∀ c ∈ name.toList, Text.isLineBreak c = false := by
  rw [RuleName.ofLines, mem_distinct] at member
  obtain ⟨line, _, opens⟩ := List.mem_filterMap.1 member
  rw [RuleName.ofLine?] at opens
  split at opens
  · split at opens
    · cases opens
    · obtain rfl := Option.some.inj opens
      intro c inside
      rw [String.toList_ofList] at inside
      have range := range_of_isNameCharacter (List.all_eq_true.1 List.all_takeWhile c inside)
      rw [Text.isLineBreak]
      simp only [Bool.or_eq_false_iff, Bool.and_eq_false_iff, decide_eq_false_iff_not,
        beq_eq_false_iff_ne]
      omega
  · cases opens

/-- The index of a source offers lines. -/
theorem isOneLine_ofSource (marker : String) (lines : List String) :
    (ofSource marker lines).OffersLines where
  definitions _ member := recordable_of_mem_definitionsOf (mem_of_mem_ofDefinitions member)
  targets _ := oneLine_of_mem_ruleNames

/-- The index of a cache text offers lines. -/
theorem isOneLine_decodeIndex (text : String) (lines : List String) :
    ((CacheRecord.decodeIndex text).withTargets (RuleName.ofLines lines)).OffersLines where
  definitions definition member := by
    have inText : definition ∈ CacheRecord.definitionsIn text := mem_of_mem_ofDefinitions member
    exact (Definition.isRecord_iff.1 (CacheRecord.isRecord_of_mem_definitionsIn inText)).1
  targets _ := oneLine_of_mem_ruleNames

end ScopeIndex

variable [Platform]

/-- An index given is empty, or comes from the Makefile or from a cache file. -/
theorem IndexCache.given_cases {cache : IndexCache} {host : Host} {source : Path}
    {index : ScopeIndex} (found : cache.given host source = .ok index) :
    index = {} ∨ (∃ lines, index = .ofSource cache.marker lines) ∨
      ∃ text lines,
        index = (CacheRecord.decodeIndex text).withTargets (RuleName.ofLines lines) := by
  rw [given] at found
  split at found
  · split at found
    · exact .inl (Except.ok.inj found).symm
    · cases found
  · split at found
    · split at found
      · cases found
      · rw [keptOr] at found
        split at found
        · cases found
        · split at found
          · exact .inr (.inr ⟨_, _, (Except.ok.inj found).symm⟩)
          · exact .inr (.inl ⟨_, (Except.ok.inj found).symm⟩)
    · exact .inr (.inl ⟨_, (Except.ok.inj found).symm⟩)

/-- Whatever a cache holds, the index that it gives has no text that goes over a line. -/
theorem IndexCache.isOneLine_given {cache : IndexCache} {host : Host} {source : Path}
    {index : ScopeIndex} (found : cache.given host source = .ok index) : index.OffersLines := by
  rcases given_cases found with rfl | ⟨lines, rfl⟩ | ⟨text, lines, rfl⟩
  · exact ⟨by simp [ScopeIndex.definitions, OrderedMap.empty], by simp⟩
  · exact ScopeIndex.isOneLine_ofSource _ _
  · exact ScopeIndex.isOneLine_decodeIndex _ _

/-- Whether a file stands at a path is told, unless the system keeps it from being told. -/
theorem Program.isSystem_of_isFile {path : Path} {host : Host} {fault : Fault}
    (failed : ((isFile path).run host).1 = .error fault) : fault.isSystem = true := by
  rw [isFile, bind_eq_bind, run_bind] at failed
  split at failed
  · cases failed
  · rename_i told
    obtain rfl := Except.error.inj failed
    exact isSystem_of_statusOf? (congrArg Prod.fst told)

namespace Session

open Program (CallsOnly IsLook Finds)

variable {session : Session} {host middle : Host} {query : Query} {file : Option Path}

omit [Platform] in
/-- Reading texts from the settings only looks. -/
theorem looks_readTexts (settings : Settings) (name : String) (fallback : List String) :
    (settings.readTexts name fallback).CallsOnly IsLook := by
  rw [Settings.readTexts]
  cases settings.listWarning? name with
  | some warning => exact CallsOnly.bind (Program.looks_report ..) fun _ => trivial
  | none => trivial

/-- Making a session only looks. -/
theorem looks_ofSettings (settings : Settings) : (ofSettings settings).CallsOnly IsLook :=
  CallsOnly.bind (Program.looks_pathOf _) fun _ => trivial

omit [Platform] in
/-- Seeking a file only looks. -/
theorem looks_firstFile? (directory : Path) (names : List String) :
    (firstFile? directory names).CallsOnly IsLook := by
  induction names with
  | nil => trivial
  | cons name rest ih =>
      refine CallsOnly.bind (Program.looks_isFile _) fun found => ?_
      split
      · trivial
      · exact ih

omit [Platform] in
/-- Seeking the source only looks. -/
theorem looks_findSource (session : Session) (directory : Option Path) :
    (session.findSource directory).CallsOnly IsLook := by
  have further (base : Path) : CallsOnly IsLook
      ((session.settings.readTexts "makefiles" Schema.defaultMakefiles).bind (firstFile? base)) :=
    (looks_readTexts ..).bind (looks_firstFile? base)
  cases directory with
  | some path => exact further path
  | none => exact CallsOnly.bind Program.looks_currentDirectory further

omit [Platform] in
/-- Seeking the source of a request only looks. -/
theorem looks_sourceFor (session : Session) (file : Option Path) :
    (session.sourceFor file).CallsOnly IsLook := by
  cases file with
  | some path => trivial
  | none =>
      refine CallsOnly.recover (CallsOnly.bind (looks_findSource ..) fun found => ?_)
        fun fault => ?_
      · cases found with
        | some path => trivial
        | none => exact CallsOnly.bind (Program.looks_report ..) fun _ => trivial
      · split
        · exact CallsOnly.bind (Program.looks_reportFault ..) fun _ => trivial
        · trivial

/-- Seeking a file fails as the system fails. -/
theorem isSystem_of_firstFile? {directory : Path} {names : List String} {fault : Fault}
    (failed : ((firstFile? directory names).run host).1 = .error fault) :
    fault.isSystem = true := by
  induction names with
  | nil => cases failed
  | cons name rest ih =>
      obtain ⟨outcome, told⟩ := Program.run_isFile (directory.child name) host
      rw [firstFile?, Program.bind_eq_bind, Program.run_bind, told] at failed
      cases outcome with
      | ok found =>
          cases found with
          | true => cases failed
          | false => exact ih failed
      | error other =>
          obtain rfl := Except.error.inj failed
          exact Program.isSystem_of_isFile (congrArg Prod.fst told)

/-- Texts are read of settings without a fault. -/
theorem run_readTexts (settings : Settings) (name : String) (fallback : List String) (host : Host) :
    ∃ entries, (settings.readTexts name fallback).run host =
      (.ok (settings.texts name fallback), host.reportAll entries) := by
  rw [Settings.readTexts]
  cases settings.listWarning? name with
  | some warning => exact ⟨[{ level := .warning, text := warning }], rfl⟩
  | none => exact ⟨[], rfl⟩

/-- The names under which a session looks for a Makefile. -/
def sourceNames (session : Session) : List String :=
  session.settings.texts "makefiles" Schema.defaultMakefiles

/-- The source is the first file of the working directory. -/
theorem run_findSource (session : Session) {base : Path} (here : host.currentDirectory = .ok base) :
    ∃ entries, (session.findSource none).run host =
      (firstFile? base session.sourceNames).run (host.reportAll entries) := by
  obtain ⟨entries, read⟩ := run_readTexts session.settings "makefiles" Schema.defaultMakefiles host
  refine ⟨entries, ?_⟩
  simp only [findSource, Program.bind_eq_bind]
  rw [Program.run_bind, Program.currentDirectory, Program.run_call, Program.run_ofReply]
  dsimp only [Host.perform]
  rw [here]
  dsimp only
  rw [Program.run_bind, read]
  rfl

/-- Without a working directory no source is sought. -/
theorem run_findSource_of_lost (session : Session) {fault : Fault}
    (lost : host.currentDirectory = .error fault) :
    (session.findSource none).run host = (.error fault, host) := by
  simp only [findSource, Program.bind_eq_bind]
  rw [Program.run_bind, Program.currentDirectory, Program.run_call, Program.run_ofReply]
  dsimp only [Host.perform]
  rw [lost]

/-- Seeking the source fails as the system fails. -/
theorem isSystem_of_findSource {fault : Fault}
    (failed : ((session.findSource none).run host).1 = .error fault) : fault.isSystem = true := by
  cases here : host.currentDirectory with
  | ok base =>
      obtain ⟨_, ran⟩ := session.run_findSource here
      rw [ran] at failed
      exact isSystem_of_firstFile? failed
  | error other =>
      rw [session.run_findSource_of_lost here] at failed
      obtain rfl := Except.error.inj failed
      rw [Host.currentDirectory] at here
      split at here
      · cases here
      · obtain rfl := Except.error.inj here
        rfl

/-- A fault of the system keeps a Makefile from being found. -/
theorem outcome_sourceFor_none (session : Session) (host : Host) :
    ((session.sourceFor none).run host).1 = .ok
      (match ((session.findSource none).run host).1 with
        | .ok source => source
        | .error _ => none) := by
  simp only [sourceFor, orNothing, Program.bind_eq_bind, Program.pure_eq_done]
  rw [Program.run_recover, Program.run_bind]
  cases found : (session.findSource none).run host with
  | mk outcome middle =>
      cases outcome with
      | ok source => cases source <;> rfl
      | error other =>
          have system := isSystem_of_findSource (congrArg Prod.fst found)
          simp only [system, Bool.true_or, if_true]
          rfl

/-- A Makefile is found or not, and nothing but reports is left. -/
theorem run_sourceFor (session : Session) (file : Option Path) (host : Host) :
    ∃ source entries,
      (session.sourceFor file).run host = (.ok source, host.reportAll entries) := by
  obtain ⟨entries, left⟩ := Program.run_of_looks (looks_sourceFor session file) host
  cases file with
  | some path => exact ⟨some path, [], rfl⟩
  | none => exact ⟨_, entries, Prod.ext (session.outcome_sourceFor_none host) left⟩

/-- What is offered once the cache was asked. -/
def offered (query : Query) : Except Fault ScopeIndex → Except Fault (List String)
  | .ok index => .ok (candidatesIn index query)
  | .error fault => if fault.isSystem || fault = .notText then .ok [] else .error fault

/-- Nothing is looked up off the argument. -/
theorem run_complete_off (off : query.isOnArgument = false) (host : Host) :
    (session.complete query file).run host = (.ok [], host) := by
  rw [complete, off]
  rfl

/-- Without a source nothing is offered. -/
theorem run_complete_none (argument : query.isOnArgument = true)
    (found : (session.sourceFor file).run host = (.ok none, middle)) :
    (session.complete query file).run host = (.ok [], middle) := by
  simp only [complete, argument, if_true, indexFor, Program.bind_eq_bind, Program.pure_eq_done]
  rw [Program.run_bind, Program.run_bind, found]
  rfl

/-- What a session offers is what its cache gives for the Makefile that it finds. -/
theorem outcome_complete (argument : query.isOnArgument = true) {path : Path}
    (found : (session.sourceFor file).run host = (.ok (some path), middle)) :
    ((session.complete query file).run host).1 =
      offered query ((session.cache.ensureFresh path none).run middle).1 := by
  simp only [complete, argument, if_true, indexFor, orNothing, Program.bind_eq_bind,
    Program.pure_eq_done]
  rw [Program.run_bind, Program.run_bind, found]
  dsimp only
  rw [Program.run_recover, Program.run_bind]
  generalize (session.cache.ensureFresh path none).run middle = run
  obtain ⟨outcome, after⟩ := run
  cases outcome with
  | ok index => rfl
  | error fault =>
      rw [offered]
      cases costs : fault.isSystem || decide (fault = .notText) with
      | true => simp only [costs, if_true]; rfl
      | false => simp only [costs, Bool.false_eq_true, if_false]; rfl

/-- The candidates of the index that the cache gives for the Makefile that is found. -/
inductive Offers (session : Session) (host : Host) (query : Query) (file : Option Path) :
    List String → Prop where
  | ofIndex {source : Path} {index : ScopeIndex} {entries : List Entry}
      (found : ((session.sourceFor file).run host).1 = .ok (some source))
      (isGiven : session.cache.given (host.reportAll entries) source = .ok index) :
      session.Offers host query file (candidatesIn index query)

/-- No candidate that is offered goes over a line. -/
theorem Offers.oneLine {candidates : List String}
    (offers : session.Offers host query file candidates) :
    ∀ text ∈ candidates, ∀ c ∈ text.toList, Text.isLineBreak c = false := by
  cases offers with
  | ofIndex _ isGiven => exact fun _ => (IndexCache.isOneLine_given isGiven).candidates

/-- A completion ends with nothing, with a fault that nobody reported, or with the candidates that
the session offers. -/
theorem outcome_complete_cases (session : Session)
    (noSlash : ∀ part ∈ session.cache.directory.parts, '/' ∉ part.toList) (query : Query)
    (file : Option Path) (host : Host) :
    ((session.complete query file).run host).1 = .ok [] ∨
    (∃ fault, ((session.complete query file).run host).1 = .error fault ∧ fault ≠ .reported) ∨
    ∃ candidates, session.Offers host query file candidates ∧
      ((session.complete query file).run host).1 = .ok candidates := by
  cases argument : query.isOnArgument with
  | false => exact .inl (congrArg Prod.fst (run_complete_off argument host))
  | true =>
      obtain ⟨source, entries, found⟩ := run_sourceFor session file host
      cases source with
      | none => exact .inl (congrArg Prod.fst (run_complete_none argument found))
      | some path =>
          have asked := session.cache.run_ensureFresh_given noSlash path (host.reportAll entries)
          rw [outcome_complete argument found]
          generalize ((session.cache.ensureFresh path none).run (host.reportAll entries)).1 = answer
            at asked ⊢
          cases answer with
          | ok index =>
              rcases asked with isGiven | ⟨_, _, failed, _⟩
              · exact .inr (.inr ⟨_, .ofIndex (congrArg Prod.fst found) isGiven.symm, rfl⟩)
              · cases failed
          | error fault =>
              have unreported : fault ≠ .reported := by
                rcases asked with isGiven | ⟨_, other, failed, obstacle, _⟩
                · exact IndexCache.ne_reported_of_given isGiven.symm
                · obtain rfl := Except.error.inj failed
                  exact obstacle.ne_reported
              rw [offered]
              split
              · exact .inl rfl
              · exact .inr (.inl ⟨fault, rfl, unreported⟩)

end Session

end AnnotatedMake
