import AnnotatedMake.Proofs.CommandLine.Carrying
import Mathlib.Data.List.TakeWhile

namespace AnnotatedMake.CommandLine

namespace Streams

variable {streams : Streams}

/-- Streams on which everything can be printed. -/
def PrintsAll (streams : Streams) : Prop := ∀ texts, streams.taken texts = texts

/-- A stream that encodes every character prints all. -/
theorem printsAll_of_encodes (encodes : streams.output = some fun _ => true) :
    streams.PrintsAll := by
  intro texts
  have accepted : ∀ text ∈ texts, streams.accepts text = true := by
    intro text _
    simp [accepts, encodes]
  rw [taken, encodes]
  exact List.takeWhile_eq_self_iff.2 accepted

end Streams

/-- The value that a command line gives. -/
def Given.content? {α : Type} : Given α → Option α
  | .value content => some content
  | _ => none

variable [Platform]

/-- The candidates that a session under given settings offers for what is completed. -/
inductive OffersUnder (settings : Settings) (file : Given Path) (line : Given String)
    (cursor : Given Int) (words : List String) (host : Host) : List String → Prop where
  | ofSession {directory : Path} {query : Query} {candidates : List String}
      (named : settings.path host.environment "cache_dir" = .ok directory)
      (asked : queryOf line cursor words = .done query)
      (offers : (Session.within settings directory).Offers host query file.content? candidates) :
      OffersUnder settings file line cursor words host candidates

omit [Platform] in
/-- A request gives a query or fails for a blank value. -/
theorem queryOf_cases (line : Given String) (cursor : Given Int) (words : List String) :
    (∃ query, queryOf line cursor words = .done query) ∨
      queryOf line cursor words = .fail .blankValue := by
  rw [queryOf.eq_def]
  split
  · exact .inl ⟨_, rfl⟩
  · exact .inl ⟨_, rfl⟩
  · exact .inl ⟨_, rfl⟩
  · exact .inr rfl

section Complete

variable {settings : Settings} {file : Given Path} {line : Given String} {cursor : Given Int}
  {words : List String} {host : Host} {directory : Path} {query : Query}

/-- Without a directory for the cache nothing is completed. -/
theorem outcome_complete_unnamed {fault : Fault}
    (unnamed : settings.path host.environment "cache_dir" = .error fault) :
    ((complete settings file line cursor words).run host).1 = .error fault := by
  rw [complete, Program.bind_eq_bind, Program.run_bind, Session.run_ofSettings, unnamed]
  rfl

/-- A blank value ends a completion. -/
theorem outcome_complete_blank (blank : queryOf line cursor words = .fail .blankValue)
    (named : settings.path host.environment "cache_dir" = .ok directory) :
    ((complete settings file line cursor words).run host).1 = .error .blankValue := by
  rw [complete, Program.bind_eq_bind, Program.run_bind, Session.run_ofSettings, named, blank]
  rfl

/-- A completion answers with the candidates of the session under its settings. -/
theorem outcome_complete (named : settings.path host.environment "cache_dir" = .ok directory)
    (asked : queryOf line cursor words = .done query) :
    ((complete settings file line cursor words).run host).1 =
      ((candidatesFor (.within settings directory) query file).run host).1.map fun candidates =>
        { texts := candidates.map lineOf } := by
  simp only [complete, Program.bind_eq_bind, Program.pure_eq_done]
  rw [Program.run_bind, Session.run_ofSettings, named, asked]
  dsimp only [Except.map]
  rw [Program.run_bind, Program.run_done]
  dsimp only
  rw [Program.run_bind]
  generalize (candidatesFor (.within settings directory) query file).run host = run
  obtain ⟨outcome, after⟩ := run
  cases outcome <;> rfl

/-- A completion ends for a blank option, or with what the session answers its query. -/
theorem outcome_complete_options (file : Given Path) (line : Given String) (cursor : Given Int)
    (words : List String) :
    (∃ outcome : Except Fault Answer,
      (outcome = .ok {} ∨ outcome = .error .blankValue) ∧
      ∀ (settings : Settings) (host : Host) (directory : Path),
        settings.path host.environment "cache_dir" = .ok directory →
        ((complete settings file line cursor words).run host).1 = outcome) ∨
    ∃ query, queryOf line cursor words = .done query ∧
      ∀ (settings : Settings) (host : Host) (directory : Path),
        settings.path host.environment "cache_dir" = .ok directory →
        ((complete settings file line cursor words).run host).1 =
          (((Session.within settings directory).complete query file.content?).run host).1.map
            fun candidates => { texts := candidates.map lineOf } := by
  rcases queryOf_cases line cursor words with ⟨query, asked⟩ | blank
  · cases file with
    | value path | absent =>
        exact .inr ⟨query, asked, fun settings host directory named => outcome_complete named asked⟩
    | blank =>
        cases argument : query.isOnArgument with
        | false =>
            refine .inl ⟨_, .inl rfl, fun settings host directory named => ?_⟩
            rw [outcome_complete named asked, candidatesFor, argument]
            rfl
        | true =>
            refine .inl ⟨_, .inr rfl, fun settings host directory named => ?_⟩
            rw [outcome_complete named asked, candidatesFor, argument]
            rfl
  · exact .inl ⟨_, .inr rfl, fun settings host directory => outcome_complete_blank blank⟩

/-- A completion ends with nothing, with a fault that nobody reported, or with what is offered. -/
theorem outcome_complete_cases (settings : Settings) (file : Given Path) (line : Given String)
    (cursor : Given Int) (words : List String) (host : Host) :
    ((complete settings file line cursor words).run host).1 = .ok {} ∨
    (∃ fault, ((complete settings file line cursor words).run host).1 = .error fault ∧
      fault ≠ .reported) ∨
    ∃ candidates, OffersUnder settings file line cursor words host candidates ∧
      ((complete settings file line cursor words).run host).1 =
        .ok { texts := candidates.map lineOf } := by
  cases named : settings.path host.environment "cache_dir" with
  | error fault =>
      refine .inr (.inl ⟨fault, outcome_complete_unnamed named, ?_⟩)
      rcases Environment.fault_of_pathOf named with rfl | rfl <;> exact nofun
  | ok directory =>
      have noSlash (part : String) (member : part ∈ directory.parts) : '/' ∉ part.toList :=
        (Environment.parts_of_pathOf named part member).1
      rcases outcome_complete_options file line cursor words with
        ⟨outcome, nothing | blank, ends⟩ | ⟨query, asked, answers⟩
      · exact .inl ((ends settings host directory named).trans nothing)
      · exact .inr (.inl ⟨_, (ends settings host directory named).trans blank, nofun⟩)
      · rw [answers settings host directory named]
        rcases Session.outcome_complete_cases (.within settings directory) noSlash query
            file.content? host with
          none | ⟨fault, failed, unreported⟩ | ⟨candidates, offers, found⟩
        · exact .inl (by rw [none]; rfl)
        · exact .inr (.inl ⟨fault, by rw [failed]; rfl, unreported⟩)
        · exact .inr (.inr ⟨candidates, ⟨named, asked, offers⟩, by rw [found]; rfl⟩)

/-- Completions are answered alike when the sessions under their settings offer the same. -/
theorem outcome_complete_eq {other : Settings} {later : Host} {otherDirectory : Path}
    (named : settings.path host.environment "cache_dir" = .ok directory)
    (namedOther : other.path later.environment "cache_dir" = .ok otherDirectory)
    (same : ∀ query,
      (((Session.within other otherDirectory).complete query file.content?).run later).1 =
        (((Session.within settings directory).complete query file.content?).run host).1) :
    ((complete other file line cursor words).run later).1 =
      ((complete settings file line cursor words).run host).1 := by
  rcases outcome_complete_options file line cursor words with
    ⟨outcome, _, ends⟩ | ⟨query, _, answers⟩
  · rw [ends other later otherDirectory namedOther, ends settings host directory named]
  · rw [answers other later otherDirectory namedOther, answers settings host directory named,
      same query]

end Complete

/-- The candidates that a completion offers under the settings that it loads. -/
inductive Invocation.OffersLoaded (invocation : Invocation) (locations : Locations) (host : Host) :
    List String → Prop where
  | underSettings {settings : Settings} {file : Given Path} {line : Given String}
      {cursor : Given Int} {words candidates : List String} {early late : List Entry}
      (completes : invocation.command = .complete file line cursor words)
      (loaded : ((invocation.settings locations).run (host.reportAll early)).1 = .ok settings)
      (offers : CommandLine.OffersUnder settings file line cursor words (host.reportAll late)
        candidates) :
      invocation.OffersLoaded locations host candidates

omit [Platform] in
/-- The completion command is the one that asks for candidates. -/
theorem Command.isCompletion_iff {command : Command} : command.isCompletion = true ↔
    ∃ file line cursor words, command = .complete file line cursor words := by
  cases command <;> simp [isCompletion]

/-- A command reports that it is ready and then performs. -/
theorem Command.run_answer (command : Command) (settings : Settings) (host : Host) :
    ∃ ready, (command.answer settings).run host =
      (command.perform settings).run (host.report ready) := by
  obtain ⟨ready, reported⟩ := run_reportReady (some command.logger) host
  refine ⟨ready, ?_⟩
  rw [answer, Program.bind_eq_bind, Program.run_bind, reported]

/-- Each candidate is one line. -/
theorem OffersUnder.oneLine {settings : Settings} {file : Given Path} {line : Given String}
    {cursor : Given Int} {words candidates : List String} {host : Host}
    (offers : OffersUnder settings file line cursor words host candidates) :
    ∀ candidate ∈ candidates, ∀ c ∈ candidate.toList, Text.isLineBreak c = false := by
  cases offers with
  | ofSession _ _ offers => exact offers.oneLine

namespace Invocation

variable {invocation : Invocation} {locations : Locations} {host : Host}

/-- Each candidate under loaded settings is one line. -/
theorem OffersLoaded.oneLine {candidates : List String}
    (offers : invocation.OffersLoaded locations host candidates) :
    ∀ candidate ∈ candidates, ∀ c ∈ candidate.toList, Text.isLineBreak c = false := by
  cases offers with
  | underSettings _ _ offers => exact offers.oneLine

/-- An answer of success that tells nothing, or the candidates that are offered. -/
structure IsHarmless (invocation : Invocation) (locations : Locations) (host : Host)
    (answer : Answer) : Prop where
  code : answer.code = .success
  complaint : answer.complaint = []
  texts : answer.texts = [] ∨ ∃ candidates, invocation.OffersLoaded locations host candidates ∧
    answer.texts = candidates.map lineOf

/-- A fault that was not reported costs a completion its candidates and nothing else. -/
theorem isHarmless_of_fault (completes : invocation.command.isCompletion = true) {fault : Fault}
    (unreported : fault ≠ .reported) (locations : Locations) (host : Host) :
    invocation.IsHarmless locations host (invocation.command.settled (.error fault)) := by
  rw [Command.settled, if_neg unreported, Command.failure, completes, if_pos rfl]
  exact ⟨rfl, rfl, .inl rfl⟩

/-- Under its settings a completion whose log is shown ends with success and prints what it comes
to. -/
theorem outcome_of_settings {setup : Setup} (shown : invocation.IsShown setup.toStreams)
    {file : Given Path} {line : Given String} {cursor : Given Int} {words : List String}
    (command : invocation.command = .complete file line cursor words) {settings : Settings}
    (loaded : (invocation.settings setup.locations).Finds host (.ok settings)) :
    ∃ diagnostics last, (invocation.outcome setup).run host =
      (.ok ((invocation.command.delivered setup.toStreams (invocation.command.settled
        ((complete settings file line cursor words).run (host.logging [])).1)).outcome
          diagnostics), last) ∧
      (invocation.command.delivered setup.toStreams (invocation.command.settled
        ((complete settings file line cursor words).run (host.logging [])).1)).code = .success := by
  have performed : (invocation.command.perform settings).ComesTo host
      ((complete settings file line cursor words).run (host.logging [])).1 := by
    rw [command]
    exact Program.comesTo_of_keeps (keepsLogFile_complete settings file line cursor words) host
  obtain ⟨diagnostics, last, ran⟩ := outcome_of_comesTo shown (comesTo_answer loaded performed)
  refine ⟨diagnostics, last, ran, ?_⟩
  have completes : invocation.command.isCompletion = true := by rw [command]; rfl
  refine Command.code_delivered completes setup.toStreams ?_
  rcases outcome_complete_cases settings file line cursor words (host.logging []) with
    none | ⟨fault, failed, unreported⟩ | ⟨candidates, _, completed⟩
  · rw [none]
    rfl
  · rw [failed]
    exact (isHarmless_of_fault completes unreported setup.locations host).code
  · rw [completed]
    rfl

/-- A completion prints the candidates at the front that can be encoded, or nothing. -/
theorem IsHarmless.output {answer : Answer} (harmless : invocation.IsHarmless locations host answer)
    (streams : Streams) :
    (invocation.command.delivered streams answer).output = "" ∨
      ∃ candidates, invocation.OffersLoaded locations host candidates ∧
        (invocation.command.delivered streams answer).output =
          String.join (streams.taken (candidates.map lineOf)) := by
  have directed : (answer.directed streams).texts = answer.texts := by
    rw [Answer.directed]
    split
    · rfl
    · rw [harmless.complaint, List.append_nil]
  have printed : (invocation.command.delivered streams answer).output =
      String.join (streams.taken answer.texts) := by
    rw [Answer.output, Command.delivered, directed]
  rcases harmless.texts with nothing | ⟨candidates, offers, texts⟩
  · refine .inl ?_
    rw [printed, nothing, Streams.taken_nil]
    rfl
  · exact .inr ⟨candidates, offers, by rw [printed, texts]⟩

end Invocation

end AnnotatedMake.CommandLine

namespace AnnotatedMake.CommandLine.Invocation

open IndexCache

/-- A program that keeps its settings and its cache in the root directory. -/
def rootSetup : Setup :=
  { locations := { settingsFile := ⟨.root, ["settings"]⟩, cacheDirectory := ⟨.root, []⟩ } }

end AnnotatedMake.CommandLine.Invocation
