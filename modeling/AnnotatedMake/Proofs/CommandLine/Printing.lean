import AnnotatedMake.Proofs.CommandLine.Ending

namespace AnnotatedMake

variable [Platform]

section Candidates

variable {index : ScopeIndex} {lines : List String}

omit [Platform] in
theorem RuleName.ne_empty_of_mem {name : String} (member : name ∈ ofLines lines) : name ≠ "" := by
  rw [ofLines, mem_distinct] at member
  obtain ⟨line, _, opens⟩ := List.mem_filterMap.1 member
  rw [ofLine?] at opens
  split at opens
  · split at opens
    · cases opens
    · rename_i fits
      simp only [Bool.or_eq_true, decide_eq_true_eq, not_or] at fits
      obtain rfl := Option.some.inj opens
      exact fun empty => fits.1 (String.ofList_eq_empty_iff.1 empty)
  · cases opens

omit [Platform] in
/-- An assignment holds an equals sign, so only an empty rule name could make an empty candidate. -/
theorem ScopeIndex.ne_empty_of_mem_candidates (named : ∀ name ∈ index.targets, name ≠ "")
    {target : Option String} {word text : String} {position : Position}
    (member : text ∈ index.candidates target word position) : text ≠ "" := by
  obtain ⟨member, _⟩ := List.mem_filter.1 (mem_distinct.1 member)
  cases position with
  | target => exact named text member
  | parameter =>
      obtain ⟨definition, _, inValues⟩ := List.mem_flatMap.1 member
      obtain ⟨value, _, rfl⟩ := List.mem_map.1 inValues
      intro empty
      have absent := congrArg String.toList empty
      simp [assignment] at absent

/-- The rule names that a cache gives are those of the lines of a Makefile. -/
theorem IndexCache.targets_given {cache : IndexCache} {host : Host} {source : Path}
    (found : cache.given host source = .ok index) :
    ∃ lines, index.targets = RuleName.ofLines lines := by
  rcases given_cases found with rfl | ⟨lines, rfl⟩ | ⟨_, lines, rfl⟩
  · exact ⟨[], rfl⟩
  · exact ⟨lines, rfl⟩
  · exact ⟨lines, rfl⟩

theorem Session.Offers.ne_empty {session : Session} {host : Host} {query : Query}
    {file : Option Path} {candidates : List String}
    (offers : session.Offers host query file candidates) : ∀ text ∈ candidates, text ≠ "" := by
  cases offers with
  | ofIndex _ isGiven =>
      obtain ⟨lines, targets⟩ := IndexCache.targets_given isGiven
      intro text member
      refine ScopeIndex.ne_empty_of_mem_candidates (fun name named => ?_) member
      exact RuleName.ne_empty_of_mem (targets ▸ named)

end Candidates

namespace CommandLine

omit [Platform] in
/-- Texts without a line feed are printed as the pieces between the line feeds. -/
theorem piecesOf_printed {texts : List String} (whole : ∀ text ∈ texts, '\n' ∉ text.toList) :
    piecesOf '\n' (printed texts) = texts ++ [""] := by
  induction texts with
  | nil => rfl
  | cons first rest ih =>
      have later := ih fun text member => whole text (List.mem_cons_of_mem _ member)
      have text : (printed (first :: rest)).toList =
          first.toList ++ '\n' :: (printed rest).toList := by
        simp [printed, lineOf]
      rw [piecesOf] at later ⊢
      rw [text, Text.pieces_append (whole first List.mem_cons_self), List.map_cons, later]
      simp

variable {settings : Settings} {file : Given Path} {line : Given String} {cursor : Given Int}
  {words : List String} {host opened after : Host} {session : Session} {query : Query}
  {candidates : List String}

/-- Candidates are those of the session, or there are none since the Makefile is left blank. -/
theorem candidatesFor_cases (found : (candidatesFor session query file).run host =
    (.ok candidates, after)) :
    (session.complete query file.content?).run host = (.ok candidates, after) ∨
      candidates = [] := by
  cases file with
  | value path | absent => exact .inl found
  | blank =>
      rw [candidatesFor] at found
      split at found
      · cases found
      · exact .inr (Except.ok.inj (Prod.mk.inj found).1).symm

/-- No candidate of a session under settings is empty, and none goes over a line. -/
theorem isLine_of_mem_candidates
    (set : (Session.ofSettings settings).run host = (.ok session, opened))
    (found : (candidatesFor session query file).run opened = (.ok candidates, after)) :
    ∀ text ∈ candidates, text ≠ "" ∧ ∀ c ∈ text.toList, Text.isLineBreak c = false := by
  obtain ⟨directory, named, rfl, rfl⟩ := Session.eq_within_of_set set
  have noSlash (part : String) (member : part ∈ directory.parts) : '/' ∉ part.toList :=
    (Environment.parts_of_pathOf named part member).1
  rcases candidatesFor_cases found with completed | rfl
  · rcases Session.outcome_complete_cases (.within settings directory) noSlash query
        file.content? opened with
      none | ⟨fault, failed, _⟩ | ⟨offered, offers, answered⟩
    · rw [completed] at none
      obtain rfl := Except.ok.inj none
      simp
    · rw [completed] at failed
      cases failed
    · rw [completed] at answered
      obtain rfl := Except.ok.inj answered
      exact fun text member => ⟨offers.ne_empty text member, offers.oneLine text member⟩
  · simp

/-- Cutting what is printed at its line feeds gives back the candidates. -/
theorem complete_printed (set : (Session.ofSettings settings).run host = (.ok session, opened))
    (asked : queryOf line cursor words = .done query)
    (found : (candidatesFor session query file).run opened = (.ok candidates, after)) :
    (∀ text ∈ candidates, text ≠ "" ∧ ∀ c ∈ text.toList, Text.isLineBreak c = false) ∧
    ∃ answer, (complete settings file line cursor words).run host = (.ok answer, after) ∧
      piecesOf '\n' answer.output = candidates ++ [""] := by
  have clean := isLine_of_mem_candidates set found
  refine ⟨clean, { texts := candidates.map lineOf }, ?_, piecesOf_printed ?_⟩
  · simp only [complete, Program.bind_eq_bind, Program.pure_eq_done]
    rw [Program.run_bind, set, asked]
    dsimp only
    rw [Program.run_bind, Program.run_done]
    dsimp only
    rw [Program.run_bind, found]
    rfl
  · intro text member feed
    have stays := (clean text member).2 '\n' feed
    exact absurd stays (by decide)

end CommandLine

end AnnotatedMake

namespace AnnotatedMake.CommandLine

open IndexCache

/-- The settings of a session that uses no cache. -/
def uncachedSettings : Settings where
  entries := OrderedMap.empty.insert "use_cache" (.flag false)
  schema := Schema.standard "/"

/-- A host with a Makefile that declares two values. -/
def valuesHost : Host := rootHost (bytesOf "## PARAM a: 1 2\n") 5

/-- The values of a parameter are printed, each on a line of its own. -/
theorem complete_printed_values : ∃ session opened query candidates after,
    (Session.ofSettings uncachedSettings).run valuesHost = (.ok session, opened) ∧
    queryOf .absent .absent ["make", "all", ""] = .done query ∧
    (candidatesFor session query (.value rootFile)).run opened = (.ok candidates, after) ∧
    candidates = ["a=1", "a=2"] ∧
    ∃ answer, (complete uncachedSettings (.value rootFile) .absent .absent
        ["make", "all", ""]).run valuesHost = (.ok answer, after) ∧
      piecesOf '\n' answer.output = candidates ++ [""] := by
  have place : uncachedSettings.text "cache_dir" "" = Session.rootSettings.text "cache_dir" "" := by
    decide +kernel
  have named : uncachedSettings.path .empty "cache_dir" = .ok ⟨.root, []⟩ := by
    rw [Settings.path, place]
    exact Session.path_rootSettings
  have set : (Session.ofSettings uncachedSettings).run valuesHost =
      (.ok (.within uncachedSettings ⟨.root, []⟩), valuesHost) := by
    have empty : valuesHost.environment = .empty := rfl
    rw [Session.run_ofSettings, empty, named]
    rfl
  have asked : queryOf .absent .absent ["make", "all", ""] = .done ⟨["make", "all", ""], 2⟩ := rfl
  have disabled : (Session.within uncachedSettings ⟨.root, []⟩).cache.enabled = false := by
    decide +kernel
  have marker : (Session.within uncachedSettings ⟨.root, []⟩).cache.marker = "##" := by
    decide +kernel
  have root := node?_rootHost (bytesOf "## PARAM a: 1 2\n") 5 []
  have file := node?_rootHost (bytesOf "## PARAM a: 1 2\n") 5 ["Makefile"]
  obtain ⟨_, ran⟩ := run_ensureFresh_disabled disabled (read_rootFile root file)
  have argument : (Query.mk ["make", "all", ""] 2).isOnArgument = true := by decide
  obtain ⟨_, completed⟩ := Session.run_complete argument ran
  have values : Session.candidatesIn
      (.ofSource "##" (sourceLines (bytesOf "## PARAM a: 1 2\n"))) ⟨["make", "all", ""], 2⟩ =
        ["a=1", "a=2"] := by
    decide +kernel
  rw [marker, values] at completed
  have found : (candidatesFor (.within uncachedSettings ⟨.root, []⟩) ⟨["make", "all", ""], 2⟩
      (.value rootFile)).run valuesHost = _ := completed
  exact ⟨_, _, _, _, _, set, asked, found, rfl, (complete_printed set asked found).2⟩

end AnnotatedMake.CommandLine
