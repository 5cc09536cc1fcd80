import AnnotatedMake.Proofs.Host.Seeing

namespace AnnotatedMake

namespace FileSystem

variable {files other : FileSystem} {links : Nat} {place : Location} {names : List String}

/-- The places that a walk to a target comes by, those of links and of missing nodes among them. -/
def visited (files : FileSystem) (links : Nat) (place : Location) (names : List String) :
    List Location :=
  match names with
  | [] => [place]
  | name :: rest =>
    match files.node? place with
    | some (.directory _) =>
      if isHere name then visited files links place rest
      else if name = ".." then place :: visited files links place.dropLast rest
      else if isLongName name then [place]
      else match files.node? (place ++ [name]) with
        | none => [place, place ++ [name]]
        | some (.link target) =>
          match links with
          | 0 => [place, place ++ [name]]
          | left + 1 =>
            place :: (place ++ [name]) ::
              visited files left (linkStart place target) (linkNames target ++ rest)
        | some _ => place :: visited files links (place ++ [name]) rest
    | _ => [place]
termination_by (links, names.length)

/-- A walk visits the place it starts from. -/
theorem mem_visited_start (files : FileSystem) (links : Nat) (place : Location)
    (names : List String) : place ∈ files.visited links place names := by
  fun_induction files.visited links place names with
  | case2 _ _ _ _ _ _ _ ih => exact ih
  | _ => exact List.mem_cons_self ..

/-- A name that is no link is looked up where it stands. -/
theorem visited_name {name : String} {time : Int}
    (isDirectory : files.node? place = some (.directory time)) (entry : IsEntryName name)
    (short : isLongName name = false)
    (notLink : ∀ target, files.node? (place ++ [name]) ≠ some (.link target)) :
    files.visited links place [name] = [place, place ++ [name]] := by
  rw [visited, isDirectory]
  dsimp only
  rw [if_neg (by rw [entry.notHere]; decide), if_neg entry.notUp, if_neg (by rw [short]; decide)]
  cases present : files.node? (place ++ [name]) with
  | none => rfl
  | some node =>
      cases node with
      | link target => exact absurd present (notLink target)
      | directory | file | sink => rw [visited]

/-- Trees that agree on the places that a walk comes by are walked alike. -/
theorem walk_congr (agree : ∀ visit ∈ files.visited links place names,
      other.node? visit = files.node? visit) :
    other.walk .target links place names = files.walk .target links place names := by
  have start := agree place (mem_visited_start ..)
  fun_induction files.visited links place names with
  | case1 links place => rw [walk, walk, start]
  | case2 links place name rest time isDirectory here ih =>
      rw [walk, walk, start, isDirectory]
      simpa only [here, if_true] using ih agree start
  | case3 links place rest time isDirectory here ih =>
      have later := fun visit member => agree visit (List.mem_cons_of_mem _ member)
      rw [walk, walk, start, isDirectory]
      simpa only [here, if_true, if_false, Bool.false_eq_true]
        using ih later (later _ (mem_visited_start ..))
  | case4 links place name rest time isDirectory here up long =>
      rw [walk, walk, start, isDirectory]
      simp only [here, up, long, if_true, if_false, Bool.false_eq_true]
  | case5 links place name rest time isDirectory here up short nothing =>
      have missing := agree (place ++ [name]) (by simp)
      rw [walk, walk, start, isDirectory, missing, nothing]
      simp only [here, up, short, if_false, Bool.false_eq_true]
  | case6 place name rest time isDirectory here up short target isLink =>
      have link := agree (place ++ [name]) (by simp)
      rw [walk, walk, start, isDirectory, link, isLink]
      simp only [here, up, short, if_false, Bool.false_eq_true]
  | case7 place name rest time isDirectory here up short target isLink left ih =>
      have link := agree (place ++ [name]) (by simp)
      have later := fun visit member =>
        agree visit (List.mem_cons_of_mem _ (List.mem_cons_of_mem _ member))
      rw [walk, walk, start, isDirectory, link, isLink]
      simp only [here, up, short, reduceCtorEq, decide_false, Bool.and_false, if_false,
        Bool.false_eq_true, ih later (later _ (mem_visited_start ..))]
  | case8 links place name rest time isDirectory here up short node notLink present ih =>
      have later := fun visit member => agree visit (List.mem_cons_of_mem _ member)
      have entry := later _ (mem_visited_start ..)
      rw [walk, walk, start, isDirectory, entry, present]
      cases node with
      | link target => exact (notLink target rfl).elim
      | directory | file | sink =>
          simp only [here, up, short, reduceCtorEq, if_false, Bool.false_eq_true, ih later entry]
  | case9 links place name rest noDirectory =>
      rw [walk, walk, start]
      cases present : files.node? place with
      | none => rfl
      | some node =>
          cases node with
          | directory time => exact (noDirectory time present).elim
          | file | link | sink => rfl

end FileSystem

namespace Host

variable {host other : Host} {home : Location} {path : Path}

/-- Two hosts with one current directory and one environment whose files differ at most at a place
and below it. -/
structure AgreesOutside (home : Location) (host other : Host) : Prop where
  directory : other.directory = host.directory
  environment : other.environment = host.environment
  outside : ∀ place, ¬ home <+: place → other.files.node? place = host.files.node? place

/-- A path neither leads to a place or below it nor comes by there on its way. -/
def Avoids (host : Host) (home : Location) (path : Path) : Prop :=
  ∀ start names, host.route path = .ok (.along start names) →
    ∀ place ∈ host.files.visited FileSystem.linkAllowance start names, ¬ home <+: place

/-- What differs below a place is not noticed by a path that does not come by there. -/
theorem AgreesOutside.seesAlike (agree : AgreesOutside home host other)
    (avoids : host.Avoids home path) : host.SeesAlike other path where
  directory := agree.directory
  lookUp start names along := FileSystem.walk_congr fun place visit =>
    agree.outside place (avoids start names along place visit)

/-- A name in the root directory that is no link leads nowhere else. -/
theorem avoids_of_root {name : String} {time : Int}
    (root : host.files.node? [] = some (.directory time)) (plain : IsPlainName name)
    (short : FileSystem.isLongName name = false)
    (notLink : ∀ target, host.files.node? [name] ≠ some (.link target))
    (apart : ¬ home <+: [name]) : host.Avoids home ⟨.root, [name]⟩ := by
  intro start names along
  obtain ⟨rfl, rfl⟩ := Route.along.inj (Except.ok.inj
    ((host.route_of_root plain short).symm.trans along))
  have entry := plain.toIsEntryName
  rw [FileSystem.visited_name root entry short notLink]
  intro place visit below
  rcases List.mem_cons.1 visit with rfl | last
  · exact apart (below.trans List.nil_prefix)
  · rw [List.mem_singleton.1 last] at below
    exact apart below

end Host

namespace Program

variable [Platform]

variable {α β : Type} {host other : Host} {path : Path}

/-- A program only looks, two hosts answer all its calls alike, and what it returns has a
property. -/
def LooksAlike (host other : Host) (returns : α → Prop) : Program α → Prop
  | done result => returns result
  | fail _ => True
  | call request next => IsLook request ∧
    (other.perform request).1 = (host.perform request).1 ∧
    LooksAlike host other returns (next (host.perform request).1)

section Compose

variable {returns : α → Prop} {program : Program α}

/-- Less may be said of what is returned. -/
theorem LooksAlike.mono {more : α → Prop} (first : program.LooksAlike host other returns)
    (implies : ∀ result, returns result → more result) : program.LooksAlike host other more := by
  induction program with
  | done result => exact implies result first
  | fail fault => trivial
  | call request next ih => exact ⟨first.1, first.2.1, ih _ first.2.2⟩

/-- A program and what comes next look alike in turn. -/
theorem LooksAlike.bind {next : α → Program β} {returnsThen : β → Prop}
    (first : program.LooksAlike host other returns)
    (second : ∀ result, returns result → (next result).LooksAlike host other returnsThen) :
    (program.bind next).LooksAlike host other returnsThen := by
  induction program with
  | done result => exact second result first
  | fail fault => trivial
  | call request continue' ih => exact ⟨first.1, first.2.1, ih _ first.2.2⟩

/-- A handler that looks alike after every fault may be added. -/
theorem LooksAlike.recover {handle : Fault → Program α}
    (first : program.LooksAlike host other returns)
    (second : ∀ fault, (handle fault).LooksAlike host other returns) :
    (program.recover handle).LooksAlike host other returns := by
  induction program with
  | done result => exact first
  | fail fault => exact second fault
  | call request continue' ih => exact ⟨first.1, first.2.1, ih _ first.2.2⟩

/-- A reply that is there already asks nothing. -/
theorem looksAlike_ofReply {reply : Except Fault α}
    (returned : ∀ result, reply = .ok result → returns result) :
    (ofReply reply).LooksAlike host other returns := by
  cases reply with
  | ok result => exact returned result rfl
  | error fault => trivial

/-- A look is answered alike wherever the log stands, and leaves the host to the log. -/
theorem perform_of_isLook {request : Call} (look : IsLook request) (host : Host)
    (entries : List Entry) :
    ∃ news, (host.logging entries).perform request =
      ((host.perform request).1, host.logging (entries ++ news)) := by
  cases request with
  | report entry => exact ⟨[entry], rfl⟩
  | read | inspect | list | resolve | currentDirectory | environment =>
      exact ⟨[], by rw [List.append_nil]; rfl⟩
  | _ => exact look.elim

/-- What a program returns on a host is what it comes to there. -/
theorem LooksAlike.comesTo (alike : program.LooksAlike host other returns) :
    program.LooksAlike host other fun result =>
      returns result ∧ program.ComesTo host (.ok result) := by
  induction program with
  | done result => exact ⟨alike, fun _ => rfl⟩
  | fail fault => trivial
  | call request next ih =>
      obtain ⟨look, same, later⟩ := alike
      refine ⟨look, same, ?_⟩
      refine (ih _ later).mono fun result came => ⟨came.1, fun entries => ?_⟩
      obtain ⟨news, answered⟩ := perform_of_isLook look host entries
      rw [run_call, answered]
      exact came.2 (entries ++ news)

/-- A program that looks alike on two hosts comes to the same on both and changes neither. -/
theorem LooksAlike.run_collecting (alike : program.LooksAlike host other returns)
    (entries : List Entry) :
    ∃ outcome, (collecting entries program).run host = (.ok outcome, host) ∧
      (collecting entries program).run other = (.ok outcome, other) := by
  induction program generalizing entries with
  | done result => exact ⟨_, rfl, rfl⟩
  | fail fault => exact ⟨_, rfl, rfl⟩
  | call request next ih =>
      obtain ⟨look, same, later⟩ := alike
      cases request with
      | report entry => exact ih () later (entries ++ [entry])
      | read | inspect | list | resolve | currentDirectory | environment =>
          obtain ⟨outcome, ran, ranToo⟩ := ih _ later entries
          refine ⟨outcome, ran, ?_⟩
          rw [← same] at ranToo
          exact ranToo
      | _ => exact look.elim

end Compose

theorem looksAlike_report (level : Level) (text : String) :
    (report level text).LooksAlike host other fun _ => True := ⟨trivial, rfl, trivial⟩

theorem looksAlike_reportFault (level : Level) (text : String) (fault : Fault) :
    (reportFault level text fault).LooksAlike host other fun _ => True := ⟨trivial, rfl, trivial⟩

/-- Actions that each look alike do so in turn. -/
theorem looksAlike_forEach {action : β → Program Unit}
    (each : ∀ element, (action element).LooksAlike host other fun _ => True) (list : List β) :
    (forEach action list).LooksAlike host other fun _ => True := by
  induction list with
  | nil => trivial
  | cons element rest ih => exact (each element).bind fun _ _ => ih

/-- Reading a file looks at what its path shows. -/
theorem looksAlike_contentOf (alike : host.SeesAlike other path) :
    (contentOf path).LooksAlike host other fun _ => True :=
  ⟨trivial, alike.read _, looksAlike_ofReply fun _ _ => trivial⟩

/-- Asking for a status looks at what the path shows. -/
theorem looksAlike_statusOf? (alike : host.SeesAlike other path) :
    (statusOf? path).LooksAlike host other fun _ => True := by
  have asked : (inspect path).LooksAlike host other fun _ => True :=
    ⟨trivial, congrArg (Except.map Host.statusOf) (alike.nodeAt _),
      looksAlike_ofReply fun _ _ => trivial⟩
  refine LooksAlike.recover (asked.bind fun _ _ => trivial) fun fault => ?_
  split <;> trivial

/-- Asking for a file looks at what the path shows. -/
theorem looksAlike_isFile (alike : host.SeesAlike other path) :
    (isFile path).LooksAlike host other fun _ => True :=
  (looksAlike_statusOf? alike).bind fun _ _ => trivial

/-- Asking whether a path is there looks at what it shows. -/
theorem looksAlike_isThere (alike : host.SeesAlike other path) :
    (isThere path).LooksAlike host other fun _ => True :=
  (looksAlike_statusOf? alike).bind fun _ _ => trivial

/-- The working directory is the same on both hosts. -/
theorem looksAlike_currentDirectory (same : other.directory = host.directory) :
    currentDirectory.LooksAlike host other fun base => host.currentDirectory = .ok base := by
  refine ⟨trivial, ?_, looksAlike_ofReply fun _ told => told⟩
  simp only [Host.perform, Host.currentDirectory, same]

/-- A text names a path by the environment alone. -/
theorem looksAlike_pathOf (text : String) (same : other.environment = host.environment) :
    (pathOf text).LooksAlike host other fun path => host.environment.pathOf text = .ok path :=
  ⟨trivial, same, looksAlike_ofReply fun _ told => told⟩

end Program

end AnnotatedMake
