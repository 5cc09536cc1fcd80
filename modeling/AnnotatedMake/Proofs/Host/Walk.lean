import AnnotatedMake.Host.FileSystem

namespace AnnotatedMake

/-- A name that a walk looks up in a directory. -/
structure IsEntryName (name : String) : Prop where
  notHere : FileSystem.isHere name = false
  notUp : name ≠ ".."

theorem IsEntryName.ne_empty {name : String} (entry : IsEntryName name) : name ≠ "" := by
  rintro rfl
  exact absurd entry.notHere (by decide)

/-- Nodes of one kind, with one target if they are links; a file may take the place of a sink. -/
inductive Node.Kin : Node → Node → Prop where
  | directory (before after : Int) : Kin (.directory before) (.directory after)
  | file (old new : Bytes) (before after : Int) : Kin (.file old before) (.file new after)
  | link (target : String) : Kin (.link target) (.link target)
  | sink : Kin .sink .sink
  | filled (content : Bytes) (changed : Int) : Kin .sink (.file content changed)

theorem Node.Kin.refl (node : Node) : node.Kin node := by
  cases node <;> constructor

theorem Node.Kin.trans {first second third : Node} (before : first.Kin second)
    (after : second.Kin third) : first.Kin third := by
  cases before <;> cases after <;> constructor

theorem Node.Kin.notLink {first second : Node} (kin : first.Kin second)
    (notLink : ∀ target, first ≠ .link target) (target : String) : second ≠ .link target := by
  cases kin with
  | link same => exact absurd rfl (notLink same)
  | directory | file | sink | filled => simp

/-- A node that a way goes on behind: a directory, or a link elsewhere. -/
def Node.IsWay : Node → Prop
  | .directory _ => True
  | .link _ => True
  | _ => False

namespace FileSystem

variable {files : FileSystem} {purpose : Purpose} {links : Nat} {place : Location}
  {names : List String} {name : String}

/-- The links still allowed and the place reached behind names, each in a directory. -/
def pass (files : FileSystem) (links : Nat) (place : Location) (names : List String) :
    Except Nat (Nat × Location) :=
  match names with
  | [] => .ok (links, place)
  | name :: rest =>
    match files.node? place with
    | some (.directory _) =>
      if isHere name then pass files links place rest
      else if name = ".." then pass files links place.dropLast rest
      else if isLongName name then .error Fault.nameTooLong
      else match files.node? (place ++ [name]) with
        | none => .error Fault.notFound
        | some (.link target) =>
          match links with
          | 0 => .error Fault.tooManyLinks
          | left + 1 => pass files left (linkStart place target) (linkNames target ++ rest)
        | some _ => pass files links (place ++ [name]) rest
    | some _ => .error Fault.notDirectory
    | none => .error Fault.notFound
termination_by (links, names.length)

/-- A walk to a last name passes the names before it. -/
theorem walk_concat (entry : IsEntryName name) :
    files.walk purpose links place (names ++ [name]) =
      match files.pass links place names with
      | .error number => .error number
      | .ok (left, directory) => files.walk purpose left directory [name] := by
  have onward (rest : List String) : rest ++ [name] ≠ [""] := by
    intro bare
    have last := congrArg List.getLast? bare
    simp only [List.getLast?_append, List.getLast?_singleton, Option.some_or,
      Option.some.injEq] at last
    exact entry.ne_empty last
  induction links, place, names using pass.induct files with
  | case1 links place => simp [pass]
  | case2 links place first rest time isDirectory here ih =>
      rw [List.cons_append, walk, pass]
      simp only [isDirectory, here, if_true, ih]
  | case3 links place rest time isDirectory here ih =>
      rw [List.cons_append, walk, pass]
      simp only [isDirectory, here, if_true, if_false, Bool.false_eq_true, ih]
  | case4 links place first rest time isDirectory here up long =>
      rw [List.cons_append, walk, pass]
      simp [isDirectory, here, up, long, onward]
  | case5 links place first rest time isDirectory here up short absent =>
      rw [List.cons_append, walk, pass]
      simp [isDirectory, here, up, short, absent, onward]
  | case6 place first rest time isDirectory here up short target isLink =>
      rw [List.cons_append, walk, pass]
      simp [isDirectory, here, up, short, isLink, onward]
  | case7 place first rest time isDirectory here up short target isLink left ih =>
      rw [List.cons_append, walk, pass]
      simp [isDirectory, here, up, short, isLink, onward, ← ih]
  | case8 links place first rest time isDirectory here up short node other present ih =>
      rw [List.cons_append, walk, pass]
      cases node with
      | link target => exact absurd rfl (other target)
      | directory | file | sink =>
          simp [isDirectory, here, up, short, present, onward, ← ih]
  | case9 links place first rest node other present =>
      rw [List.cons_append, walk, pass]
      cases node with
      | directory time => exact absurd rfl (other time)
      | link | file | sink => simp only [present]
  | case10 links place first rest absent =>
      rw [List.cons_append, walk, pass]
      simp only [absent]

/-- A walk finds what stands at the place it passes to. -/
theorem walk_target_eq_found_iff {other : Location} {node : Node} :
    files.walk .target links place names = .ok (.found other node) ↔
      (∃ left, files.pass links place names = .ok (left, other)) ∧
        files.node? other = some node := by
  induction links, place, names using pass.induct files with
  | case1 links place =>
      rw [walk, pass]
      cases present : files.node? place with
      | none =>
          simp only [reduceCtorEq, Except.ok.injEq, Prod.mk.injEq, exists_eq_left', false_iff,
            not_and]
          rintro ⟨_, _, rfl⟩
          simp [present]
      | some found =>
          simp only [Except.ok.injEq, Destination.found.injEq, Prod.mk.injEq]
          constructor
          · rintro ⟨rfl, rfl⟩
            exact ⟨⟨links, rfl, rfl⟩, present⟩
          · rintro ⟨⟨_, _, rfl⟩, same⟩
            exact ⟨rfl, Option.some.inj (present.symm.trans same)⟩
  | case2 links place first rest time isDirectory here ih =>
      rw [walk, pass]
      simp only [isDirectory, here, if_true, ih]
  | case3 links place rest time isDirectory here ih =>
      rw [walk, pass]
      simp only [isDirectory, here, if_true, if_false, Bool.false_eq_true, ih]
  | case4 links place first rest time isDirectory here up long =>
      rw [walk, pass]
      simp [isDirectory, here, up, long]
  | case5 links place first rest time isDirectory here up short absent =>
      rw [walk, pass]
      cases rest <;> simp [isDirectory, here, up, short, absent]
  | case6 place first rest time isDirectory here up short target isLink =>
      rw [walk, pass]
      simp [isDirectory, here, up, short, isLink]
  | case7 place first rest time isDirectory here up short target isLink left ih =>
      rw [walk, pass]
      simpa [isDirectory, here, up, short, isLink] using ih
  | case8 links place first rest time isDirectory here up short found notLink present ih =>
      rw [walk, pass]
      cases found with
      | link target => exact absurd rfl (notLink target)
      | directory | file | sink => simpa [isDirectory, here, up, short, present] using ih
  | case9 links place first rest found notDirectory present =>
      rw [walk, pass]
      cases found with
      | directory time => exact absurd rfl (notDirectory time)
      | link | file | sink => simp [present]
  | case10 links place first rest absent =>
      rw [walk, pass]
      simp [absent]

/-- The names that are passed, name by name. -/
inductive Passes (files : FileSystem) : Nat → Location → List String → Nat → Location → Prop where
  | done (links : Nat) (place : Location) : Passes files links place [] links place
  | stay {links left : Nat} {place other : Location} {name : String} {rest : List String}
      {time : Int} (isDirectory : files.node? place = some (.directory time))
      (here : isHere name = true) (further : Passes files links place rest left other) :
      Passes files links place (name :: rest) left other
  | up {links left : Nat} {place other : Location} {rest : List String} {time : Int}
      (isDirectory : files.node? place = some (.directory time))
      (further : Passes files links place.dropLast rest left other) :
      Passes files links place (".." :: rest) left other
  | into {links left : Nat} {place other : Location} {name : String} {rest : List String}
      {time : Int} {node : Node} (isDirectory : files.node? place = some (.directory time))
      (entry : IsEntryName name) (short : isLongName name = false)
      (present : files.node? (place ++ [name]) = some node)
      (notLink : ∀ target, node ≠ .link target)
      (further : Passes files links (place ++ [name]) rest left other) :
      Passes files links place (name :: rest) left other
  | link {links left : Nat} {place other : Location} {name target : String} {rest : List String}
      {time : Int} (isDirectory : files.node? place = some (.directory time))
      (entry : IsEntryName name) (short : isLongName name = false)
      (isLink : files.node? (place ++ [name]) = some (.link target))
      (further : Passes files links (linkStart place target) (linkNames target ++ rest) left
        other) :
      Passes files (links + 1) place (name :: rest) left other

theorem passes_of_pass {left : Nat} {other : Location}
    (passed : files.pass links place names = .ok (left, other)) :
    files.Passes links place names left other := by
  induction links, place, names using pass.induct files with
  | case1 links place =>
      rw [pass] at passed
      obtain ⟨rfl, rfl⟩ := Prod.mk.inj (Except.ok.inj passed)
      exact .done links place
  | case2 links place first rest time isDirectory here ih =>
      rw [pass] at passed
      simp only [isDirectory, here, if_true] at passed
      exact .stay isDirectory here (ih passed)
  | case3 links place rest time isDirectory here ih =>
      rw [pass] at passed
      simp only [isDirectory, here, if_true] at passed
      exact .up isDirectory (ih passed)
  | case4 links place first rest time isDirectory here up long =>
      rw [pass] at passed
      simp [isDirectory, here, up, long] at passed
  | case5 links place first rest time isDirectory here up short absent =>
      rw [pass] at passed
      simp [isDirectory, here, up, short, absent] at passed
  | case6 place first rest time isDirectory here up short target isLink =>
      rw [pass] at passed
      simp [isDirectory, here, up, short, isLink] at passed
  | case7 place first rest time isDirectory here up short target isLink left ih =>
      have entry : IsEntryName first := ⟨Bool.eq_false_iff.2 here, up⟩
      rw [pass] at passed
      simp only [isDirectory, here, up, short, isLink, if_false] at passed
      exact .link isDirectory entry (Bool.eq_false_iff.2 short) isLink (ih passed)
  | case8 links place first rest time isDirectory here up short found notLink present ih =>
      have entry : IsEntryName first := ⟨Bool.eq_false_iff.2 here, up⟩
      rw [pass] at passed
      cases found with
      | link target => exact absurd rfl (notLink target)
      | directory | file | sink =>
          simp only [isDirectory, here, up, short, present, if_false] at passed
          exact .into isDirectory entry (Bool.eq_false_iff.2 short) present notLink (ih passed)
  | case9 links place first rest found notDirectory present =>
      rw [pass] at passed
      cases found with
      | directory time => exact absurd rfl (notDirectory time)
      | link | file | sink => simp [present] at passed
  | case10 links place first rest absent =>
      rw [pass] at passed
      simp [absent] at passed

/-- Names are passed one part behind the other. -/
theorem Passes.of_append {first second : List String}
    (passes : files.Passes links place (first ++ second) left other) :
    ∃ between middle, files.Passes links place first between middle ∧
      files.Passes between middle second left other := by
  generalize whole : first ++ second = names at passes
  induction passes generalizing first with
  | done links place =>
      obtain ⟨rfl, rfl⟩ := List.append_eq_nil_iff.1 whole
      exact ⟨links, place, .done .., .done ..⟩
  | @stay links _ place _ name rest _ isDirectory here further ih =>
      rcases List.append_eq_cons_iff.1 whole with ⟨rfl, rfl⟩ | ⟨front, rfl, rfl⟩
      · exact ⟨links, place, .done .., .stay isDirectory here further⟩
      · obtain ⟨between, middle, before, after⟩ := ih rfl
        exact ⟨between, middle, .stay isDirectory here before, after⟩
  | @up links _ place _ rest _ isDirectory further ih =>
      rcases List.append_eq_cons_iff.1 whole with ⟨rfl, rfl⟩ | ⟨front, rfl, rfl⟩
      · exact ⟨links, place, .done .., .up isDirectory further⟩
      · obtain ⟨between, middle, before, after⟩ := ih rfl
        exact ⟨between, middle, .up isDirectory before, after⟩
  | @into links _ place _ name rest _ node isDirectory entry short present notLink further ih =>
      rcases List.append_eq_cons_iff.1 whole with ⟨rfl, rfl⟩ | ⟨front, rfl, rfl⟩
      · exact ⟨links, place, .done .., .into isDirectory entry short present notLink further⟩
      · obtain ⟨between, middle, before, after⟩ := ih rfl
        exact ⟨between, middle, .into isDirectory entry short present notLink before, after⟩
  | @link links _ place _ name target rest _ isDirectory entry short isLink further ih =>
      rcases List.append_eq_cons_iff.1 whole with ⟨rfl, rfl⟩ | ⟨front, rfl, rfl⟩
      · exact ⟨links + 1, place, .done .., .link isDirectory entry short isLink further⟩
      · obtain ⟨between, middle, before, after⟩ := ih (List.append_assoc ..)
        exact ⟨between, middle, .link isDirectory entry short isLink before, after⟩

/-- What leads to a directory begins at one. -/
theorem Passes.directory (passes : files.Passes links place names left other)
    (ends : ∃ time, files.node? other = some (.directory time)) :
    ∃ time, files.node? place = some (.directory time) := by
  cases passes with
  | done => exact ends
  | stay isDirectory | up isDirectory | into isDirectory | link isDirectory =>
      exact ⟨_, isDirectory⟩

theorem Passes.pass_eq {left : Nat} {other : Location}
    (passes : files.Passes links place names left other) :
    files.pass links place names = .ok (left, other) := by
  induction passes with
  | done links place => rw [pass]
  | stay isDirectory here _ ih =>
      rw [pass]
      simp only [isDirectory, here, if_true, ih]
  | up isDirectory _ ih =>
      rw [pass]
      simpa [isDirectory, isHere] using ih
  | @into _ _ _ _ _ _ _ node isDirectory entry short present notLink _ ih =>
      rw [pass]
      cases node with
      | link target => exact absurd rfl (notLink target)
      | directory | file | sink =>
          simpa [isDirectory, entry.notHere, entry.notUp, short, present] using ih
  | link isDirectory entry short isLink _ ih =>
      rw [pass]
      simpa [isDirectory, entry.notHere, entry.notUp, short, isLink] using ih

/-- The place that names lead to once every directory on the way is made. -/
def leads? (files : FileSystem) (links : Nat) (place : Location) (names : List String) :
    Option Location :=
  match names with
  | [] => some place
  | name :: rest =>
    if isHere name then leads? files links place rest
    else if name = ".." then leads? files links place.dropLast rest
    else match files.node? (place ++ [name]) with
      | some (.link target) =>
        match links with
        | 0 => none
        | left + 1 => leads? files left (linkStart place target) (linkNames target ++ rest)
      | _ => leads? files links (place ++ [name]) rest
termination_by (links, names.length)

/-- Behind names that are passed, the others lead on from where these end. -/
theorem Passes.leads?_append {left : Nat} {other : Location}
    (passes : files.Passes links place names left other) (rest : List String) :
    files.leads? links place (names ++ rest) = files.leads? left other rest := by
  induction passes with
  | done links place => rfl
  | stay isDirectory here _ ih => rw [List.cons_append, leads?, if_pos here, ih]
  | up isDirectory _ ih =>
      rw [List.cons_append, leads?, if_neg (by decide), if_pos rfl, ih]
  | @into _ _ _ _ _ _ _ node isDirectory entry short present notLink _ ih =>
      rw [List.cons_append, leads?, if_neg (Bool.eq_false_iff.1 entry.notHere), if_neg entry.notUp]
      cases node with
      | link target => exact absurd rfl (notLink target)
      | directory | file | sink => simpa only [present] using ih
  | link isDirectory entry short isLink _ ih =>
      rw [List.cons_append, leads?, if_neg (Bool.eq_false_iff.1 entry.notHere), if_neg entry.notUp]
      simpa only [isLink, List.append_assoc] using ih

theorem Passes.leads?_eq {left : Nat} {other : Location}
    (passes : files.Passes links place names left other) :
    files.leads? links place names = some other := by
  have through := passes.leads?_append []
  rwa [List.append_nil, leads?] at through

/-- Every node stays, as a node of its kind. -/
def Keeps (files later : FileSystem) : Prop :=
  ∀ place node, files.node? place = some node → ∃ other, later.node? place = some other ∧
    node.Kin other

theorem Keeps.trans {first second third : FileSystem} (before : first.Keeps second)
    (after : second.Keeps third) : first.Keeps third := by
  intro place node present
  obtain ⟨other, there, kin⟩ := before place node present
  obtain ⟨last, found, further⟩ := after place other there
  exact ⟨last, found, kin.trans further⟩

/-- Directories and links stay, and links keep their targets. -/
def KeepsWays (files later : FileSystem) : Prop :=
  ∀ place node, files.node? place = some node → node.IsWay → ∃ other,
    later.node? place = some other ∧ node.Kin other

theorem Keeps.ways {later : FileSystem} (keeps : files.Keeps later) : files.KeepsWays later :=
  fun place node present _ => keeps place node present

theorem KeepsWays.directory {later : FileSystem} (ways : files.KeepsWays later) {time : Int}
    (present : files.node? place = some (.directory time)) :
    ∃ other, later.node? place = some (.directory other) := by
  obtain ⟨_, found, kin⟩ := ways place _ present trivial
  cases kin
  exact ⟨_, found⟩

/-- A way through directories stays open while they and its end stay. -/
theorem Passes.of_ways {later : FileSystem} (ways : files.KeepsWays later) {left : Nat}
    {other : Location} (passes : files.Passes links place names left other)
    (last : ∀ node, files.node? other = some node → ∃ held, later.node? other = some held ∧
      node.Kin held) : later.Passes links place names left other := by
  induction passes with
  | done links place => exact .done links place
  | stay isDirectory here _ ih =>
      obtain ⟨_, still⟩ := ways.directory isDirectory
      exact .stay still here (ih last)
  | up isDirectory _ ih =>
      obtain ⟨_, still⟩ := ways.directory isDirectory
      exact .up still (ih last)
  | @into _ _ place _ name _ _ node isDirectory entry short present notLink further ih =>
      obtain ⟨_, still⟩ := ways.directory isDirectory
      have stays : ∃ held, later.node? (place ++ [name]) = some held ∧ node.Kin held := by
        -- Behind a node that is no directory a way has to end.
        cases node with
        | directory | link => exact ways _ _ present trivial
        | file | sink =>
            cases further with
            | done => exact last _ present
            | stay isDirectory' | up isDirectory' | into isDirectory' | link isDirectory' =>
                rw [present] at isDirectory'
                cases isDirectory'
      obtain ⟨_, there, kin⟩ := stays
      exact .into still entry short there (kin.notLink notLink) (ih last)
  | link isDirectory entry short isLink _ ih =>
      obtain ⟨_, still⟩ := ways.directory isDirectory
      obtain ⟨_, there, kin⟩ := ways _ _ isLink trivial
      cases kin
      exact .link still entry short there (ih last)

theorem Passes.of_keeps {later : FileSystem} (keeps : files.Keeps later) {left : Nat}
    {other : Location} (passes : files.Passes links place names left other) :
    later.Passes links place names left other :=
  passes.of_ways keeps.ways (keeps other)

theorem keeps_refl (files : FileSystem) : files.Keeps files :=
  fun _ node present => ⟨node, present, .refl node⟩

/-- Where names lead depends on the links alone. -/
theorem leads?_congr {later : FileSystem}
    (same : ∀ place target, files.node? place = some (.link target) ↔
      later.node? place = some (.link target)) (links : Nat) (place : Location)
    (names : List String) : files.leads? links place names = later.leads? links place names := by
  induction links, place, names using leads?.induct files with
  | case1 links place => rw [leads?, leads?]
  | case2 links place first rest here ih =>
      rw [leads?, if_pos here, ih, leads?, if_pos here]
  | case3 links place rest here ih =>
      rw [leads?, if_neg here, if_pos rfl, ih, leads?, if_neg here, if_pos rfl]
  | case4 place first rest here up target isLink =>
      have still := (same _ _).1 isLink
      rw [leads?, if_neg here, if_neg up, leads?, if_neg here, if_neg up]
      simp only [isLink, still]
  | case5 place first rest here up target isLink left ih =>
      have still := (same _ _).1 isLink
      rw [leads?, if_neg here, if_neg up, leads?, if_neg here, if_neg up]
      simp only [isLink, still, ih]
  | case6 links place first rest here up notLink ih =>
      have still (target : String) : later.node? (place ++ [first]) ≠ some (.link target) :=
        fun isLink => notLink target ((same _ _).2 isLink)
      rw [leads?, if_neg here, if_neg up, leads?, if_neg here, if_neg up]
      split
      · exact absurd ‹_› (notLink _)
      · exact ih

/-- A way that comes by no file led to the same place while a link stood for the file. -/
theorem Passes.leads?_of_filled {later : FileSystem} {gone home : Location} {content : Bytes}
    {changed : Int} {allowance left : Nat}
    (links : ∀ place, place ≠ gone → ∀ target,
      files.node? place = some (.link target) ↔ later.node? place = some (.link target))
    (filled : later.node? gone = some (.file content changed))
    (passes : later.Passes allowance place names left home)
    (ends : ∃ time, later.node? home = some (.directory time)) :
    files.leads? allowance place names = some home := by
  induction passes with
  | done => rw [leads?]
  | stay _ here _ ih => rw [leads?, if_pos here, ih ends]
  | up _ _ ih => rw [leads?, if_neg (by decide), if_pos rfl, ih ends]
  | @into _ _ place _ name _ _ node _ entry _ present notLink further ih =>
      have apart : place ++ [name] ≠ gone := by
        rintro rfl
        obtain ⟨_, isDirectory⟩ := further.directory ends
        cases filled.symm.trans isDirectory
      have noLink (target : String) : files.node? (place ++ [name]) ≠ some (.link target) :=
        fun isLink => notLink target
          (Option.some.inj (present.symm.trans ((links _ apart target).1 isLink)))
      rw [leads?, if_neg (Bool.eq_false_iff.1 entry.notHere), if_neg entry.notUp]
      split
      · exact absurd ‹_› (noLink _)
      · exact ih ends
  | @link _ _ place _ name target _ _ _ entry _ isLink _ ih =>
      have apart : place ++ [name] ≠ gone := by
        rintro rfl
        cases filled.symm.trans isLink
      have was := (links _ apart target).2 isLink
      rw [leads?, if_neg (Bool.eq_false_iff.1 entry.notHere), if_neg entry.notUp]
      simp only [was, ih ends]

theorem enter_eq_ok_iff {directory : Location} :
    files.enter place names = .ok directory ↔
      (∃ left, files.pass linkAllowance place names = .ok (left, directory)) ∧
        ∃ time, files.node? directory = some (.directory time) := by
  have found (node : Node) :
      files.walk .target linkAllowance place names = .ok (.found directory node) ↔
        (∃ left, files.pass linkAllowance place names = .ok (left, directory)) ∧
          files.node? directory = some node := walk_target_eq_found_iff
  rw [enter, lookUp]
  constructor
  · intro entered
    split at entered
    · cases entered
    · rename_i time walked
      obtain rfl := Except.ok.inj entered
      obtain ⟨passed, present⟩ := (found _).1 walked
      exact ⟨passed, time, present⟩
    · cases entered
    · cases entered
  · rintro ⟨passed, time, present⟩
    rw [(found _).2 ⟨passed, present⟩]

/-- A directory that is entered is where its names lead. -/
theorem leads?_of_enter {directory : Location} (entered : files.enter place names = .ok directory) :
    files.leads? linkAllowance place names = some directory := by
  obtain ⟨⟨_, passed⟩, _⟩ := enter_eq_ok_iff.1 entered
  exact (passes_of_pass passed).leads?_eq

theorem enter_of_ways {later : FileSystem} (ways : files.KeepsWays later) {directory : Location}
    (entered : files.enter place names = .ok directory) :
    later.enter place names = .ok directory := by
  obtain ⟨⟨left, passed⟩, time, isDirectory⟩ := enter_eq_ok_iff.1 entered
  have further := (passes_of_pass passed).of_ways ways fun node present =>
    ways directory node present (Option.some.inj (isDirectory.symm.trans present) ▸ trivial)
  exact enter_eq_ok_iff.2 ⟨⟨left, further.pass_eq⟩, ways.directory isDirectory⟩

/-- The last step of a walk, in the directory that holds its last name. -/
theorem walk_last (entry : IsEntryName name) {directory : Location} {time : Int}
    (isDirectory : files.node? directory = some (.directory time)) :
    files.walk purpose links directory [name] =
      if isLongName name then .error Fault.nameTooLong
      else match files.node? (directory ++ [name]), links with
        | none, _ => .ok (.vacant directory name)
        | some (.link target), 0 =>
          if purpose = .itself then .ok (.found (directory ++ [name]) (.link target))
          else .error Fault.tooManyLinks
        | some (.link target), left + 1 =>
          if purpose = .itself then .ok (.found (directory ++ [name]) (.link target))
          else files.walk purpose left (linkStart directory target) (linkNames target)
        | some node, _ => .ok (.found (directory ++ [name]) node) := by
  have bare : ([] : List String) ≠ [""] := by decide
  rw [walk, isDirectory]
  simp only [entry.notHere, entry.notUp, bare, decide_false, Bool.and_false, Bool.false_eq_true,
    if_false, List.isEmpty_nil, if_true, Bool.true_and, decide_eq_true_eq]
  split
  · rfl
  · cases present : files.node? (directory ++ [name]) with
    | none => rfl
    | some node =>
        cases node with
        | link target =>
            cases links <;> simp
        | directory | file | sink =>
            dsimp only
            rw [walk, present]

/-- Names are walked in directories alone. -/
theorem directory_of_walk {destination : Destination}
    (walked : files.walk purpose links place (name :: names) = .ok destination) :
    ∃ time, files.node? place = some (.directory time) := by
  rw [walk] at walked
  split at walked
  · exact ⟨_, ‹_›⟩
  · cases walked
  · cases walked

/-- What a last name is found to be itself, links included, stands under that name. -/
theorem walk_itself_eq_found_iff (entry : IsEntryName name) {directory other : Location}
    {node : Node} :
    files.walk .itself links directory [name] = .ok (.found other node) ↔
      (∃ time, files.node? directory = some (.directory time)) ∧ isLongName name = false ∧
        other = directory ++ [name] ∧ files.node? (directory ++ [name]) = some node := by
  constructor
  · intro found
    obtain ⟨time, isDirectory⟩ := directory_of_walk found
    rw [walk_last entry isDirectory] at found
    split at found
    · cases found
    · rename_i short
      refine ⟨⟨time, isDirectory⟩, Bool.eq_false_iff.2 short, ?_⟩
      cases present : files.node? (directory ++ [name]) with
      | none =>
          rw [present] at found
          cases found
      | some held =>
          rw [present] at found
          have same : Destination.found (directory ++ [name]) held = .found other node := by
            cases held with
            | link => cases links <;> exact Except.ok.inj found
            | directory | file | sink => exact Except.ok.inj found
          obtain ⟨rfl, rfl⟩ := Destination.found.inj same
          exact ⟨rfl, rfl⟩
  · rintro ⟨⟨time, isDirectory⟩, short, rfl, present⟩
    rw [walk_last entry isDirectory, short, present]
    cases node with
    | link => cases links <;> rfl
    | directory | file | sink => rfl

/-- What a walk finds behind a last name stands where the other names lead. -/
theorem lookUp_concat_found (entry : IsEntryName name) {other : Location} {node : Node}
    (found : files.lookUp purpose place (names ++ [name]) = .ok (.found other node)) :
    ∃ directory, files.leads? linkAllowance place names = some directory ∧
      ((other = directory ++ [name] ∧ files.node? other = some node) ∨
        ∃ target, files.node? (directory ++ [name]) = some (.link target)) := by
  rw [lookUp, walk_concat entry] at found
  split at found
  · cases found
  · rename_i left directory passed
    refine ⟨directory, (passes_of_pass passed).leads?_eq, ?_⟩
    obtain ⟨_, isDirectory⟩ := directory_of_walk found
    rw [walk_last entry isDirectory] at found
    split at found
    · cases found
    · split at found
      · cases found
      · exact .inr ⟨_, ‹_›⟩
      · exact .inr ⟨_, ‹_›⟩
      · rename_i present _ _
        obtain ⟨rfl, rfl⟩ := Destination.found.inj (Except.ok.inj found)
        exact .inl ⟨rfl, present⟩

/-- A walk finds a node that is no link under its last name in the directory it enters. -/
theorem lookUp_concat_of_enter (entry : IsEntryName name) (short : isLongName name = false)
    {directory : Location} (entered : files.enter place names = .ok directory) {node : Node}
    (present : files.node? (directory ++ [name]) = some node)
    (notLink : ∀ target, node ≠ .link target) :
    files.lookUp purpose place (names ++ [name]) = .ok (.found (directory ++ [name]) node) := by
  obtain ⟨⟨left, passed⟩, time, isDirectory⟩ := enter_eq_ok_iff.1 entered
  rw [lookUp, walk_concat entry, passed]
  dsimp only
  rw [walk_last entry isDirectory, short, present]
  cases node with
  | link target => exact absurd rfl (notLink target)
  | directory | file | sink => rfl

/-- What a walk finds stands where it is found. -/
theorem node?_of_walk {other : Location} {node : Node}
    (found : files.walk purpose links place names = .ok (.found other node)) :
    files.node? other = some node := by
  fun_induction walk files purpose links place names <;> grind

end FileSystem

end AnnotatedMake
