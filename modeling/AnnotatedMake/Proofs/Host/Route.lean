import AnnotatedMake.Host.Host
import AnnotatedMake.Proofs.Path

namespace AnnotatedMake

namespace Host

variable {host : Host} {path : Path} {start place : Location} {names : List String}
  {name : String}

/-- The start and the names of a path, however long it is. -/
def wayOf? (host : Host) (path : Path) : Option (Location × List String) :=
  match path.anchor with
  | .relative =>
    match routeFrom host.directory.place host.directory.gone path.parts with
    | .ok (.along start names) => some (start, names)
    | _ => none
  | _ => some ([], path.parts)

/-- The place that a path leads to once every directory on the way is made. -/
def leads? (host : Host) (path : Path) : Option Location :=
  (host.wayOf? path).bind fun way =>
    host.files.leads? FileSystem.linkAllowance way.1 way.2

/-- The place of the last name once every directory above it is made. -/
def entryAt? (host : Host) (path : Path) : Option Location :=
  (host.leads? path.parent).bind fun home =>
    (FileSystem.lastName? path.parts).map fun name => home ++ [name]

/-- The entry of a child stands where its directory leads. -/
theorem entryAt?_child (base : Path) (one : IsOneName name) :
    host.entryAt? (base.child name) = (host.leads? base).map fun home => home ++ [name] := by
  have last : FileSystem.lastName? (base.parts ++ [name]) = some name := by
    simp [FileSystem.lastName?, one.notUp]
  rw [entryAt?, Path.parent_child base one, Path.child_of_oneName base one]
  dsimp only
  rw [last]
  cases host.leads? base <;> rfl

/-- A last name is followed after all that stand before it. -/
theorem routeFrom_concat (place : Location) (gone : Nat) (names : List String) (up : name ≠ "..") :
    routeFrom place gone (names ++ [name]) =
      match routeFrom place gone names with
      | .ok (.along start names) => .ok (.along start (names ++ [name]))
      | .ok .removed => .error (.system Fault.notFound)
      | .error fault => .error fault := by
  induction place, gone, names using routeFrom.induct with
  | case1 place names => rw [routeFrom, routeFrom]
  | case2 place gone => rw [List.nil_append, routeFrom, routeFrom, if_neg up]
  | case3 place gone rest ih =>
      rw [List.cons_append, routeFrom, if_pos rfl, ih, routeFrom, if_pos rfl]
  | case4 place gone first rest notUp =>
      rw [List.cons_append, routeFrom, if_neg notUp, routeFrom, if_neg notUp]

/-- Names that are left over are left behind those of a route. -/
theorem routeFrom_append {gone : Nat} {names left : List String}
    (found : routeFrom place gone names = .ok (.along start left)) (more : List String) :
    routeFrom place gone (names ++ more) = .ok (.along start (left ++ more)) := by
  induction place, gone, names using routeFrom.induct with
  | case1 place names =>
      rw [routeFrom] at found
      obtain ⟨rfl, rfl⟩ := Route.along.inj (Except.ok.inj found)
      rw [routeFrom]
  | case2 place gone =>
      rw [routeFrom] at found
      cases found
  | case3 place gone rest ih =>
      rw [routeFrom, if_pos rfl] at found
      rw [List.cons_append, routeFrom, if_pos rfl, ih found]
  | case4 place gone first rest notUp =>
      rw [routeFrom, if_neg notUp] at found
      cases found

/-- More names are added behind the way of a path. -/
theorem wayOf?_append {anchor : Anchor} {parts : List String}
    (way : host.wayOf? ⟨anchor, parts⟩ = some (start, names)) (more : List String) :
    host.wayOf? ⟨anchor, parts ++ more⟩ = some (start, names ++ more) := by
  rw [wayOf?] at way ⊢
  cases anchor with
  | relative =>
      dsimp only at way ⊢
      split at way
      · rename_i found
        obtain ⟨rfl, rfl⟩ := Prod.mk.inj (Option.some.inj way)
        rw [routeFrom_append found]
      · cases way
  | root | doubleRoot =>
      obtain ⟨rfl, rfl⟩ := Prod.mk.inj (Option.some.inj way)
      rfl

/-- From the root directory every path goes along its own names. -/
theorem wayOf?_of_root (current : host.directory = {}) (path : Path) :
    host.wayOf? path = some ([], path.parts) := by
  rw [wayOf?, current]
  cases path.anchor with
  | relative =>
      dsimp only
      rw [routeFrom]
  | root | doubleRoot => rfl

/-- A way depends on the working directory alone. -/
theorem wayOf?_congr {later : Host} (same : later.directory = host.directory) (path : Path) :
    later.wayOf? path = host.wayOf? path := by
  rw [wayOf?, wayOf?, same]

/-- Where a path leads is told by the current directory and the links. -/
theorem leads?_congr {later : Host} (same : later.directory = host.directory)
    (links : ∀ place target, host.files.node? place = some (.link target) ↔
      later.files.node? place = some (.link target)) (path : Path) :
    later.leads? path = host.leads? path := by
  rw [leads?, leads?, wayOf?_congr same]
  simp only [FileSystem.leads?_congr links]

/-- An entry depends on the working directory and the links. -/
theorem entryAt?_congr {later : Host} (same : later.directory = host.directory)
    (links : ∀ place target, host.files.node? place = some (.link target) ↔
      later.files.node? place = some (.link target)) (path : Path) :
    later.entryAt? path = host.entryAt? path := by
  rw [entryAt?, entryAt?, leads?_congr same links]

/-- A route has no names but those given. -/
theorem subset_of_routeFrom {gone : Nat} {names left : List String}
    (found : routeFrom place gone names = .ok (.along start left)) : left ⊆ names := by
  induction place, gone, names using routeFrom.induct with
  | case1 place names =>
      rw [routeFrom] at found
      obtain ⟨_, rfl⟩ := Route.along.inj (Except.ok.inj found)
      exact List.Subset.refl _
  | case2 place gone =>
      rw [routeFrom] at found
      cases found
  | case3 place gone rest ih =>
      rw [routeFrom, if_pos rfl] at found
      exact List.Subset.trans (ih found) (List.subset_cons_self _ _)
  | case4 place gone first rest notUp =>
      rw [routeFrom, if_neg notUp] at found
      cases found

/-- A route along names is the way of the path. -/
theorem wayOf?_of_route (along : host.route path = .ok (.along start names)) :
    host.wayOf? path = some (start, names) := by
  rw [route] at along
  split at along
  · cases along
  · split at along
    · cases along
    · rw [wayOf?]
      cases anchor : path.anchor with
      | relative =>
          rw [anchor] at along
          dsimp only at along ⊢
          rw [along]
      | root | doubleRoot =>
          rw [anchor] at along
          obtain ⟨rfl, rfl⟩ := Route.along.inj (Except.ok.inj along)
          rfl

/-- A path from a removed directory has no way. -/
theorem wayOf?_of_removed (gone : host.route path = .ok .removed) : host.wayOf? path = none := by
  rw [route] at gone
  rw [wayOf?]
  split at gone
  · cases gone
  · split at gone
    · cases gone
    · cases anchor : path.anchor with
      | relative =>
          rw [anchor] at gone
          dsimp only at gone ⊢
          rw [gone]
      | root | doubleRoot =>
          rw [anchor] at gone
          cases gone

/-- The names of a route are parts of the path. -/
theorem subset_of_route (along : host.route path = .ok (.along start names)) :
    names ⊆ path.parts := by
  have way := wayOf?_of_route along
  rw [wayOf?] at way
  split at way
  · split at way
    · rename_i found
      obtain ⟨rfl, rfl⟩ := Prod.mk.inj (Option.some.inj way)
      exact subset_of_routeFrom found
    · cases way
  · obtain ⟨rfl, rfl⟩ := Prod.mk.inj (Option.some.inj way)
    exact List.Subset.refl _

/-- A route gains no last name. -/
theorem lastName?_of_routeFrom {gone : Nat} {names left : List String}
    (found : routeFrom place gone names = .ok (.along start left))
    (nameless : FileSystem.lastName? names = none) : FileSystem.lastName? left = none := by
  induction place, gone, names using routeFrom.induct with
  | case1 place names =>
      rw [routeFrom] at found
      obtain ⟨_, rfl⟩ := Route.along.inj (Except.ok.inj found)
      exact nameless
  | case2 place gone =>
      rw [routeFrom] at found
      cases found
  | case3 place gone rest ih =>
      rw [routeFrom, if_pos rfl] at found
      apply ih found
      cases rest with
      | nil => rfl
      | cons first others =>
          rwa [FileSystem.lastName?, List.getLast?_cons_cons] at nameless
  | case4 place gone first rest notUp =>
      rw [routeFrom, if_neg notUp] at found
      cases found

/-- A path that ends at its start or goes up has a route of the same kind. -/
theorem lastName?_of_route (along : host.route path = .ok (.along start names))
    (nameless : FileSystem.lastName? path.parts = none) : FileSystem.lastName? names = none := by
  have way := wayOf?_of_route along
  rw [wayOf?] at way
  split at way
  · split at way
    · rename_i found
      obtain ⟨rfl, rfl⟩ := Prod.mk.inj (Option.some.inj way)
      exact lastName?_of_routeFrom found nameless
    · cases way
  · obtain ⟨rfl, rfl⟩ := Prod.mk.inj (Option.some.inj way)
    exact nameless

/-- The route of a name in a directory starts like that of the directory and ends with the name. -/
theorem route_child {directory : Path} (one : IsOneName name) {way : Route}
    (found : host.route (directory.child name) = .ok way) :
    ∃ start names, host.wayOf? directory = some (start, names) ∧
      way = .along start (names ++ [name]) := by
  rw [Path.child_of_oneName directory one, route] at found
  split at found
  · cases found
  · split at found
    · cases found
    · rw [wayOf?]
      dsimp only at found
      cases anchor : directory.anchor with
      | relative =>
          rw [anchor] at found
          dsimp only at found ⊢
          rw [routeFrom_concat _ _ _ one.notUp] at found
          split at found
          · rename_i along
            rw [along]
            exact ⟨_, _, rfl, (Except.ok.inj found).symm⟩
          · cases found
          · cases found
      | root | doubleRoot =>
          rw [anchor] at found
          exact ⟨_, _, rfl, (Except.ok.inj found).symm⟩

/-- The route of a path is that of the path above it, and its last name. -/
theorem route_of_concat {anchor : Anchor} {parts : List String} (entry : IsEntryName name)
    (along : host.route ⟨anchor, parts ++ [name]⟩ = .ok (.along start names)) :
    ∃ front, names = front ++ [name] ∧
      host.route ⟨anchor, parts⟩ = .ok (.along start front) := by
  have shorter := Path.size_text_le anchor parts entry.ne_empty
  rw [route] at along ⊢
  dsimp only at along ⊢
  split at along
  · cases along
  · rename_i clean
    rw [List.any_append, Bool.or_eq_true, not_or] at clean
    rw [if_neg clean.1]
    split at along
    · cases along
    · rw [if_neg (by omega)]
      cases anchor with
      | relative =>
          dsimp only at along ⊢
          rw [routeFrom_concat _ _ _ entry.notUp] at along
          split at along
          · rename_i found
            obtain ⟨rfl, rfl⟩ := Route.along.inj (Except.ok.inj along)
            exact ⟨_, rfl, found⟩
          · cases along
          · cases along
      | root | doubleRoot =>
          obtain ⟨rfl, rfl⟩ := Route.along.inj (Except.ok.inj along)
          exact ⟨_, rfl, rfl⟩

/-- Names of one length in one directory have routes alike. -/
theorem route_child_of_size {directory : Path} {first second : String}
    (firstPlain : IsPlainName first) (secondPlain : IsPlainName second)
    (same : Utf8.size first.toList = Utf8.size second.toList)
    (along : host.route (directory.child first) = .ok (.along start (names ++ [first]))) :
    host.route (directory.child second) = .ok (.along start (names ++ [second])) := by
  have size := Path.size_text_of_size directory.anchor directory.parts same
  have secondNull : holds (Char.ofNat 0) second = false := by
    simpa [holds] using secondPlain.noNull
  rw [Path.child_of_oneName directory firstPlain.toIsOneName] at along
  rw [Path.child_of_oneName directory secondPlain.toIsOneName]
  rw [route] at along ⊢
  rw [size] at along
  simp only [List.any_append, List.any_cons, List.any_nil, secondNull, Bool.or_false] at along ⊢
  split at along
  · cases along
  · rename_i clean
    have cleanParts := (not_or.1 (Bool.or_eq_true .. ▸ clean)).1
    rw [if_neg cleanParts]
    split at along
    · cases along
    · rename_i short
      rw [if_neg short]
      split at along
      · rw [routeFrom_concat _ _ _ firstPlain.notUp] at along
        rw [routeFrom_concat _ _ _ secondPlain.notUp]
        split at along
        · obtain ⟨rfl, ends⟩ := Route.along.inj (Except.ok.inj along)
          rw [List.append_cancel_right ends]
        · cases along
        · cases along
      · obtain ⟨rfl, ends⟩ := Route.along.inj (Except.ok.inj along)
        rw [List.append_cancel_right ends]

/-- A route depends on the working directory alone. -/
theorem route_congr {later : Host} (same : later.directory = host.directory) (path : Path) :
    later.route path = host.route path := by
  rw [route, route, same]

/-- A query that succeeds was asked along names or of a removed directory. -/
theorem query_eq_ok {α : Type} {removed : Except Nat α}
    {operation : Location → List String → Except Nat α} {result : α}
    (found : host.query path removed operation = .ok result) :
    (∃ start names, host.route path = .ok (.along start names) ∧
      operation start names = .ok result) ∨
      host.route path = .ok .removed ∧ removed = .ok result := by
  rw [query] at found
  split at found
  · cases found
  · rename_i way along
    cases way with
    | along start names =>
        dsimp only at found
        split at found
        · rename_i same
          obtain rfl := Except.ok.inj found
          exact .inl ⟨start, names, along, same⟩
        · cases found
    | removed =>
        dsimp only at found
        split at found
        · rename_i same
          obtain rfl := Except.ok.inj found
          exact .inr ⟨along, rfl⟩
        · cases found

/-- A fault of an operation is that of the route of its path, or the error number that it gave. -/
theorem query_eq_error {α : Type} {removed : Except Nat α}
    {operation : Location → List String → Except Nat α} {fault : Fault}
    (failed : host.query path removed operation = .error fault) :
    host.route path = .error fault ∨
      ∃ number, fault = .system number ∧
        ((∃ start names, host.route path = .ok (.along start names) ∧
          operation start names = .error number) ∨
        host.route path = .ok .removed ∧ removed = .error number) := by
  rw [query] at failed
  split at failed
  · rename_i lost
    exact .inl (Except.error.inj failed ▸ lost)
  · rename_i way along
    dsimp only at failed
    split at failed
    · cases failed
    · rename_i number refused
      refine .inr ⟨number, (Except.error.inj failed).symm, ?_⟩
      cases way with
      | along start names => exact .inl ⟨start, names, along, refused⟩
      | removed => exact .inr ⟨along, refused⟩

/-- A path circles where its links are too many. -/
theorem circles_eq_false_iff : host.circles path = false ↔
    host.query path (.error Fault.notFound) host.files.nodeAt ≠
      .error (.system Fault.tooManyLinks) := by
  rw [circles]
  cases host.query path (.error Fault.notFound) host.files.nodeAt with
  | error fault => simp
  | ok node => simp

/-- What is found out about a name in a directory is found where the directory leads. -/
theorem query_child_eq_ok {α : Type} {directory : Path} (one : IsOneName name)
    {removed : Except Nat α} {operation : Location → List String → Except Nat α} {result : α}
    (found : host.query (directory.child name) removed operation = .ok result) :
    ∃ start names, host.wayOf? directory = some (start, names) ∧
      operation start (names ++ [name]) = .ok result := by
  rcases query_eq_ok found with ⟨start, names, along, same⟩ | ⟨gone, _⟩
  · obtain ⟨first, others, way, equal⟩ := route_child one along
    obtain ⟨rfl, rfl⟩ := Route.along.inj equal
    exact ⟨_, _, way, same⟩
  · obtain ⟨_, _, _, equal⟩ := route_child one gone
    cases equal

/-- A path with a route holds no null character. -/
theorem clean_of_route {way : Route} (along : host.route path = .ok way) :
    path.parts.any (holds (Char.ofNat 0)) = false := by
  rw [route] at along
  split at along
  · cases along
  · exact Bool.eq_false_iff.2 ‹_›

/-- A route fails as a missing entry only. -/
theorem fault_of_routeFrom {gone : Nat} {fault : Fault}
    (failed : routeFrom place gone names = .error fault) : fault = .system Fault.notFound := by
  induction place, gone, names using routeFrom.induct with
  | case1 place names =>
      rw [routeFrom] at failed
      cases failed
  | case2 place gone =>
      rw [routeFrom] at failed
      cases failed
  | case3 place gone rest ih =>
      rw [routeFrom, if_pos rfl] at failed
      exact ih failed
  | case4 place gone first rest notUp =>
      rw [routeFrom, if_neg notUp] at failed
      exact (Except.error.inj failed).symm

/-- A path has no route for a null character, its length or a removed start. -/
theorem fault_of_route {fault : Fault} (failed : host.route path = .error fault) :
    fault = .nullByte ∧ path.parts.any (holds (Char.ofNat 0)) = true ∨
      fault = .system Fault.nameTooLong ∧ pathLimit ≤ Utf8.size path.text.toList ∨
      fault = .system Fault.notFound := by
  rw [route] at failed
  split at failed
  · exact .inl ⟨(Except.error.inj failed).symm, ‹_›⟩
  · split at failed
    · exact .inr (.inl ⟨(Except.error.inj failed).symm, ‹_›⟩)
    · split at failed
      · exact .inr (.inr (fault_of_routeFrom failed))
      · cases failed

/-- A path without null characters has a route, or ends with a fault of the system. -/
theorem isSystem_of_route (noNull : ∀ part ∈ path.parts, Char.ofNat 0 ∉ part.toList)
    {fault : Fault} (failed : host.route path = .error fault) : fault.isSystem = true := by
  rcases fault_of_route failed with ⟨_, null⟩ | ⟨rfl, _⟩ | rfl
  · have clean : path.parts.any (holds (Char.ofNat 0)) = false := by
      simpa [holds] using noNull
    exact absurd null (Bool.eq_false_iff.1 clean)
  · rfl
  · rfl

/-- A path without null characters is answered, or ends with a fault of the system. -/
theorem isSystem_of_query {α : Type} (noNull : ∀ part ∈ path.parts, Char.ofNat 0 ∉ part.toList)
    {removed : Except Nat α} {operation : Location → List String → Except Nat α} {fault : Fault}
    (failed : host.query path removed operation = .error fault) : fault.isSystem = true := by
  rcases query_eq_error failed with lost | ⟨_, rfl, _⟩
  · exact isSystem_of_route noNull lost
  · rfl

/-- A path with a null character is answered by no operation. -/
theorem query_of_null {α : Type} (null : path.parts.any (holds (Char.ofNat 0)) = true)
    (removed : Except Nat α) (operation : Location → List String → Except Nat α) :
    host.query path removed operation = .error .nullByte := by
  rw [query, route, if_pos null]

/-- A path is free of null characters when each part is. -/
theorem noNull_iff : path.parts.any (holds (Char.ofNat 0)) = false ↔
    ∀ part ∈ path.parts, Char.ofNat 0 ∉ part.toList := by
  simp [holds]

/-- A query fails as the system does or for a null character. -/
theorem fault_of_query {α : Type} {removed : Except Nat α}
    {operation : Location → List String → Except Nat α} {fault : Fault}
    (failed : host.query path removed operation = .error fault) :
    fault.isSystem = true ∨ fault = .nullByte := by
  cases null : path.parts.any (holds (Char.ofNat 0)) with
  | true =>
      rw [query_of_null null] at failed
      exact .inr (Except.error.inj failed).symm
  | false => exact .inl (isSystem_of_query (noNull_iff.1 null) failed)

/-- No fault of the host counts as one that was reported. -/
theorem ne_reported_of_query {α : Type} {removed : Except Nat α}
    {operation : Location → List String → Except Nat α} {fault : Fault}
    (failed : host.query path removed operation = .error fault) : fault ≠ .reported := by
  rintro rfl
  rcases fault_of_query failed with system | null
  · cases system
  · cases null

end Host

end AnnotatedMake
