import AnnotatedMake.Proofs.Completion.Offering
import AnnotatedMake.Proofs.Host.Seeing

namespace AnnotatedMake

variable [Platform]

namespace IndexCache

variable {cache : IndexCache} {host other : Host} {source : Path}

/-- A cache gives the same on hosts that show the same at the Makefile and at its cache file. -/
theorem given_alike (sourceAlike : host.SeesAlike other source)
    (resolved : other.resolve source = host.resolve source)
    (filesAlike : ∀ path, host.resolve source = .ok path →
      host.SeesAlike other (cache.directory.child (nameOf cache.marker path))) :
    cache.given other source = cache.given host source := by
  rw [given, given, sourceAlike.read, resolved]
  cases found : host.resolve source with
  | error fault => rfl
  | ok path =>
      simp only [keptOr, sourceAlike.freshText? (filesAlike path found)]

/-- The log has no part in what a cache gives. -/
theorem given_logging (entries : List Entry) :
    cache.given (host.logging entries) source = cache.given host source := by
  have alike (path : Path) : host.SeesAlike (host.logging entries) path :=
    ⟨rfl, fun _ _ _ => rfl⟩
  have resolved : (host.logging entries).resolve source = host.resolve source := rfl
  exact given_alike (alike source) resolved fun _ _ => alike _

theorem IsFree.logging (free : cache.IsFree host) (entries : List Entry) :
    cache.IsFree (host.logging entries) :=
  ⟨free.noSlash, free.shallow, free.current⟩

end IndexCache

namespace Session

/-- Where a Makefile is looked for: at the path that is given, or under names in the current
directory. -/
def LooksAt (names : List String) (host : Host) (file : Option Path) (source : Path) : Prop :=
  match file with
  | some path => source = path
  | none => ∃ base name, host.currentDirectory = .ok base ∧ name ∈ names ∧ source = base.child name

/-- Where two sessions look for a Makefile, each on its host, both are shown the same. -/
structure LookAlike (first second : Session) (host other : Host) (file : Option Path) : Prop where
  directory : other.directory = host.directory
  names : second.sourceNames = first.sourceNames
  places : ∀ source, LooksAt first.sourceNames host file source → host.SeesAlike other source

variable {first second : Session} {host other : Host} {file : Option Path}

omit [Platform] in
theorem LookAlike.refl (names : second.sourceNames = first.sourceNames) (host : Host)
    (file : Option Path) : LookAlike first second host host file :=
  ⟨rfl, names, fun source _ => .refl host source⟩

theorem firstFile?_alike {base : Path} {names : List String}
    (alike : ∀ name ∈ names, host.SeesAlike other (base.child name)) :
    ((firstFile? base names).run other).1 = ((firstFile? base names).run host).1 := by
  induction names with
  | nil => rfl
  | cons name rest ih =>
      have same := (alike name List.mem_cons_self).isFile
      obtain ⟨here, told⟩ := Program.run_isFile (base.child name) host
      obtain ⟨there, toldOther⟩ := Program.run_isFile (base.child name) other
      rw [told, toldOther] at same
      obtain rfl : there = here := same
      rw [firstFile?, Program.bind_eq_bind, Program.run_bind, Program.run_bind, told, toldOther]
      cases there with
      | error fault => rfl
      | ok found =>
          cases found with
          | true => rfl
          | false => exact ih fun name member => alike name (List.mem_cons_of_mem _ member)

/-- A Makefile is found where it is looked for. -/
theorem looksAt_of_sourceFor {source : Path}
    (found : ((first.sourceFor file).run host).1 = .ok (some source)) :
    LooksAt first.sourceNames host file source := by
  have named {base : Path} {names : List String} {host : Host}
      (found : ((firstFile? base names).run host).1 = .ok (some source)) :
      ∃ name ∈ names, source = base.child name := by
    induction names with
    | nil => cases found
    | cons name rest ih =>
        obtain ⟨here, told⟩ := Program.run_isFile (base.child name) host
        rw [firstFile?, Program.bind_eq_bind, Program.run_bind, told] at found
        cases here with
        | error fault => cases found
        | ok isFile =>
            cases isFile with
            | true =>
                obtain rfl := Option.some.inj (Except.ok.inj found)
                exact ⟨name, List.mem_cons_self, rfl⟩
            | false =>
                obtain ⟨name, member, same⟩ := ih found
                exact ⟨name, List.mem_cons_of_mem _ member, same⟩
  cases file with
  | some path => exact (Option.some.inj (Except.ok.inj found)).symm
  | none =>
      rw [outcome_sourceFor_none] at found
      cases here : host.currentDirectory with
      | error fault =>
          rw [first.run_findSource_of_lost here] at found
          cases found
      | ok base =>
          obtain ⟨_, ran⟩ := first.run_findSource here
          rw [ran] at found
          split at found
          · rename_i listed
            obtain rfl := Except.ok.inj found
            obtain ⟨name, member, same⟩ := named listed
            exact ⟨base, name, here, member, same⟩
          · cases found

namespace LookAlike

theorem findSource (alike : LookAlike first second host other none) (here there : List Entry) :
    ((second.findSource none).run (other.logging there)).1 =
      ((first.findSource none).run (host.logging here)).1 := by
  have directory : (other.logging there).currentDirectory =
      (host.logging here).currentDirectory := by
    have same : (other.logging there).directory = (host.logging here).directory := alike.directory
    rw [Host.currentDirectory, Host.currentDirectory, same]
  cases found : (host.logging here).currentDirectory with
  | error fault =>
      rw [first.run_findSource_of_lost found,
        second.run_findSource_of_lost (directory.trans found)]
  | ok base =>
      obtain ⟨news, ran⟩ := first.run_findSource found
      obtain ⟨more, ranOther⟩ := second.run_findSource (directory.trans found)
      rw [ran, ranOther, alike.names, Host.reportAll_logging, Host.reportAll_logging]
      exact firstFile?_alike fun name member =>
        (alike.places _ ⟨base, name, found, member, rfl⟩).logging _ _

theorem sourceFor (alike : LookAlike first second host other file) (here there : List Entry) :
    ((second.sourceFor file).run (other.logging there)).1 =
      ((first.sourceFor file).run (host.logging here)).1 := by
  cases file with
  | some path => rfl
  | none =>
      have found := alike.findSource here there
      rw [outcome_sourceFor_none, outcome_sourceFor_none, found]

/-- Sessions that look alike offer the same, unless their caches differ on the Makefile that both
find. -/
theorem complete_cases (alike : LookAlike first second host other file) (query : Query) :
    ((second.complete query file).run (other.logging [])).1 =
      ((first.complete query file).run (host.logging [])).1 ∨
    ∃ source here there,
      ((first.sourceFor file).run (host.logging [])).1 = .ok (some source) ∧
      ((first.complete query file).run (host.logging [])).1 =
        offered query ((first.cache.ensureFresh source none).run (host.logging here)).1 ∧
      ((second.complete query file).run (other.logging [])).1 =
        offered query ((second.cache.ensureFresh source none).run (other.logging there)).1 := by
  cases argument : query.isOnArgument with
  | false => exact .inl (by rw [run_complete_off argument, run_complete_off argument])
  | true =>
      obtain ⟨source, here, found⟩ := run_sourceFor first file (host.logging [])
      obtain ⟨sourceOther, there, foundOther⟩ := run_sourceFor second file (other.logging [])
      have same := alike.sourceFor [] []
      rw [found, foundOther] at same
      obtain rfl := Except.ok.inj same
      cases sourceOther with
      | none =>
          rw [run_complete_none argument found, run_complete_none argument foundOther]
          exact .inl rfl
      | some path =>
          rw [Host.reportAll_logging] at found foundOther
          exact .inr ⟨path, _, _, congrArg Prod.fst found, outcome_complete argument found,
            outcome_complete argument foundOther⟩

/-- Sessions that look alike offer the same when their caches give the same and nothing keeps them
from their files. -/
theorem complete_eq (alike : LookAlike first second host other file)
    (free : first.cache.IsFree host) (freeOther : second.cache.IsFree other)
    {query : Query}
    (gives : ∀ source, ((first.sourceFor file).run (host.logging [])).1 = .ok (some source) →
      second.cache.given other source = first.cache.given host source) :
    ((second.complete query file).run (other.logging [])).1 =
      ((first.complete query file).run (host.logging [])).1 := by
  rcases alike.complete_cases query with
    same | ⟨source, here, there, found, completed, completedOther⟩
  · exact same
  · have asked := (free.logging here).outcome_ensureFresh source
    have askedOther := (freeOther.logging there).outcome_ensureFresh source
    rw [completed, completedOther, asked, askedOther, IndexCache.given_logging,
      IndexCache.given_logging, gives source found]

end LookAlike

end Session

end AnnotatedMake
