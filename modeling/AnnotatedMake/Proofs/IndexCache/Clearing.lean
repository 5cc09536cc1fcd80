import AnnotatedMake.Proofs.IndexCache.Answer

namespace AnnotatedMake

namespace IndexCache

variable [Platform]

variable {host : Host} {base : Path}

/-- What is removed under the name of a cache file is that cache file. -/
theorem run_remove_child (tidy : Tidy host base) {front : String}
    (noSlash : '/' ∉ (front ++ cacheEnding).toList) :
    (∃ fault,
      (Program.remove (base.child (front ++ cacheEnding))).run host = (.error fault, host)) ∨
    ∃ place after,
      (Program.remove (base.child (front ++ cacheEnding))).run host = (.ok (), after) ∧
      IsCacheFile host base place ∧ host.Replaces after place none := by
  have isCache {home : Location} (leads : host.leads? base = some home) :
      IsCacheFile host base (home ++ [front ++ cacheEnding]) :=
    ⟨home, _, leads, endsText_iff.2 ⟨front, rfl⟩, rfl⟩
  rcases Host.remove_child (isOneName_of_cacheEnding noSlash)
    fun _ leads => tidy.cacheNotLink (isCache leads) with
    refused | ⟨_, _, removed, leads, _, replaces⟩
  · exact .inl refused
  · exact .inr ⟨_, _, removed, isCache leads, replaces⟩

omit [Platform] in
/-- The names that a directory is found to hold are those where its path leads. -/
theorem stands_of_list {names : List String}
    (listed : host.query base (.ok []) host.files.list = .ok names) :
    ∀ name ∈ names, ∃ home, host.leads? base = some home ∧
      host.files.node? (home ++ [name]) ≠ none := by
  intro name member
  rcases Host.query_eq_ok listed with ⟨start, way, along, same⟩ | ⟨_, gone⟩
  · rw [FileSystem.list] at same
    cases entered : host.files.enter start way with
    | error number =>
        rw [entered] at same
        cases same
    | ok home =>
        rw [entered] at same
        obtain rfl := Except.ok.inj same
        refine ⟨home, ?_, FileSystem.node?_of_mem_namesIn member⟩
        rw [Host.leads?, Host.wayOf?_of_route along]
        exact FileSystem.leads?_of_enter entered
  · obtain rfl := Except.ok.inj gone
    cases member

end IndexCache

end AnnotatedMake
