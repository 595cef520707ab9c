import CodeInventory.Project

namespace CodeInventory

open CodeInventory.Source

theorem Traced.bind_result {α β : Type} {first : Traced α} {next : α → Traced β} {result : β}
    (done : (first >>= next).result = .ok result) :
    ∃ a, first.result = .ok a ∧ (next a).result = .ok result := by
  obtain ⟨events, outcome⟩ := first
  cases outcome with
  | error error => cases done
  | ok a => exact ⟨a, rfl, done⟩

theorem Traced.bind_fails {α β : Type} {first : Traced α} {next : α → Traced β} {error : Error}
    (failed : (first >>= next).result = .error error) :
    first.result = .error error ∨ ∃ a, first.result = .ok a ∧ (next a).result = .error error := by
  obtain ⟨events, outcome⟩ := first
  cases outcome with
  | error cause =>
    cases failed
    exact .inl rfl
  | ok a => exact .inr ⟨a, rfl, failed⟩

theorem Traced.result_of_isOk {α : Type} {traced : Traced α} (ok : traced.result.isOk = true) :
    ∃ a, traced.result = .ok a := by
  cases result : traced.result with
  | error error =>
    rw [result] at ok
    cases ok
  | ok a => exact ⟨a, rfl⟩

namespace Project

variable {tree : FileTree} {settings : Settings} {projectRoot : Path}

theorem scanRoot_ok {α : Type} {root : RootSettings} {extractor : Extractor α} {scanned : Scanned α}
    (done : (scanRoot tree settings projectRoot root extractor).result = .ok scanned) :
    ∃ patterns, root.compile = .ok patterns ∧
      (Scanner.scan ⟨patterns, settings.followLinks, settings.allowMissingRoots⟩ tree extractor
        (projectRoot.join (.ofString root.dir))).result = .ok scanned := by
  obtain ⟨patterns, compiled, scan⟩ := Traced.bind_result done
  exact ⟨patterns, compiled, scan⟩

theorem build_ok {project : Project} (done : (build tree projectRoot settings).result = .ok project) :
    ∃ sources benches tests,
      (scanRoot tree settings projectRoot settings.sources .symbols).result = .ok sources ∧
      (scanRoot tree settings projectRoot settings.benches .benchmarks).result = .ok benches ∧
      (scanRoot tree settings projectRoot settings.tests .behaviors).result = .ok tests ∧
      project = ⟨sources.inventory, benches.inventory, tests.inventory,
        sources.skipped ++ benches.skipped ++ tests.skipped⟩ := by
  unfold build at done
  split at done
  · obtain ⟨_, failed, _⟩ := Traced.bind_result done
    cases failed
  · obtain ⟨sources, first, done⟩ := Traced.bind_result done
    obtain ⟨benches, second, done⟩ := Traced.bind_result done
    obtain ⟨tests, third, done⟩ := Traced.bind_result done
    cases done
    exact ⟨sources, benches, tests, first, second, third, rfl⟩

theorem directory_of_build {project : Project}
    (done : (build tree projectRoot settings).result = .ok project) :
    tree.isDirectory projectRoot = true := by
  unfold build at done
  split at done
  · obtain ⟨_, failed, _⟩ := Traced.bind_result done
    cases failed
  · rename_i directory
    simpa using directory

theorem build_of_scans {sources : Scanned SymbolSet} {benches : Scanned NameSet}
    {tests : Scanned (List String)} (directory : tree.isDirectory projectRoot = true)
    (first : (scanRoot tree settings projectRoot settings.sources .symbols).result = .ok sources)
    (second : (scanRoot tree settings projectRoot settings.benches .benchmarks).result = .ok benches)
    (third : (scanRoot tree settings projectRoot settings.tests .behaviors).result = .ok tests) :
    (build tree projectRoot settings).result = .ok ⟨sources.inventory, benches.inventory,
      tests.inventory, sources.skipped ++ benches.skipped ++ tests.skipped⟩ := by
  unfold build
  rw [if_neg (by simp [directory])]
  generalize scanRoot tree settings projectRoot settings.sources .symbols = one at first
  generalize scanRoot tree settings projectRoot settings.benches .benchmarks = two at second
  generalize scanRoot tree settings projectRoot settings.tests .behaviors = three at third
  obtain ⟨_, _⟩ := one
  obtain ⟨_, _⟩ := two
  obtain ⟨_, _⟩ := three
  cases first
  cases second
  cases third
  rfl

end Project

end CodeInventory
