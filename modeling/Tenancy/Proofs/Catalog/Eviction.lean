import Tenancy.Proofs.Catalog.Sharing

/-! Eviction while calls are under way. A call that has read the metadata before an eviction may
keep its catalog after it, and later calls then find this catalog. -/
namespace Tenancy.Traffic

/-- Calls that begin from now on answer with catalogs that are read from now on only. -/
def StartsAfresh (s : Traffic) (organization : String) : Prop :=
  ∀ (later : List Action) (i : Nat) config stage c, s.calls.length ≤ i →
    (s.run later).calls[i]? = some ⟨config, organization, stage⟩ → stage.answer? = some (.ok c) →
    ∃ config', s.ReadsIn later (stage.source i) config' organization (.ok c)

variable {s : Traffic} {organization : String}

theorem startsAfresh_of_fresh (fresh : ∀ later, s.Fresh organization later) : s.StartsAfresh organization := by
  intro later i config stage c new here answered
  cases stage with
  | found keeper found =>
    obtain rfl := Except.ok.inj (Option.some.inj answered)
    exact (fresh later).found i config keeper found new here
  | kept => exact ⟨config, (fresh later).given i config _ _ here answered (.inl new)⟩
  | failed => cases answered
  | missed | loaded => cases answered

/-- What a call that has read the metadata keeps is found, though nothing was read in between. -/
theorem not_startsAfresh_of_loaded {i : Nat} {config : Config} {c : Catalog} (own : s.Own)
    (here : s.calls[i]? = some ⟨config, organization, .loaded c⟩) : ¬ s.StartsAfresh organization := by
  intro afresh
  obtain ⟨present, keeper⟩ := get?_step_keep own here
  have first : (s.step (.keep i)).calls.length = s.calls.length := by
    rw [step_keep_of_loaded here]
    exact List.length_set ..
  have found : (s.run [.keep i, .look config organization]).calls[s.calls.length]? =
      some ⟨config, organization, .found i c⟩ := by
    rw [run_cons, run_cons, run_nil, step, lookup, present, keeper, ← first]
    exact List.getElem?_concat_length
  -- The answer would have to be read in the two steps, neither of which is a load.
  obtain ⟨config', before, after, split, -⟩ := afresh _ _ _ _ _ (Nat.le_refl _) found rfl
  have read : Action.load i ∈ [Action.keep i, .look config organization] := split ▸ by simp [Stage.source]
  simp at read

/-- An eviction takes effect just when no call that has read the metadata has yet to keep it. -/
theorem evict_startsAfresh_iff (before : List Action) (organization : String) :
    (run {} (before ++ [.evict organization])).StartsAfresh organization ↔ ∀ (i : Nat) config c,
      (run {} (before ++ [.evict organization])).calls[i]? ≠ some ⟨config, organization, .loaded c⟩ := by
  have own := own_empty.run (before ++ [.evict organization])
  constructor
  · intro afresh i config c here
    exact not_startsAfresh_of_loaded own here afresh
  · intro idle
    have clean : (run {} (before ++ [.evict organization])).cache.get? organization = none := by
      rw [run_append]
      exact get?_step_evict
    exact startsAfresh_of_fresh (fresh_run own clean idle)

/-- The metadata of an organization that has a table with one field. -/
def oneField (field : String) : Reply :=
  .rows [⟨[("tablename", .string "users"), ("fldname", .string field), ("fldtype", .string "number")]⟩]

def oneFieldCatalog (field : String) : Catalog :=
  ⟨"o1", none, [⟨"users", none, [
    { name := "id", type := "id", sqlType := some "text", notNull := true },
    { name := field, type := "number" }]⟩]⟩

/-- A call that has read the metadata before they change keeps what it has read after the eviction
that follows the change. The next call finds the old catalog, though a load would give the new one. -/
theorem evicted_catalog_found_again :
    let config : Config := { databaseUrl := "" }
    let s := run {} [.change "o1" (oneField "age"), .look config "o1", .load 0,
      .change "o1" (oneField "weight"), .evict "o1"]
    (s.run [.keep 0, .look config "o1"]).calls[1]? = some ⟨config, "o1", .found 0 (oneFieldCatalog "age")⟩ ∧
      (s.load config "o1").1 = .ok (oneFieldCatalog "weight") ∧ ¬ s.StartsAfresh "o1" := by
  have loaded : (run {} [.change "o1" (oneField "age"), .look { databaseUrl := "" } "o1", .load 0,
      .change "o1" (oneField "weight"), .evict "o1"]).calls[0]? =
      some ⟨{ databaseUrl := "" }, "o1", .loaded (oneFieldCatalog "age")⟩ := by rfl
  exact ⟨rfl, rfl, not_startsAfresh_of_loaded (own_empty.run _) loaded⟩

end Tenancy.Traffic
