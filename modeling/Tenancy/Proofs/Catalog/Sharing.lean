import Tenancy.Proofs.Catalog.Interleaving

/-! Calls that share a cache. Every catalog in the cache goes back to a load of a call for its
organization, and a call either takes the entry that it finds or sends for the metadata once. -/
namespace Tenancy

/-- The call whose load gave the catalog of a call, which is the call itself unless it found an entry. -/
def Stage.source (i : Nat) : Stage → Nat
  | .found keeper _ => keeper
  | .missed | .loaded _ | .failed _ | .kept _ => i

namespace Traffic

/-- In the course of the actions the load of a call has this result. -/
def ReadsIn (s : Traffic) (actions : List Action) (i : Nat) (config : Config) (organization : String)
    (result : Checked Catalog) : Prop :=
  ∃ before after, actions = before ++ .load i :: after ∧
    (s.run before).calls[i]? = some ⟨config, organization, .missed⟩ ∧
    ((s.run before).load config organization).1 = result

variable {s : Traffic} {actions rest : List Action} {a : Action} {i : Nat} {config : Config} {organization : String}
  {c : Catalog} {stage : Stage} {result : Checked Catalog}

theorem ReadsIn.concat (read : s.ReadsIn rest i config organization result) (a : Action) :
    s.ReadsIn (rest ++ [a]) i config organization result := by
  obtain ⟨before, after, rfl, here, given⟩ := read
  exact ⟨before, after ++ [a], by simp, here, given⟩

theorem readsIn_concat_load (here : (s.run rest).calls[i]? = some ⟨config, organization, .missed⟩) :
    s.ReadsIn (rest ++ [.load i]) i config organization ((s.run rest).load config organization).1 :=
  ⟨rest, [], rfl, here, rfl⟩

/-- Catalogs of an organization that are seen after the actions were read in their course. -/
structure Fresh (s : Traffic) (organization : String) (actions : List Action) : Prop where
  entry : ∀ c, (s.run actions).cache.get? organization = some c → ∃ config,
    s.ReadsIn actions ((s.run actions).keeper organization) config organization (.ok c) ∧
    (s.run actions).calls[(s.run actions).keeper organization]? = some ⟨config, organization, .kept c⟩
  given : ∀ i config stage result, (s.run actions).calls[i]? = some ⟨config, organization, stage⟩ →
    stage.given? = some result → s.calls.length ≤ i ∨ stage.answer? = none →
    s.ReadsIn actions i config organization result
  found : ∀ i config keeper c, s.calls.length ≤ i →
    (s.run actions).calls[i]? = some ⟨config, organization, .found keeper c⟩ →
    ∃ config', s.ReadsIn actions keeper config' organization (.ok c)

namespace Fresh

/-- Nothing has been read as long as there is no entry and no call has a catalog to keep. -/
theorem nil (clean : s.cache.get? organization = none)
    (idle : ∀ (i : Nat) config c, s.calls[i]? ≠ some ⟨config, organization, .loaded c⟩) :
    s.Fresh organization [] where
  entry c present := by
    rw [run_nil, clean] at present
    cases present
  given i config stage result here given new := by
    obtain ⟨old, -⟩ := List.getElem?_eq_some_iff.mp here
    rcases new with beyond | unanswered
    · exact absurd old (by simpa using beyond)
    · cases stage with
      | loaded c => exact absurd here (idle i config c)
      | found | missed => cases given
      | failed | kept => cases unanswered
  found i config keeper c beyond here := by
    obtain ⟨old, -⟩ := List.getElem?_eq_some_iff.mp here
    exact absurd old (by simpa using beyond)

variable (fresh : s.Fresh organization rest)

include fresh

theorem entry_concat (own : s.Own)
    (present : (s.run (rest ++ [a])).cache.get? organization = some c) :
    ∃ config, s.ReadsIn (rest ++ [a]) ((s.run (rest ++ [a])).keeper organization) config organization (.ok c) ∧
      (s.run (rest ++ [a])).calls[(s.run (rest ++ [a])).keeper organization]? =
        some ⟨config, organization, .kept c⟩ := by
  rw [run_append, run_cons, run_nil] at present ⊢
  by_cases touched : (s.run rest).Touches organization a
  · cases touched with
    | evict =>
      rw [get?_step_evict] at present
      cases present
    | @keep i config c' here =>
      obtain ⟨kept, keeper⟩ := get?_step_keep (own.run rest) here
      obtain rfl : c' = c := Option.some.inj (kept.symm.trans present)
      rw [keeper]
      -- The call may have begun before, but what it waits to keep was read since.
      refine ⟨config, (fresh.given i config _ _ here rfl (.inr rfl)).concat _, ?_⟩
      obtain ⟨old, -⟩ := List.getElem?_eq_some_iff.mp here
      rw [step_keep_of_loaded here]
      exact List.getElem?_set_self old
  · obtain ⟨same, keeper⟩ := get?_step_of_not_touches (own.run rest) touched
    obtain ⟨config, read, kept⟩ := fresh.entry c (same.symm.trans present)
    rw [keeper]
    exact ⟨config, read.concat a, getElem?_step_of_answer kept rfl⟩

theorem given_concat (after : (s.run (rest ++ [a])).calls[i]? = some ⟨config, organization, stage⟩)
    (given : stage.given? = some result) (new : s.calls.length ≤ i ∨ stage.answer? = none) :
    s.ReadsIn (rest ++ [a]) i config organization result := by
  rw [run_append] at after
  generalize known : (⟨config, organization, stage⟩ : Retrieval) = call at after
  cases origin_of_step after with
  | before here => exact (fresh.given i config stage result (known ▸ here) given new).concat a
  | began =>
    obtain ⟨rfl, rfl, rfl⟩ := Retrieval.mk.inj known
    rw [lookup] at given
    split at given <;> cases given
  | loaded here =>
    obtain ⟨rfl, rfl, rfl⟩ := Retrieval.mk.inj known
    obtain rfl := Option.some.inj ((Stage.given?_ofLoad _).symm.trans given)
    exact readsIn_concat_load here
  | kept here =>
    obtain ⟨rfl, rfl, rfl⟩ := Retrieval.mk.inj known
    exact (fresh.given i config _ result here given (.inr rfl)).concat _

theorem found_concat {keeper : Nat} (beyond : s.calls.length ≤ i)
    (after : (s.run (rest ++ [a])).calls[i]? = some ⟨config, organization, .found keeper c⟩) :
    ∃ config', s.ReadsIn (rest ++ [a]) keeper config' organization (.ok c) := by
  rw [run_append] at after
  generalize known : (⟨config, organization, .found keeper c⟩ : Retrieval) = call at after
  cases origin_of_step after with
  | before here =>
    obtain ⟨config', read⟩ := fresh.found i config keeper c beyond (known ▸ here)
    exact ⟨config', read.concat a⟩
  | began =>
    obtain ⟨rfl, rfl, looked⟩ := Retrieval.mk.inj known
    rw [lookup] at looked
    split at looked
    · rename_i present
      obtain ⟨rfl, rfl⟩ := Stage.found.inj looked
      obtain ⟨config', read, -⟩ := fresh.entry _ present
      exact ⟨config', read.concat _⟩
    · cases looked
  | @loaded config' other here =>
    have loaded := congrArg Stage.given? (Retrieval.mk.inj known).2.2
    rw [Stage.given?_ofLoad] at loaded
    cases loaded
  | kept => cases known

end Fresh

theorem fresh_run (own : s.Own) (clean : s.cache.get? organization = none)
    (idle : ∀ (i : Nat) config c, s.calls[i]? ≠ some ⟨config, organization, .loaded c⟩) (actions : List Action) :
    s.Fresh organization actions := by
  induction actions using List.reverseRecOn with
  | nil => exact .nil clean idle
  | append_singleton rest a fresh =>
    exact ⟨fun _ => fresh.entry_concat own, fun _ _ _ _ => fresh.given_concat,
      fun _ _ _ _ => fresh.found_concat⟩

/-! The course of a call. -/

theorem sentBy_step_of_length_le (beyond : s.calls.length ≤ i) : (s.step a).sentBy i = s.sentBy i := by
  have taken := s.steps a
  generalize s.step a = s' at taken
  cases taken with
  | load here =>
    obtain ⟨old, -⟩ := List.getElem?_eq_some_iff.mp here
    rw [sentBy_afterLoad, if_neg (by omega), List.append_nil]
  | change | look | keep | evict | idleLoad | idleKeep => rfl

theorem length_step_le : s.calls.length ≤ (s.step a).calls.length := by
  have taken := s.steps a
  generalize s.step a = s' at taken
  cases taken with
  | look => simp
  | load | keep => exact Nat.le_of_eq (List.length_set ..).symm
  | change | evict | idleLoad | idleKeep => exact Nat.le_refl _

theorem sentBy_of_length_le (beyond : (run {} actions).calls.length ≤ i) : (run {} actions).sentBy i = [] := by
  induction actions using List.reverseRecOn with
  | nil => rfl
  | append_singleton rest a ih =>
    rw [run_append] at beyond ⊢
    have before := Nat.le_trans length_step_le beyond
    exact (sentBy_step_of_length_le before).trans (ih before)

/-- The course of a call since it looked for an entry. It takes the entry and sends nothing, or it
has sent for the metadata as soon as its load has a result. -/
def Course (actions : List Action) (i : Nat) (config : Config) (organization : String) (stage : Stage) : Prop :=
  ∃ before after, actions = before ++ .look config organization :: after ∧ (run {} before).calls.length = i ∧
    match (run {} before).cache.get? organization with
    | some c => stage.answer? = some (.ok c) ∧ (run {} actions).sentBy i = []
    | none =>
      stage = .missed ∧ (run {} actions).sentBy i = [] ∨
        ∃ result, ReadsIn {} actions i config organization result ∧ stage.given? = some result ∧
          (run {} actions).sentBy i = Catalog.asked config organization

theorem Course.concat (course : Course rest i config organization stage)
    (silent : (run {} (rest ++ [a])).sentBy i = (run {} rest).sentBy i) :
    Course (rest ++ [a]) i config organization stage := by
  obtain ⟨before, after, rfl, first, so⟩ := course
  refine ⟨before, after ++ [a], by simp, first, ?_⟩
  rw [silent]
  split at so
  · exact so
  · obtain ⟨missed, quiet⟩ | ⟨result, read, given, sent⟩ := so
    · exact .inl ⟨missed, quiet⟩
    · exact .inr ⟨result, read.concat a, given, sent⟩

theorem course_of_run (here : (run {} actions).calls[i]? = some ⟨config, organization, stage⟩) :
    Course actions i config organization stage := by
  -- By the last action, which leaves the record of the call, begins it or advances it.
  induction actions using List.reverseRecOn generalizing stage with
  | nil => cases here
  | append_singleton rest a ih =>
    rw [run_append] at here
    generalize known : (⟨config, organization, stage⟩ : Retrieval) = call at here
    cases origin_of_step here with
    | before here silent => exact (ih (known ▸ here)).concat (by rwa [run_append])
    | began new =>
      obtain ⟨rfl, rfl, rfl⟩ := Retrieval.mk.inj known
      refine ⟨rest, [], rfl, new.symm, ?_⟩
      have silent : (run {} (rest ++ [.look config organization])).sentBy i = [] := by
        rw [run_append]
        exact sentBy_of_length_le (Nat.le_of_eq new.symm)
      rw [silent, lookup]
      cases (run {} rest).cache.get? organization with
      | some c => exact ⟨rfl, rfl⟩
      | none => exact .inl ⟨rfl, rfl⟩
    | loaded there =>
      obtain ⟨rfl, rfl, rfl⟩ := Retrieval.mk.inj known
      obtain ⟨before, after, rfl, first, so⟩ := ih there
      refine ⟨before, after ++ [.load i], by simp, first, ?_⟩
      split at so
      · cases so.1
      · obtain ⟨-, silent⟩ | ⟨_, _, given, _⟩ := so
        · refine .inr ⟨_, readsIn_concat_load there, Stage.given?_ofLoad _, ?_⟩
          rw [run_append, run_cons, run_nil, step_load_of_missed there, sentBy_afterLoad, silent, if_pos rfl,
            List.nil_append]
        · cases given
    | kept there =>
      obtain ⟨rfl, rfl, rfl⟩ := Retrieval.mk.inj known
      obtain ⟨before, after, rfl, first, so⟩ := ih there
      refine ⟨before, after ++ [.keep i], by simp, first, ?_⟩
      split at so
      · cases so.1
      · obtain ⟨missed, -⟩ | ⟨result, read, given, sent⟩ := so
        · cases missed
        · refine .inr ⟨result, read.concat _, given, ?_⟩
          rw [run_append, run_cons, run_nil, step_keep_of_loaded there]
          exact sent

theorem ReadsIn.organization_eq (read : s.ReadsIn actions i config organization (.ok c)) :
    c.organization = organization := by
  obtain ⟨before, after, _, _, given⟩ := read
  exact Catalog.organization_of_load given

theorem organization_of_entry (present : (run {} actions).cache.get? organization = some c) :
    c.organization = organization := by
  obtain ⟨config, read, -⟩ := (fresh_run own_empty rfl (fun _ _ _ => nofun) actions).entry c present
  exact read.organization_eq

theorem Course.organization_eq (course : Course actions i config organization stage)
    (answered : stage.answer? = some (.ok c)) : c.organization = organization := by
  obtain ⟨before, after, rfl, _, so⟩ := course
  split at so
  · rename_i present
    obtain rfl := Except.ok.inj (Option.some.inj (so.1.symm.trans answered))
    exact organization_of_entry present
  · obtain ⟨rfl, -⟩ | ⟨result, read, given, -⟩ := so
    · cases answered
    · have own : result = .ok c := by
        cases stage with
        | kept | failed => exact Option.some.inj (given.symm.trans answered)
        | found => cases given
        | missed | loaded => cases answered
      exact (own ▸ read).organization_eq

/-- An entry that changes was evicted, or replaced by a call for its organization that ends well. -/
theorem entry_changes {before after : List Action}
    (changed : ((run {} before).step a).cache.get? organization ≠ (run {} before).cache.get? organization) :
    a = .evict organization ∨ ∃ i config c, a = .keep i ∧
      ((run {} before).step a).cache.get? organization = some c ∧
      (run {} (before ++ a :: after)).calls[i]? = some ⟨config, organization, .kept c⟩ := by
  have touched : (run {} before).Touches organization a := by
    by_contra untouched
    exact changed (get?_step_of_not_touches (own_empty.run before) untouched).1
  cases touched with
  | evict => exact .inl rfl
  | @keep i config c here =>
    have kept : ((run {} before).step (.keep i)).calls[i]? = some ⟨config, organization, .kept c⟩ := by
      rw [step_keep_of_loaded here]
      exact List.getElem?_set_self (List.getElem?_eq_some_iff.mp here).1
    refine .inr ⟨i, config, c, rfl, (get?_step_keep (own_empty.run before) here).1, ?_⟩
    rw [run_append, run_cons]
    exact getElem?_run_of_answer after kept rfl

/-- In whatever order the steps of calls come: an entry is what a load gave for its organization,
every call answers with such a catalog and sends for the metadata just if it does not find one, and
nothing but evictions and the calls of an organization that end well does anything to its entry, of
which the last one counts. The steps are those of the cache, for a call that nothing comes between
does what the cache does for it. -/
theorem organizations_kept_apart (actions : List Action) (organization : String) :
    (∀ c, (run {} actions).cache.get? organization = some c → c.organization = organization ∧
      ∃ i config, ReadsIn {} actions i config organization (.ok c)) ∧
    (∀ (i : Nat) config stage, (run {} actions).calls[i]? = some ⟨config, organization, stage⟩ →
      Course actions i config organization stage ∧
      ∀ c, stage.answer? = some (.ok c) → c.organization = organization) ∧
    (∀ before a after, actions = before ++ a :: after →
      ((run {} before).step a).cache.get? organization ≠ (run {} before).cache.get? organization →
      a = .evict organization ∨ ∃ i config c, a = .keep i ∧
        ((run {} before).step a).cache.get? organization = some c ∧
        (run {} actions).calls[i]? = some ⟨config, organization, .kept c⟩) ∧
    (∀ c, (run {} actions).cache.get? organization = some c ↔ LastKept {} actions organization c) ∧
    ∀ config, (run {} actions).Undivided config organization := by
  refine ⟨fun c present => ?_, fun i config stage here => ?_, ?_, fun c => ?_, fun config => undivided _ config _⟩
  · obtain ⟨config, read, -⟩ := (fresh_run own_empty rfl (fun _ _ _ => nofun) actions).entry c present
    exact ⟨read.organization_eq, _, config, read⟩
  · have course := course_of_run here
    exact ⟨course, fun c => course.organization_eq⟩
  · rintro before a after rfl changed
    exact entry_changes changed
  · exact get?_run_iff_lastKept own_empty rfl actions

end Traffic
end Tenancy
