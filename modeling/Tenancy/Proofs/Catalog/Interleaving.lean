import Mathlib.Data.List.Induction
import Mathlib.Logic.Function.Basic
import Tenancy.Proofs.Catalog.Loading
import Tenancy.Proofs.Entity.Columns
import Tenancy.Store.Tenant

/-! Calls for catalogs that run side by side. A call looks for a kept catalog, loads one if there is
none, and keeps what it loaded. Each of these is a step of its own, and steps of other calls,
evictions and changes of the metadata come in between in any order. The steps of a call that nothing
comes between do together what `getOrLoad` does. -/
namespace Tenancy

namespace Catalog

/-- The statements that a load of the catalog of an organization sends. -/
def asked (config : Config) (organization : String) : List String :=
  if organization.isEmpty then []
  else
    match metadataSql config organization with
    | .ok sql => [sql]
    | .error _ => []

theorem received_load (config : Config) (organization : String) (b : Backend) :
    (load config organization b).2.received = b.received ++ asked config organization := by
  rw [load, asked]
  split
  · exact (List.append_nil _).symm
  · cases metadataSql config organization with
    | error error => exact (List.append_nil _).symm
    | ok sql =>
      have received := b.execute_received sql
      dsimp only
      rcases executed : b.execute sql with ⟨reply, after⟩
      rw [executed] at received
      cases reply <;> exact received

/-- What was sent before has no influence on what a load gives. -/
theorem load_of_received (config : Config) (organization : String) (queued : List Reply) (received : List String) :
    (load config organization ⟨queued, received⟩).1 = (load config organization ⟨queued, []⟩).1 := by
  rw [load, load]
  split
  · rfl
  · cases metadataSql config organization with
    | error error => rfl
    | ok sql => rcases queued with _ | ⟨rows | error, queued⟩ <;> rfl

end Catalog

/-- How far a call for the catalog of an organization has come. -/
inductive Stage where
  /-- A catalog was there, which another call had kept. -/
  | found (keeper : Nat) (c : Catalog)
  | missed
  | loaded (c : Catalog)
  | failed (error : DataError)
  | kept (c : Catalog)

namespace Stage

/-- What the call answers, once it has come to its end. -/
def answer? : Stage → Option (Checked Catalog)
  | .found _ c | .kept c => some (.ok c)
  | .failed error => some (.error error)
  | .missed | .loaded _ => none

/-- What the load of the call has given. -/
def given? : Stage → Option (Checked Catalog)
  | .loaded c | .kept c => some (.ok c)
  | .failed error => some (.error error)
  | .found _ _ | .missed => none

def ofLoad : Checked Catalog → Stage
  | .ok c => .loaded c
  | .error error => .failed error

theorem given?_ofLoad (result : Checked Catalog) : (ofLoad result).given? = some result := by
  cases result <;> rfl

end Stage

/-- A call for the catalog of an organization. -/
structure Retrieval where
  config : Config
  organization : String
  stage : Stage

inductive Action where
  /-- The metadata of an organization is answered in another way from now on. -/
  | change (organization : String) (reply : Reply)
  | look (config : Config) (organization : String)
  | load (call : Nat)
  | keep (call : Nat)
  | evict (organization : String)

/-- A cache of catalogs with all calls that were made for it, in the order in which they began. -/
structure Traffic where
  cache : CatalogCache := ∅
  /-- Which call kept the entry of an organization, if there is an entry. -/
  keeper : String → Nat := fun _ => 0
  metadata : String → Reply := fun _ => .rows []
  calls : List Retrieval := []
  /-- The statements received so far, each with the call that sent it. -/
  received : List (Nat × String) := []

namespace Traffic

open Function (update)

def lookup (s : Traffic) (organization : String) : Stage :=
  match s.cache.get? organization with
  | some c => .found (s.keeper organization) c
  | none => .missed

/-- What a load gives now, and what it sends. -/
def load (s : Traffic) (config : Config) (organization : String) : Checked Catalog × Backend :=
  Catalog.load config organization ⟨[s.metadata organization], []⟩

def afterLoad (s : Traffic) (i : Nat) (config : Config) (organization : String) : Traffic :=
  { s with
    calls := s.calls.set i ⟨config, organization, .ofLoad (s.load config organization).1⟩
    received := s.received ++ (s.load config organization).2.received.map (i, ·) }

def afterKeep (s : Traffic) (i : Nat) (config : Config) (organization : String) (c : Catalog) : Traffic :=
  { s with
    cache := s.cache.keep c
    keeper := update s.keeper c.organization i
    calls := s.calls.set i ⟨config, organization, .kept c⟩ }

/-- Steps for which a call is not ready do nothing. -/
def step (s : Traffic) : Action → Traffic
  | .change organization reply => { s with metadata := update s.metadata organization reply }
  | .look config organization =>
    { s with calls := s.calls ++ [⟨config, organization, s.lookup organization⟩] }
  | .load i =>
    match s.calls[i]? with
    | some ⟨config, organization, .missed⟩ => s.afterLoad i config organization
    | _ => s
  | .keep i =>
    match s.calls[i]? with
    | some ⟨config, organization, .loaded c⟩ => s.afterKeep i config organization c
    | _ => s
  | .evict organization => { s with cache := (s.cache.evict organization).2 }

def run (s : Traffic) (actions : List Action) : Traffic := actions.foldl step s

/-- The statements that a call has sent. -/
def sentBy (s : Traffic) (i : Nat) : List String := (s.received.filter (·.1 = i)).map (·.2)

variable {s : Traffic} {a : Action} {i : Nat} {config : Config} {organization : String} {c : Catalog} {stage : Stage}

@[simp] theorem run_nil (s : Traffic) : s.run [] = s := rfl

@[simp] theorem run_cons (s : Traffic) (a : Action) (rest : List Action) : s.run (a :: rest) = (s.step a).run rest :=
  rfl

@[simp] theorem run_append (s : Traffic) (before after : List Action) :
    s.run (before ++ after) = (s.run before).run after := List.foldl_append ..

/-! What a step can do. -/

theorem step_load_of_missed (here : s.calls[i]? = some ⟨config, organization, .missed⟩) :
    s.step (.load i) = s.afterLoad i config organization := by
  rw [step, here]

theorem step_keep_of_loaded (here : s.calls[i]? = some ⟨config, organization, .loaded c⟩) :
    s.step (.keep i) = s.afterKeep i config organization c := by
  rw [step, here]

inductive Steps (s : Traffic) : Action → Traffic → Prop
  | change {organization : String} {reply : Reply} :
      s.Steps (.change organization reply) { s with metadata := update s.metadata organization reply }
  | look {config : Config} {organization : String} : s.Steps (.look config organization)
      { s with calls := s.calls ++ [⟨config, organization, s.lookup organization⟩] }
  | load {i : Nat} {config : Config} {organization : String}
      (here : s.calls[i]? = some ⟨config, organization, .missed⟩) :
      s.Steps (.load i) (s.afterLoad i config organization)
  | keep {i : Nat} {config : Config} {organization : String} {c : Catalog}
      (here : s.calls[i]? = some ⟨config, organization, .loaded c⟩) :
      s.Steps (.keep i) (s.afterKeep i config organization c)
  | evict {organization : String} :
      s.Steps (.evict organization) { s with cache := (s.cache.evict organization).2 }
  | idleLoad {i : Nat} : s.Steps (.load i) s
  | idleKeep {i : Nat} (idle : ∀ config organization c, s.calls[i]? ≠ some ⟨config, organization, .loaded c⟩) :
      s.Steps (.keep i) s

theorem steps (s : Traffic) (a : Action) : s.Steps a (s.step a) := by
  cases a with
  | change organization reply => exact .change
  | look config organization => exact .look
  | load i =>
    rw [step]
    split
    · rename_i here
      exact .load here
    · exact .idleLoad
  | keep i =>
    rw [step]
    split
    · rename_i here
      exact .keep here
    · rename_i idle
      exact .idleKeep fun config organization c here => idle config organization c here
  | evict organization => exact .evict

theorem sentBy_afterLoad (s : Traffic) (i j : Nat) (config : Config) (organization : String) :
    (s.afterLoad j config organization).sentBy i =
      s.sentBy i ++ if j = i then Catalog.asked config organization else [] := by
  have sent : (s.load config organization).2.received = Catalog.asked config organization :=
    Catalog.received_load ..
  rw [sentBy, afterLoad, sent, List.filter_append, List.map_append, ← sentBy]
  split
  · rename_i same
    simp [List.filter_map, Function.comp_def, same]
  · rename_i different
    simp [List.filter_map, Function.comp_def, different]

/-- Where the record of a call after a step comes from. -/
inductive Origin (s : Traffic) (i : Nat) : Action → Retrieval → Prop
  | before {a : Action} {call : Retrieval} (here : s.calls[i]? = some call)
      (silent : (s.step a).sentBy i = s.sentBy i) : s.Origin i a call
  | began {config : Config} {organization : String} (new : i = s.calls.length) :
      s.Origin i (.look config organization) ⟨config, organization, s.lookup organization⟩
  | loaded {config : Config} {organization : String} (here : s.calls[i]? = some ⟨config, organization, .missed⟩) :
      s.Origin i (.load i) ⟨config, organization, .ofLoad (s.load config organization).1⟩
  | kept {config : Config} {organization : String} {c : Catalog}
      (here : s.calls[i]? = some ⟨config, organization, .loaded c⟩) :
      s.Origin i (.keep i) ⟨config, organization, .kept c⟩

theorem getElem?_set_cases {calls : List Retrieval} {j : Nat} {new call : Retrieval}
    (after : (calls.set j new)[i]? = some call) : j ≠ i ∧ calls[i]? = some call ∨ j = i ∧ call = new := by
  rw [List.getElem?_set] at after
  split at after
  · rename_i same
    split at after
    · exact .inr ⟨same, (Option.some.inj after).symm⟩
    · cases after
  · rename_i different
    exact .inl ⟨different, after⟩

theorem origin_of_step {call : Retrieval} (after : (s.step a).calls[i]? = some call) : s.Origin i a call := by
  have taken := s.steps a
  generalize moved : s.step a = s' at taken after
  cases taken with
  | change => exact .before after rfl
  | look =>
    rw [List.getElem?_append] at after
    split at after
    · exact .before after rfl
    · rename_i beyond
      rw [List.getElem?_singleton] at after
      split at after
      · obtain rfl := Option.some.inj after
        exact .began (by omega)
      · cases after
  | load here =>
    obtain ⟨different, before⟩ | ⟨rfl, rfl⟩ := getElem?_set_cases after
    · refine .before before ?_
      rw [moved, sentBy_afterLoad, if_neg different, List.append_nil]
    · exact .loaded here
  | keep here =>
    obtain ⟨_, before⟩ | ⟨rfl, rfl⟩ := getElem?_set_cases after
    · refine .before before ?_
      rw [moved]
      rfl
    · exact .kept here
  | evict => exact .before after rfl
  | idleLoad | idleKeep => exact .before after (by rw [moved])

/-- What a call has answered stays. -/
theorem getElem?_step_of_answer {call : Retrieval} {result : Checked Catalog} (here : s.calls[i]? = some call)
    (answered : call.stage.answer? = some result) : (s.step a).calls[i]? = some call := by
  have unanswered {j : Nat} {other new : Retrieval} (there : s.calls[j]? = some other)
      (open' : other.stage.answer? = none) : (s.calls.set j new)[i]? = some call := by
    have different : j ≠ i := by
      rintro rfl
      obtain rfl := Option.some.inj (here.symm.trans there)
      rw [open'] at answered
      cases answered
    rw [List.getElem?_set_ne different, here]
  have taken := s.steps a
  generalize s.step a = s' at taken
  cases taken with
  | look => exact (List.getElem?_append_left (List.getElem?_eq_some_iff.mp here).1).trans here
  | load there => exact unanswered there rfl
  | keep there => exact unanswered there rfl
  | change | evict | idleLoad | idleKeep => exact here

theorem getElem?_run_of_answer {call : Retrieval} {result : Checked Catalog} (actions : List Action)
    (here : s.calls[i]? = some call) (answered : call.stage.answer? = some result) :
    (s.run actions).calls[i]? = some call := by
  induction actions generalizing s with
  | nil => exact here
  | cons a rest ih => exact ih (getElem?_step_of_answer here answered)

/-- A call that has answered does nothing more. -/
theorem step_of_answer {call : Retrieval} {result : Checked Catalog} (here : s.calls[i]? = some call)
    (answered : call.stage.answer? = some result) : s.step (.load i) = s ∧ s.step (.keep i) = s := by
  obtain ⟨config, organization, stage⟩ := call
  cases stage with
  | found | failed | kept =>
    rw [step, step, here]
    exact ⟨rfl, rfl⟩
  | missed | loaded => cases answered

/-- A call whose load has a result keeps it, if it is a catalog, and answers with it. -/
theorem step_keep_of_ofLoad {result : Checked Catalog}
    (here : s.calls[i]? = some ⟨config, organization, .ofLoad result⟩) :
    ∃ stage, stage.answer? = some result ∧ (s.step (.keep i)).calls = s.calls.set i ⟨config, organization, stage⟩ ∧
      (s.step (.keep i)).received = s.received ∧ (s.step (.keep i)).cache = s.cache.keepLoaded result := by
  cases result with
  | error error =>
    obtain ⟨inRange, same⟩ := List.getElem?_eq_some_iff.mp here
    rw [(step_of_answer here rfl).2]
    exact ⟨_, rfl, by rw [← same, List.set_getElem_self], rfl, rfl⟩
  | ok c =>
    rw [step_keep_of_loaded here]
    exact ⟨_, rfl, rfl, rfl, rfl⟩

/-- The steps of a new call one after the other. -/
def afterCall (s : Traffic) (config : Config) (organization : String) : Traffic :=
  s.run [.look config organization, .load s.calls.length, .keep s.calls.length]

/-- What the cache does for a call, with the metadata as they are now. -/
def getOrLoad (s : Traffic) (config : Config) (organization : String) : Checked Catalog × CatalogCache × Backend :=
  s.cache.getOrLoad config organization ⟨[s.metadata organization], s.received.map (·.2)⟩

/-- A call that nothing comes between answers, keeps and sends what the cache does for it. -/
structure Undivided (s : Traffic) (config : Config) (organization : String) : Prop where
  answer : ∃ stage, (s.afterCall config organization).calls = s.calls ++ [⟨config, organization, stage⟩] ∧
    stage.answer? = some (s.getOrLoad config organization).1
  cache : (s.afterCall config organization).cache = (s.getOrLoad config organization).2.1
  received : (s.afterCall config organization).received.map (·.2) = (s.getOrLoad config organization).2.2.received

theorem getElem?_step_look (s : Traffic) (config : Config) (organization : String) :
    (s.step (.look config organization)).calls[s.calls.length]? =
      some ⟨config, organization, s.lookup organization⟩ := List.getElem?_concat_length

theorem afterCall_eq (s : Traffic) (config : Config) (organization : String) : s.afterCall config organization =
    ((s.step (.look config organization)).step (.load s.calls.length)).step (.keep s.calls.length) := rfl

theorem undivided_of_present (present : s.cache.get? organization = some c) : s.Undivided config organization := by
  have looked : s.lookup organization = .found (s.keeper organization) c := by rw [lookup, present]
  have begun := s.getElem?_step_look config organization
  rw [looked] at begun
  have alone : s.afterCall config organization = s.step (.look config organization) := by
    rw [afterCall_eq, (step_of_answer begun rfl).1, (step_of_answer begun rfl).2]
  have given : s.getOrLoad config organization =
      (.ok c, s.cache, ⟨[s.metadata organization], s.received.map (·.2)⟩) := by
    rw [getOrLoad, CatalogCache.getOrLoad, present]
  constructor
  · rw [alone, given]
    exact ⟨s.lookup organization, rfl, congrArg Stage.answer? looked⟩
  · rw [alone, given]
    rfl
  · rw [alone, given]
    rfl

theorem undivided_of_absent (absent : s.cache.get? organization = none) : s.Undivided config organization := by
  have looked : s.lookup organization = .missed := by rw [lookup, absent]
  have begun := s.getElem?_step_look config organization
  rw [looked] at begun
  have loaded : ((s.step (.look config organization)).afterLoad s.calls.length config organization).calls[
      s.calls.length]? = some ⟨config, organization, .ofLoad (s.load config organization).1⟩ :=
    List.getElem?_set_self (List.getElem?_eq_some_iff.mp begun).1
  have alone : s.afterCall config organization =
      ((s.step (.look config organization)).afterLoad s.calls.length config organization).step
        (.keep s.calls.length) := by
    rw [afterCall_eq, step_load_of_missed begun]
  obtain ⟨stage, answered, calls, received, cache⟩ := step_keep_of_ofLoad loaded
  rw [← alone] at calls received cache
  have result := Catalog.load_of_received config organization [s.metadata organization] (s.received.map (·.2))
  have given := CatalogCache.getOrLoad_of_absent config ⟨[s.metadata organization], s.received.map (·.2)⟩ absent
  rw [result] at given
  constructor
  · rw [getOrLoad, given, calls]
    exact ⟨stage, by simp [afterLoad, step], answered⟩
  · rw [getOrLoad, given, cache]
    rfl
  · rw [getOrLoad, given, received, Catalog.received_load]
    simp [afterLoad, step, load, Catalog.received_load, Function.comp_def]

theorem undivided (s : Traffic) (config : Config) (organization : String) : s.Undivided config organization := by
  cases present : s.cache.get? organization with
  | some c => exact undivided_of_present present
  | none => exact undivided_of_absent present

/-! What a step does to the entry of an organization. -/

/-- Catalogs that wait to be kept are of the organizations of their calls. -/
def Own (s : Traffic) : Prop :=
  ∀ (i : Nat) (config : Config) (organization : String) (c : Catalog),
    s.calls[i]? = some ⟨config, organization, .loaded c⟩ → c.organization = organization

theorem own_empty : Own {} := fun _ _ _ _ here => nomatch here

theorem Own.step (own : s.Own) (a : Action) : (s.step a).Own := by
  intro i config organization c after
  generalize known : (⟨config, organization, .loaded c⟩ : Retrieval) = call at after
  cases origin_of_step after with
  | before here => exact own i config organization c (known ▸ here)
  | began =>
    obtain ⟨rfl, rfl, looked⟩ := Retrieval.mk.inj known
    rw [lookup] at looked
    split at looked <;> cases looked
  | loaded here =>
    obtain ⟨rfl, rfl, given⟩ := Retrieval.mk.inj known
    have loaded := congrArg Stage.given? given
    rw [Stage.given?_ofLoad] at loaded
    exact Catalog.organization_of_load (Option.some.inj loaded).symm
  | kept => cases known

theorem Own.run (own : s.Own) (actions : List Action) : (s.run actions).Own := by
  induction actions generalizing s with
  | nil => exact own
  | cons a rest ih => exact ih (own.step a)

/-- The actions that do something to the entry of an organization. -/
inductive Touches (s : Traffic) (organization : String) : Action → Prop
  | evict : s.Touches organization (.evict organization)
  | keep {i : Nat} {config : Config} {c : Catalog} (here : s.calls[i]? = some ⟨config, organization, .loaded c⟩) :
      s.Touches organization (.keep i)

theorem get?_step_evict : (s.step (.evict organization)).cache.get? organization = none :=
  (OrderedMap.get?_erase ..).trans (if_pos rfl)

theorem get?_step_keep (own : s.Own) (here : s.calls[i]? = some ⟨config, organization, .loaded c⟩) :
    (s.step (.keep i)).cache.get? organization = some c ∧ (s.step (.keep i)).keeper organization = i := by
  obtain rfl := own _ _ _ _ here
  rw [step_keep_of_loaded here]
  exact ⟨OrderedMap.get?_insert_self .., Function.update_self ..⟩

theorem get?_step_of_not_touches (own : s.Own) (untouched : ¬ s.Touches organization a) :
    (s.step a).cache.get? organization = s.cache.get? organization ∧
      (s.step a).keeper organization = s.keeper organization := by
  have taken := s.steps a
  generalize s.step a = s' at taken
  cases taken with
  | @keep i config other c here =>
    have different : organization ≠ c.organization := by
      rintro rfl
      exact untouched (.keep (own _ _ _ _ here ▸ here))
    exact ⟨OrderedMap.get?_insert_ne _ different _, Function.update_of_ne different ..⟩
  | @evict other =>
    have different : organization ≠ other := by
      rintro rfl
      exact untouched .evict
    exact ⟨(OrderedMap.get?_erase ..).trans (if_neg different), rfl⟩
  | change | look | load | idleLoad | idleKeep => exact ⟨rfl, rfl⟩

/-- None of the actions does anything to the entry of an organization. -/
def Untouched (organization : String) : Traffic → List Action → Prop
  | _, [] => True
  | s, a :: rest => ¬ s.Touches organization a ∧ Untouched organization (s.step a) rest

theorem untouched_concat {s : Traffic} {rest : List Action} :
    s.Untouched organization (rest ++ [a]) ↔
      s.Untouched organization rest ∧ ¬ (s.run rest).Touches organization a := by
  induction rest generalizing s with
  | nil => simp [Untouched]
  | cons first rest ih => simp only [List.cons_append, Untouched, ih, run_cons, and_assoc]

theorem get?_run_of_untouched {actions : List Action} (own : s.Own) (untouched : s.Untouched organization actions) :
    (s.run actions).cache.get? organization = s.cache.get? organization := by
  induction actions generalizing s with
  | nil => rfl
  | cons a rest ih =>
    obtain ⟨first, others⟩ := untouched
    exact (ih (own.step a) others).trans (get?_step_of_not_touches own first).1

/-- What was last done to the entry of an organization is that a call kept the catalog. -/
def LastKept (s : Traffic) (actions : List Action) (organization : String) (c : Catalog) : Prop :=
  ∃ before i config after, actions = before ++ .keep i :: after ∧
    (s.run before).calls[i]? = some ⟨config, organization, .loaded c⟩ ∧
    ((s.run before).step (.keep i)).Untouched organization after

theorem get?_run_iff_lastKept (own : s.Own) (clean : s.cache.get? organization = none) (actions : List Action) :
    (s.run actions).cache.get? organization = some c ↔ s.LastKept actions organization c := by
  constructor
  · intro present
    induction actions using List.reverseRecOn with
    | nil =>
      rw [run_nil, clean] at present
      cases present
    | append_singleton rest a ih =>
      rw [run_append, run_cons, run_nil] at present
      by_cases touched : (s.run rest).Touches organization a
      · cases touched with
        | evict =>
          rw [get?_step_evict] at present
          cases present
        | keep here =>
          rw [(get?_step_keep (own.run rest) here).1] at present
          obtain rfl := Option.some.inj present
          exact ⟨rest, _, _, [], rfl, here, trivial⟩
      · rw [(get?_step_of_not_touches (own.run rest) touched).1] at present
        obtain ⟨before, i, config, after, rfl, here, untouched⟩ := ih present
        refine ⟨before, i, config, after ++ [a], by simp, here, untouched_concat.mpr ⟨untouched, ?_⟩⟩
        simpa using touched
  · rintro ⟨before, i, config, after, rfl, here, untouched⟩
    have kept := (get?_step_keep (own.run before) here).1
    rw [run_append, run_cons, get?_run_of_untouched ((own.run before).step _) untouched, kept]

end Traffic
end Tenancy
