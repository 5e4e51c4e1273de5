import Mathlib.Data.List.Forall2
import Tenancy.Error

/-! Results of checked operations: what a success says about the steps of a sequence, and about the
items of a list that are checked one after the other. -/
namespace Tenancy

variable {ε : Type}

theorem pure_eq_ok (value : α) : (pure value : Except ε α) = .ok value := rfl

theorem ok_bind (value : α) (next : α → Except ε β) : (.ok value >>= next) = next value := rfl

theorem error_bind (error : ε) (next : α → Except ε β) : (.error error >>= next) = .error error := rfl

theorem bind_eq_ok_iff {input : Except ε α} {next : α → Except ε β} {result : β} :
    (input >>= next) = .ok result ↔ ∃ value, input = .ok value ∧ next value = .ok result := by
  cases input <;> simp [bind, Except.bind]

theorem bind_eq_error_iff {input : Except ε α} {next : α → Except ε β} {error : ε} :
    (input >>= next) = .error error ↔
      input = .error error ∨ ∃ value, input = .ok value ∧ next value = .error error := by
  cases input <;> simp [bind, Except.bind]

/-- A check without a result of its own, before the rest. -/
theorem check_bind_eq_ok_iff {check : Except ε Unit} {next : Unit → Except ε α} {result : α} :
    (check >>= next) = .ok result ↔ check = .ok () ∧ next () = .ok result := by
  cases check <;> simp [bind, Except.bind]

theorem pure_eq_ok_iff {value result : α} :
    (pure value : Except ε α) = .ok result ↔ result = value := by
  simp [pure, Except.pure, eq_comm]

theorem map_eq_ok_iff {input : Except ε α} {f : α → β} {result : β} :
    input.map f = .ok result ↔ ∃ value, input = .ok value ∧ result = f value := by
  cases input <;> simp [Except.map, eq_comm]

theorem functor_map_eq_ok_iff {input : Except ε α} {f : α → β} {result : β} :
    f <$> input = .ok result ↔ ∃ value, input = .ok value ∧ result = f value :=
  map_eq_ok_iff

theorem refuse_or_eq_ok_iff {p : Prop} [Decidable p] {kind : DataError.Kind} {cause : DataError.Cause}
    {next : α → Checked β} {rest : Checked β} {result : β} :
    (if p then refuse kind cause >>= next else rest) = .ok result ↔ ¬ p ∧ rest = .ok result := by
  split <;> simp_all [refuse, bind, Except.bind]

theorem eq_error_of_ne_ok {input : Except ε α} (failed : ¬ ∃ value, input = .ok value) :
    ∃ error, input = .error error := by
  cases input with
  | error error => exact ⟨error, rfl⟩
  | ok value => exact absurd ⟨value, rfl⟩ failed

/-- A list passes a check just when every item passes it, and the results stand in its order. -/
theorem mapM_eq_ok_iff {f : α → Except ε β} {items : List α} {results : List β} :
    items.mapM f = .ok results ↔
      List.Forall₂ (fun item result => f item = .ok result) items results := by
  induction items generalizing results with
  | nil => rw [List.mapM_nil, pure_eq_ok_iff, List.forall₂_nil_left_iff]
  | cons item items ih =>
    simp only [List.mapM_cons, bind_eq_ok_iff, pure_eq_ok_iff, List.forall₂_cons_left_iff, ih]
    constructor
    · rintro ⟨result, checked, results, rest, rfl⟩
      exact ⟨result, results, checked, rest, rfl⟩
    · rintro ⟨result, results, checked, rest, rfl⟩
      exact ⟨result, checked, results, rest, rfl⟩

theorem exists_mapM_eq_ok_iff {f : α → Except ε β} {items : List α} :
    (∃ results, items.mapM f = .ok results) ↔ ∀ item ∈ items, ∃ result, f item = .ok result := by
  induction items with
  | nil => simp [pure_eq_ok_iff]
  | cons item items ih =>
    rw [List.forall_mem_cons, ← ih]
    simp only [List.mapM_cons, bind_eq_ok_iff, pure_eq_ok_iff]
    constructor
    · rintro ⟨_, result, checked, results, rest, _⟩
      exact ⟨⟨result, checked⟩, results, rest⟩
    · rintro ⟨⟨result, checked⟩, results, rest⟩
      exact ⟨_, result, checked, results, rest, rfl⟩

/-- The error of a list is that of one of its items. -/
theorem mem_of_mapM_eq_error {f : α → Except ε β} {items : List α} {error : ε}
    (failed : items.mapM f = .error error) : ∃ item ∈ items, f item = .error error := by
  induction items with
  | nil => exact nomatch failed
  | cons item items ih =>
    rw [List.mapM_cons, bind_eq_error_iff] at failed
    obtain first | ⟨_, _, rest⟩ := failed
    · exact ⟨item, List.mem_cons_self, first⟩
    · obtain rest | ⟨_, _, passed⟩ := bind_eq_error_iff.mp rest
      · obtain ⟨other, member, failed⟩ := ih rest
        exact ⟨other, List.mem_cons_of_mem _ member, failed⟩
      · exact nomatch passed

/-- Items and results stand in the same places. -/
theorem getElem?_of_mapM {f : α → Except ε β} {items : List α} {results : List β}
    (checked : items.mapM f = .ok results) (i : Nat) :
    (items[i]? = none ∧ results[i]? = none) ∨
      ∃ item result, items[i]? = some item ∧ results[i]? = some result ∧ f item = .ok result := by
  rw [mapM_eq_ok_iff] at checked
  induction checked generalizing i with
  | nil => exact .inl ⟨rfl, rfl⟩
  | cons first _ ih =>
    cases i with
    | zero => exact .inr ⟨_, _, rfl, rfl, first⟩
    | succ i => exact ih i

/-- A check that computes its result by a function leaves the results of that function. -/
theorem mapM_eq_ok_iff_map {f : α → Except ε β} {Passes : α → Prop} {g : α → β}
    (spec : ∀ item result, f item = .ok result ↔ Passes item ∧ result = g item)
    {items : List α} {results : List β} :
    items.mapM f = .ok results ↔ (∀ item ∈ items, Passes item) ∧ results = items.map g := by
  induction items generalizing results with
  | nil =>
    rw [List.mapM_nil, pure_eq_ok_iff]
    simp
  | cons item items ih =>
    simp only [List.mapM_cons, bind_eq_ok_iff, pure_eq_ok_iff, spec, ih, List.forall_mem_cons,
      List.map_cons]
    constructor
    · rintro ⟨_, ⟨passes, rfl⟩, _, ⟨rest, rfl⟩, rfl⟩
      exact ⟨⟨passes, rest⟩, rfl⟩
    · rintro ⟨⟨passes, rest⟩, rfl⟩
      exact ⟨_, ⟨passes, rfl⟩, _, ⟨rest, rfl⟩, rfl⟩

theorem option_mapM_eq_ok_iff_map {f : α → Except ε β} {Passes : α → Prop} {g : α → β}
    (spec : ∀ item result, f item = .ok result ↔ Passes item ∧ result = g item)
    {item : Option α} {result : Option β} :
    item.mapM f = .ok result ↔ (∀ value ∈ item, Passes value) ∧ result = item.map g := by
  cases item with
  | none =>
    rw [Option.mapM_none, pure_eq_ok_iff]
    simp
  | some value =>
    rw [Option.mapM_some, functor_map_eq_ok_iff]
    simp [spec]

/-- A check of what was read is a check of the results of reading. -/
theorem mapM_bind_eq_ok_iff {f : α → Except ε β} {g : β → Except ε γ} {items : List α} {middle : List β}
    (read : items.mapM f = .ok middle) {results : List γ} :
    items.mapM (fun item => f item >>= g) = .ok results ↔ middle.mapM g = .ok results := by
  rw [mapM_eq_ok_iff] at read
  induction read generalizing results with
  | nil => rfl
  | cons first _ ih => simp only [List.mapM_cons, first, ok_bind, bind_eq_ok_iff, ih]

theorem mapM_map_eq_ok_iff {f : α → Except ε β} {g : β → γ} {items : List α} {results : List γ} :
    items.mapM (fun item => (f item).map g) = .ok results ↔
      ∃ middle, items.mapM f = .ok middle ∧ results = middle.map g := by
  induction items generalizing results with
  | nil => simp [pure_eq_ok_iff]
  | cons item items ih =>
    simp only [List.mapM_cons, bind_eq_ok_iff, map_eq_ok_iff, pure_eq_ok_iff, ih]
    constructor
    · rintro ⟨_, ⟨result, checked, rfl⟩, _, ⟨middle, rest, rfl⟩, rfl⟩
      exact ⟨_, ⟨result, checked, middle, rest, rfl⟩, rfl⟩
    · rintro ⟨_, ⟨result, checked, middle, rest, rfl⟩, rfl⟩
      exact ⟨_, ⟨result, checked, rfl⟩, _, ⟨middle, rest, rfl⟩, rfl⟩

/-! Results that stand in the order of the items they come from. -/

/-- Lists that are alike after a map have their items in common up to the map. -/
theorem exists_of_map_eq {f : α → β} {items items' : List α} (same : items'.map f = items.map f) {item' : α}
    (member : item' ∈ items') : ∃ item ∈ items, f item' = f item := by
  have mapped : f item' ∈ items.map f := same ▸ List.mem_map_of_mem member
  obtain ⟨item, listed, alike⟩ := List.mem_map.mp mapped
  exact ⟨item, listed, alike.symm⟩

theorem map_eq_of_related {Related : α → β → Prop} {f : α → γ} {g : β → γ} {items : List α}
    {results : List β} (related : List.Forall₂ Related items results)
    (each : ∀ item result, Related item result → f item = g result) : items.map f = results.map g := by
  induction related with
  | nil => rfl
  | cons first _ ih => rw [List.map_cons, List.map_cons, each _ _ first, ih]

theorem related_map {P : α → Prop} {f : α → β} {items : List α} (holds : ∀ item ∈ items, P item) :
    List.Forall₂ (fun item result => P item ∧ result = f item) items (items.map f) :=
  List.forall₂_map_right_iff.mpr (List.forall₂_same.mpr fun item member => ⟨holds item member, rfl⟩)

theorem map_eq_map_iff_related {f : α → γ} {g : β → γ} {items : List α} {results : List β} :
    items.map f = results.map g ↔ List.Forall₂ (fun item result => f item = g result) items results := by
  rw [← List.forall₂_eq_eq_eq, List.forall₂_map_left_iff, List.forall₂_map_right_iff]

/-- Items are related as their results tell. -/
theorem map_results_eq_iff {Related : α → β → Prop} {Alike : α → α → Prop} {f : β → γ} {items items' : List α}
    {results results' : List β} (related : List.Forall₂ Related items results)
    (related' : List.Forall₂ Related items' results')
    (each : ∀ item result item' result', Related item result → Related item' result' →
      (f result = f result' ↔ Alike item item')) :
    results.map f = results'.map f ↔ List.Forall₂ Alike items items' := by
  induction related generalizing items' results' with
  | nil => cases related' <;> simp
  | cons first _ ih =>
    cases related' with
    | nil => simp
    | cons first' rest' =>
      simp only [List.map_cons, List.cons.injEq, List.forall₂_cons, each _ _ _ _ first first', ih rest']

/-- Results that only depend on what two lists have in common are themselves alike. -/
theorem map_results_eq {Related : α → β → Prop} {f : α → γ} {g : β → δ} {items items' : List α}
    {results results' : List β} (related : List.Forall₂ Related items results)
    (related' : List.Forall₂ Related items' results') (same : items'.map f = items.map f)
    (each : ∀ item result item' result', Related item result → Related item' result' → f item' = f item →
      g result' = g result) : results'.map g = results.map g := by
  induction related generalizing items' results' with
  | nil =>
    obtain rfl := List.map_eq_nil_iff.mp same
    cases related'
    rfl
  | cons first _ ih =>
    cases related' with
    | nil => cases same
    | cons first' rest' =>
      obtain ⟨sameFirst, sameRest⟩ := List.cons.inj same
      rw [List.map_cons, List.map_cons, each _ _ _ _ first first' sameFirst, ih rest' sameRest]

/-- What each of the results says alike is said where there is a result. -/
theorem forall_results_iff {Related : α → β → Prop} {P : β → Prop} {Q : Prop} {items : List α}
    {results : List β} (related : List.Forall₂ Related items results)
    (each : ∀ item result, Related item result → (P result ↔ Q)) :
    (∀ result ∈ results, P result) ↔ (items ≠ [] → Q) := by
  induction related with
  | nil => simp
  | cons first _ ih =>
    rw [List.forall_mem_cons, each _ _ first, ih]
    simp only [ne_eq, reduceCtorEq, not_false_eq_true, true_imp_iff, and_iff_left_iff_imp]
    exact fun holds _ => holds

end Tenancy
