import Tenancy.Proofs.Catalog.Loading
import Tenancy.Proofs.Store.Faults

/-! Validation and sending. What an operation of a store refuses by itself it refuses before it sends
anything, and what fails later is no validation error. There is one exception: that an organization is
unknown is found out by asking for its metadata. -/
namespace Tenancy

/-- The failures that a backend has of its own are those of the connection and of the database. -/
def Backend.Sincere (b : Backend) : Prop :=
  ∀ error, .failure error ∈ b.queued → error.kind = .connection ∨ error.kind = .sql

/-- A result that is a validation error was settled with nothing sent. -/
def Refuses {α : Type} (b : Backend) (result : Checked α) (b' : Backend) : Prop :=
  ∀ error, result = .error error → error.isValidation = true → b'.received = b.received

section

variable {α β : Type} {b b' : Backend} {result : Checked α}

theorem Refuses.unsent : Refuses b result b := fun _ _ _ => rfl

theorem Refuses.of_errors (others : ∀ error, result = .error error → error.isValidation = false) :
    Refuses b result b' := by
  intro error failed validation
  rw [others error failed] at validation
  cases validation

theorem Refuses.ok {value : α} : Refuses b (.ok value) b' := fun _ failed => nomatch failed

/-- Of a failure only the error counts. -/
theorem Refuses.error {error : DataError} (refuses : Refuses b (.error error : Checked α) b') :
    Refuses b (.error error : Checked β) b' :=
  fun error' failed => refuses error' (congrArg Except.error (Except.error.inj failed))

theorem refuses_map_iff (f : α → β) : Refuses b (result.map f) b' ↔ Refuses b result b' := by
  cases result with
  | error error => exact ⟨Refuses.error, Refuses.error⟩
  | ok value => exact iff_of_true .ok .ok

end

namespace Backend

variable {b : Backend} {statements : List String} {error : DataError}

theorem Sincere.after (sincere : b.Sincere) (sql : String) : (b.after sql).Sincere :=
  fun error member => sincere error (List.mem_of_mem_tail member)

theorem Sincere.not_isValidation (sincere : b.Sincere) (failed : b.next = .failure error) :
    error.isValidation = false := by
  have member : Reply.failure error ∈ b.queued := by
    rw [next] at failed
    cases queued : b.queued with
    | nil =>
      rw [queued] at failed
      cases failed
    | cons reply rest =>
      rw [queued] at failed
      exact List.mem_cons.mpr (.inl failed.symm)
  obtain kind | kind := sincere error member <;> rw [DataError.isValidation, kind] <;> rfl

theorem executeAll_error (sincere : b.Sincere) (failed : (b.executeAll statements).1 = .error error) :
    error.isValidation = false := by
  induction statements generalizing b with
  | nil => cases failed
  | cons sql rest ih =>
    rw [executeAll, execute_eq] at failed
    cases answered : b.next with
    | failure error' =>
      rw [answered] at failed
      obtain rfl := Except.error.inj failed
      exact sincere.not_isValidation answered
    | rows rows =>
      rw [answered] at failed
      dsimp only at failed
      have later := @ih (b.after sql) (sincere.after sql)
      generalize (b.after sql).executeAll rest = executed at failed later
      obtain ⟨error' | more, last⟩ := executed
      · obtain rfl := Except.error.inj failed
        exact later rfl
      · cases failed

end Backend

/-- Rows that do not answer a statement are no validation error. -/
theorem send_error {w : Writing} {requests : List (Option Request)} {us : List Uncached} {b : Backend}
    {error : DataError} (sincere : b.Sincere)
    (complaints : ∀ request, some request ∈ requests → ∀ rows, (request.complaint rows).isValidation = false)
    (failed : (send w requests us b).result = .error error) : error.isValidation = false := by
  induction requests generalizing us b with
  | nil => cases failed
  | cons request requests ih =>
    have later : ∀ request, some request ∈ requests → ∀ rows, (request.complaint rows).isValidation = false :=
      fun request member => complaints request (List.mem_cons_of_mem _ member)
    cases us with
    | nil => cases request <;> cases failed
    | cons u rest =>
      cases request with
      | none => exact ih sincere later failed
      | some request =>
        cases given : w.row? b.next with
        | some row =>
          rw [send_row given] at failed
          exact ih (sincere.after _) later failed
        | none =>
          rw [send_missing given] at failed
          obtain rfl := Except.error.inj failed
          cases answered : b.next with
          | rows rows => exact complaints request List.mem_cons_self rows
          | failure error => exact sincere.not_isValidation answered

namespace Tenant

variable {t : Tenant} {b : Backend}

theorem sendInserts_refuses (sincere : b.Sincere) (table : String) (statements : List String)
    (entities : List Entity) : Refuses b (sendInserts table statements entities b).result
      (sendInserts table statements entities b).backend := by
  apply Refuses.of_errors
  intro error failed
  have sent := congrArg Sent.result (sendInserts_sent table statements entities b)
  refine send_error sincere ?_ (sent.symm.trans failed)
  intro request member rows
  obtain ⟨sql, _, same⟩ := List.mem_map.mp member
  obtain rfl := Option.some.inj same
  rfl

theorem complaint_of_changeRequests {plans : List (Option RecordId)} {statements : List String} {request : Request}
    (member : some request ∈ changeRequests plans statements) (rows : List Record) :
    (request.complaint rows).isValidation = false := by
  induction plans generalizing statements with
  | nil => cases member
  | cons plan plans ih =>
    cases plan with
    | none =>
      obtain same | member := List.mem_cons.mp member
      · cases same
      · exact ih member
    | some id =>
      cases statements with
      | nil => cases member
      | cons sql statements =>
        obtain same | member := List.mem_cons.mp member
        · obtain rfl := Option.some.inj same
          rfl
        · exact ih member

theorem sendChanges_refuses (sincere : b.Sincere) (plans : List (Option RecordId)) (statements : List String)
    (entities : List Entity) : Refuses b (sendChanges plans statements entities b).result
      (sendChanges plans statements entities b).backend := by
  apply Refuses.of_errors
  intro error failed
  have sent := congrArg Sent.result (sendChanges_sent (w := .update) (by decide) plans statements entities b)
  exact send_error sincere (fun request => complaint_of_changeRequests) (sent.symm.trans failed)

/-- The checks of a batch come before its first statement. -/
theorem write_refuses (t : Tenant) (w : Writing) (entities : List Entity) (sincere : b.Sincere) :
    Refuses b (t.write w entities b).result (t.write w entities b).backend := by
  cases w with
  | insert =>
    rw [write, insert]
    split
    · exact .unsent
    · exact .unsent
    · split
      · exact .unsent
      · split
        · exact .unsent
        · exact sendInserts_refuses sincere _ _ _
  | update =>
    rw [write, update]
    split
    · exact .unsent
    · exact .unsent
    · split
      · exact .unsent
      · split
        · exact .unsent
        · dsimp only
          split
          · exact .unsent
          · exact sendChanges_refuses sincere _ _ _
  | delete =>
    rw [write, delete]
    split
    · exact .unsent
    · exact .unsent
    · split
      · exact .unsent
      · split
        · exact .unsent
        · split
          · exact .unsent
          · exact sendChanges_refuses sincere _ _ _

theorem query_refuses (t : Tenant) (query : Query) (sincere : b.Sincere) :
    Refuses b (t.query query b).1 (t.query query b).2 := by
  rw [Tenant.query]
  split
  · exact .unsent
  · exact .of_errors fun error => Backend.executeAll_error sincere

theorem all_refuses (t : Tenant) (selection : Selection) (sincere : b.Sincere) :
    Refuses b (t.all selection b).1 (t.all selection b).2 := by
  rw [all]
  split
  · exact .unsent
  · have queried := t.query_refuses selection.toQuery sincere
    split
    · rename_i answered
      rw [answered] at queried
      exact queried.error
    · exact .ok

theorem countOfRows_error {rows : List Record} {error : DataError} (failed : countOfRows rows = .error error) :
    error.isValidation = false := by
  rw [countOfRows] at failed
  split at failed
  · obtain rfl := Except.error.inj failed
    rfl
  · split at failed
    · cases failed
    · obtain rfl := Except.error.inj failed
      rfl

theorem count_refuses (t : Tenant) (selection : Selection) (sincere : b.Sincere) :
    Refuses b (t.count selection b).1 (t.count selection b).2 := by
  rw [count]
  have queried := t.query_refuses selection.toCountQuery sincere
  split
  · rename_i answered
    rw [answered] at queried
    exact queried.error
  · exact .of_errors fun error => countOfRows_error

end Tenant

/-! What is wrong with metadata is no validation error, unless there are none. -/

namespace Catalog

variable {c : Catalog} {rows : List Record} {error : DataError}

theorem extendTable_error {t : CatalogTable} {row : Record} (failed : extendTable t row = .error error) :
    error.kind = .invalidResponse := by
  rw [extendTable] at failed
  split at failed
  · rw [CatalogTable.addColumn] at failed
    split at failed
    · obtain rfl := Except.error.inj failed
      rfl
    · cases failed
  · cases failed
  · obtain rfl := Except.error.inj failed
    rfl

theorem addRow_error {row : Record} (failed : c.addRow row = .error error) : error.kind = .invalidResponse := by
  rw [addRow] at failed
  split at failed
  · cases failed
  · obtain failed | ⟨table, _, added⟩ := bind_eq_error_iff.mp failed
    · exact extendTable_error failed
    · cases added

theorem addRows_error (failed : rows.foldlM addRow c = .error error) : error.kind = .invalidResponse := by
  induction rows generalizing c with
  | nil => cases failed
  | cons row rows ih =>
    rw [List.foldlM_cons] at failed
    obtain first | ⟨next, _, rest⟩ := bind_eq_error_iff.mp failed
    · exact addRow_error first
    · exact ih rest

theorem ofRows_error {idColumn organization : String} {first : Record}
    (failed : ofRows idColumn organization (first :: rows) = .error error) : error.isValidation = false := by
  obtain failed | ⟨grouped, _, made⟩ := bind_eq_error_iff.mp failed
  · rw [DataError.isValidation, addRows_error failed]
    rfl
  · cases made

/-- The metadata of an organization are asked for, and there are none. -/
def FindsNone (config : Config) (organization : String) (b : Backend) : Prop :=
  organization ≠ "" ∧ (∃ sql, metadataSql config organization = .ok sql) ∧ b.next = .rows []

theorem load_refuses_iff {config : Config} {organization : String} {b : Backend} (sincere : b.Sincere) :
    Refuses b (load config organization b).1 (load config organization b).2 ↔
      ¬ FindsNone config organization b := by
  by_cases empty : organization = ""
  · have unasked : ¬ FindsNone config organization b := fun finds => finds.1 empty
    rw [iff_true_right unasked, load, if_pos (String.isEmpty_iff.mpr empty)]
    exact .unsent
  have given : ¬ organization.isEmpty = true := mt String.isEmpty_iff.mp empty
  rw [load, if_neg given]
  cases asked : metadataSql config organization with
  | error error =>
    have unasked : ¬ FindsNone config organization b := by
      rintro ⟨_, ⟨sql, other⟩, _⟩
      cases asked.symm.trans other
    rw [iff_true_right unasked]
    exact .unsent
  | ok sql =>
    have finds : FindsNone config organization b ↔ b.next = .rows [] :=
      ⟨fun finds => finds.2.2, fun none => ⟨empty, ⟨sql, asked⟩, none⟩⟩
    dsimp only
    rw [finds, Backend.execute_eq]
    cases answered : b.next with
    | failure error =>
      have other : ¬ Reply.failure error = .rows [] := by simp
      rw [iff_true_right other]
      refine .of_errors fun error' failed => ?_
      obtain rfl := Except.error.inj failed
      exact sincere.not_isValidation answered
    | rows rows =>
      cases rows with
      | nil =>
        rw [iff_false_right (not_not_intro rfl)]
        intro refuses
        have unsent : b.received ++ [sql] = b.received := refuses _ rfl rfl
        simp at unsent
      | cons first rest =>
        have other : ¬ Reply.rows (first :: rest) = .rows [] := by simp
        rw [iff_true_right other]
        exact .of_errors fun error => ofRows_error

end Catalog

/-! All operations of a store. -/

theorem Store.tenant_of_absent {s : Store} {organization : String} (b : Backend)
    (absent : s.catalogs.get? organization = none) :
    (s.tenant organization b).1 = (Catalog.load s.config organization b).1.map (⟨·, s.config.idColumn⟩) ∧
      (s.tenant organization b).2.2 = (Catalog.load s.config organization b).2 := by
  rw [tenant, CatalogCache.getOrLoad_of_absent s.config b absent]
  rcases Catalog.load s.config organization b with ⟨_ | _, _⟩ <;> exact ⟨rfl, rfl⟩

theorem Store.tenant_of_present {s : Store} {organization : String} {c : Catalog} (b : Backend)
    (present : s.catalogs.get? organization = some c) : (s.tenant organization b).2.2 = b := by
  rw [tenant, CatalogCache.getOrLoad, present]

inductive Operation where
  | tenant (s : Store) (organization : String)
  | query (t : Tenant) (q : Query)
  | all (t : Tenant) (selection : Selection)
  | count (t : Tenant) (selection : Selection)
  | write (t : Tenant) (w : Writing) (entities : List Entity)

namespace Operation

/-- How an operation ends, and the backend after it. -/
def run (b : Backend) : Operation → Checked Unit × Backend
  | .tenant s organization => ((s.tenant organization b).1.map fun _ => (), (s.tenant organization b).2.2)
  | .query t q => ((t.query q b).1.map fun _ => (), (t.query q b).2)
  | .all t selection => ((t.all selection b).1.map fun _ => (), (t.all selection b).2)
  | .count t selection => ((t.count selection b).1.map fun _ => (), (t.count selection b).2)
  | .write t w entities => ((t.write w entities b).result, (t.write w entities b).backend)

/-- The operation asks for the metadata of an organization, and there are none. -/
def FindsNone (b : Backend) : Operation → Prop
  | .tenant s organization => s.catalogs.get? organization = none ∧ Catalog.FindsNone s.config organization b
  | _ => False

variable {b : Backend}

theorem tenant_refuses_iff (s : Store) (organization : String) (sincere : b.Sincere) :
    Refuses b (s.tenant organization b).1 (s.tenant organization b).2.2 ↔
      ¬ (s.catalogs.get? organization = none ∧ Catalog.FindsNone s.config organization b) := by
  cases present : s.catalogs.get? organization with
  | some c =>
    rw [iff_true_right (fun finds => nomatch finds.1), s.tenant_of_present b present]
    exact .unsent
  | none =>
    obtain ⟨result, after⟩ := s.tenant_of_absent b present
    rw [result, after, refuses_map_iff, Catalog.load_refuses_iff sincere]
    simp

/-- A validation error means that nothing was sent, unless a tenant is asked for that turns out not
to have any metadata. -/
theorem refuses_unsent_iff (operation : Operation) (sincere : b.Sincere) :
    (∀ error, (operation.run b).1 = .error error → error.isValidation = true →
      (operation.run b).2.received = b.received) ↔ ¬ operation.FindsNone b := by
  change Refuses b (operation.run b).1 (operation.run b).2 ↔ _
  cases operation with
  | tenant s organization => exact (refuses_map_iff _).trans (tenant_refuses_iff s organization sincere)
  | query t q => exact iff_of_true ((refuses_map_iff _).mpr (t.query_refuses q sincere)) not_false
  | all t selection => exact iff_of_true ((refuses_map_iff _).mpr (t.all_refuses selection sincere)) not_false
  | count t selection =>
    exact iff_of_true ((refuses_map_iff _).mpr (t.count_refuses selection sincere)) not_false
  | write t w entities => exact iff_of_true (t.write_refuses w entities sincere) not_false

/-- A query of a table that the catalog does not have. -/
theorem refuses_unsent_of_unknownTable :
    ∃ operation : Operation, ∃ b : Backend, b.Sincere ∧ b.queued ≠ [] ∧
      ((operation.run b).1.mapError DataError.kind) = .error .unknownTable ∧ (operation.run b).2.received = [] := by
  have sincere : Backend.Sincere ⟨[.failure ⟨.connection, .other "refused"⟩], []⟩ := by
    intro error member
    obtain rfl := Reply.failure.inj (List.mem_singleton.mp member)
    exact .inl rfl
  refine ⟨.query ⟨⟨"o1", none, []⟩, "id"⟩ (.select { table := "users" }), _, sincere, by simp, rfl, ?_⟩
  exact (refuses_unsent_iff _ sincere).mpr not_false _ rfl rfl

/-- The error for an organization without metadata is a validation error, and a statement was sent. -/
theorem unknown_organization_sent :
    ∃ operation : Operation, ∃ error sql, Backend.Sincere {} ∧ (operation.run {}).1 = .error error ∧
      error.kind = .unknownOrganization ∧ error.isValidation = true ∧ (operation.run {}).2.received = [sql] :=
  ⟨.tenant { config := { databaseUrl := "" } } "o1", _, _, fun _ => nofun, rfl, rfl, rfl, rfl⟩

end Operation
end Tenancy
