import Tenancy.Proofs.Query.Conjunction
import Tenancy.Query.Selection

/-! Selections that are put together step by step. Each part of a selection is made from the steps about it
in their order, whatever steps about other parts stand between them. -/
namespace Tenancy

open Sql

/-- Names as the fields of a select, which lists all columns where there are none. -/
def FieldList.listed (names : List String) : FieldList := if names.isEmpty then .all else .columns names

namespace Selection

inductive Step where
  | select (columns : List String)
  | restrict (condition : Condition)
  | sort (column : String)
  | sortDown (column : String)
  | limitTo (limit : Int64)

/-- What a step is about. Both ways of sorting are about the order. -/
inductive Part where
  | fields
  | filter
  | order
  | limit
deriving DecidableEq

def Step.part : Step → Part
  | .select _ => .fields
  | .restrict _ => .filter
  | .sort _ | .sortDown _ => .order
  | .limitTo _ => .limit

def attempt (s : Selection) : Step → Checked Selection
  | .select columns => .ok (s.select columns)
  | .restrict condition => .ok (s.restrict condition)
  | .sort column => .ok (s.sort column)
  | .sortDown column => .ok (s.sortDown column)
  | .limitTo limit => s.limitTo limit

/-- A step that is refused leaves the selection as it was. -/
def after (s : Selection) (step : Step) : Selection :=
  match s.attempt step with
  | .ok next => next
  | .error _ => s

def run (s : Selection) (steps : List Step) : Selection := steps.foldl after s

/-- What a selection starts from. -/
inductive Source where
  | ofTable (name : String)
  | ofSchema (schema : Schema)

namespace Source

def table : Source → String
  | .ofTable name => name
  | .ofSchema schema => schema.table

def schema? : Source → Option Schema
  | .ofTable _ => none
  | .ofSchema schema => some schema

def start : Source → Selection
  | .ofTable name => .ofTable name
  | .ofSchema schema => .ofSchema schema

def selection (source : Source) (steps : List Step) : Selection := source.start.run steps

end Source

/-! What the steps about each part ask for. -/

@[simp] def Step.columns? : Step → Option (List String)
  | .select columns => some columns
  | _ => none

@[simp] def Step.condition? : Step → Option Condition
  | .restrict condition => some condition
  | _ => none

@[simp] def Step.sortEntry? : Step → Option String
  | .sort column => some column
  | .sortDown column => some (column ++ " DESC")
  | _ => none

@[simp] def Step.limit? : Step → Option Int64
  | .limitTo limit => some limit
  | _ => none

def columns (steps : List Step) : List String := (steps.filterMap Step.columns?).flatten

def conditions (steps : List Step) : List Condition := steps.filterMap Step.condition?

def sortEntries (steps : List Step) : List String := steps.filterMap Step.sortEntry?

def limits (steps : List Step) : List Int64 := steps.filterMap Step.limit?

def lastPositive (limits : List Int64) : Option UInt64 :=
  (limits.filter (0 < ·)).getLast?.map fun limit => .ofNat limit.toNatClampNeg

/-- The selection whose parts are each made from the steps about it alone. -/
def gathered (source : Source) (steps : List Step) : Selection where
  schema := source.schema?
  table := source.table
  fields := .listed (columns steps)
  filter := Condition.conjunction? (conditions steps)
  orderBy := sortEntries steps
  limit := lastPositive (limits steps)

def about (part : Part) (steps : List Step) : List Step := steps.filter fun step => step.part = part

variable {s : Selection} {source : Source} {steps steps' : List Step}

theorem after_select {names : List String} (listed : s.fields = .listed names) (added : List String) :
    s.after (.select added) = { s with fields := .listed (names ++ added) } := by
  cases names <;> simp [after, attempt, select, listed, FieldList.listed]

theorem after_restrict {given : List Condition} (conjoined : s.filter = Condition.conjunction? given)
    (condition : Condition) :
    s.after (.restrict condition) = { s with filter := Condition.conjunction? (given ++ [condition]) } := by
  cases given <;> simp [after, attempt, restrict, conjoined, Condition.conjunction?]

/-- A positive limit stays the number that it is. -/
theorem toUInt64_of_pos {limit : Int64} (positive : 0 < limit) :
    limit.toUInt64 = .ofNat limit.toNatClampNeg := by
  rw [← Int64.toNat_toUInt64_of_le (Int64.le_of_lt positive), UInt64.ofNat_toNat]

theorem after_limitTo {given : List Int64} (last : s.limit = lastPositive given) (limit : Int64) :
    s.after (.limitTo limit) = { s with limit := lastPositive (given ++ [limit]) } := by
  by_cases positive : 0 < limit
  · have accepted : ¬ limit ≤ 0 := Int64.not_le.mpr positive
    simp [after, attempt, limitTo, accepted, lastPositive, positive, toUInt64_of_pos]
  · have refused : limit ≤ 0 := Int64.not_lt.mp positive
    have kept : lastPositive (given ++ [limit]) = s.limit := by simp [last, lastPositive, positive]
    simp [after, attempt, limitTo, refused, refuse, kept]

theorem start_eq_gathered (source : Source) : source.start = gathered source [] := by
  cases source <;> rfl

theorem gathered_concat (source : Source) (steps : List Step) (step : Step) :
    gathered source (steps ++ [step]) =
      ⟨source.schema?, source.table, .listed (columns steps ++ step.columns?.getD []),
        Condition.conjunction? (conditions steps ++ step.condition?.toList),
        sortEntries steps ++ step.sortEntry?.toList, lastPositive (limits steps ++ step.limit?.toList)⟩ := by
  cases step <;> simp [gathered, columns, conditions, sortEntries, limits, List.filterMap_cons]

/-- A step adds to the part that it is about. -/
theorem after_gathered (source : Source) (steps : List Step) (step : Step) :
    (gathered source steps).after step = gathered source (steps ++ [step]) := by
  rw [gathered_concat]
  cases step with
  | select names =>
    have listed : (gathered source steps).fields = .listed (columns steps) := rfl
    rw [after_select listed]
    simp [gathered]
  | restrict condition =>
    have conjoined : (gathered source steps).filter = Condition.conjunction? (conditions steps) := rfl
    rw [after_restrict conjoined]
    simp [gathered]
  | sort column => simp [after, attempt, sort, gathered]
  | sortDown column => simp [after, attempt, sortDown, gathered]
  | limitTo limit =>
    have last : (gathered source steps).limit = lastPositive (limits steps) := rfl
    rw [after_limitTo last]
    simp [gathered]

theorem run_gathered (source : Source) (before rest : List Step) :
    (gathered source before).run rest = gathered source (before ++ rest) := by
  -- For any steps before them: each step that is taken becomes the last of these.
  induction rest generalizing before with
  | nil => rw [List.append_nil, run, List.foldl_nil]
  | cons step rest ih =>
    have next := ih (before ++ [step])
    rw [← after_gathered, List.append_assoc, List.singleton_append] at next
    exact next

theorem selection_eq_gathered (source : Source) (steps : List Step) :
    source.selection steps = gathered source steps := by
  rw [Source.selection, start_eq_gathered, run_gathered, List.nil_append]

/-! Steps about different parts may change places. -/

theorem filterMap_about {f : Step → Option α} {part : Part} (only : ∀ step, step.part ≠ part → f step = none)
    (steps : List Step) : (about part steps).filterMap f = steps.filterMap f := by
  rw [about, List.filterMap_filter]
  apply List.filterMap_congr
  intro step _
  by_cases other : step.part = part
  · simp [other]
  · simp [other, only step other]

theorem filterMap_eq_of_about {f : Step → Option α} {part : Part}
    (only : ∀ step, step.part ≠ part → f step = none) (same : about part steps = about part steps') :
    steps.filterMap f = steps'.filterMap f := by
  rw [← filterMap_about only steps, same, filterMap_about only]

theorem gathered_eq_of_about (same : ∀ part, about part steps = about part steps') :
    gathered source steps = gathered source steps' := by
  have names : columns steps = columns steps' := by
    apply congrArg List.flatten
    apply filterMap_eq_of_about _ (same .fields)
    rintro ⟨⟩ <;> simp [Step.part]
  have given : conditions steps = conditions steps' := by
    apply filterMap_eq_of_about _ (same .filter)
    rintro ⟨⟩ <;> simp [Step.part]
  have entries : sortEntries steps = sortEntries steps' := by
    apply filterMap_eq_of_about _ (same .order)
    rintro ⟨⟩ <;> simp [Step.part]
  have numbers : limits steps = limits steps' := by
    apply filterMap_eq_of_about _ (same .limit)
    rintro ⟨⟩ <;> simp [Step.part]
  rw [gathered, gathered, names, given, entries, numbers]

theorem about_swap {a b : Step} (apart : a.part ≠ b.part) (before rest : List Step) (part : Part) :
    about part (before ++ a :: b :: rest) = about part (before ++ b :: a :: rest) := by
  rw [about, about, List.filter_append, List.filter_append]
  congr 1
  by_cases first : a.part = part
  · have other : b.part ≠ part := fun same => apart (first.trans same.symm)
    simp [first, other]
  · simp [List.filter_cons, first]

/-- Each part of a selection is gathered from the steps about it, in their order. So neighbours about different
parts may change places, and steps that agree on each part lead to the same selection, whose query, count and
statements are then the same too. Its statement and that of its count join the texts of the conditions from
the left, and the count has nothing after them. -/
theorem steps_gathered (source : Source) :
    (∀ steps, (source.selection steps).toQuery = .select ⟨source.table, .listed (columns steps),
      Condition.conjunction? (conditions steps), sortEntries steps, lastPositive (limits steps)⟩) ∧
    (∀ before a b rest, a.part ≠ b.part →
      source.selection (before ++ a :: b :: rest) = source.selection (before ++ b :: a :: rest)) ∧
    (∀ steps steps', (∀ part, about part steps = about part steps') →
      source.selection steps = source.selection steps') ∧
    (∀ steps (t : CatalogTable) texts, (conditions steps).mapM t.filterText = .ok texts →
      ∃ clause, (source.selection steps).filter.mapM t.filter = .ok clause ∧ filterSql clause = whereSql texts) ∧
    ∀ steps (c : Catalog) idColumn statements,
      c.compile idColumn (source.selection steps).toQuery = .ok statements →
      ∃ t texts, c.Lists source.table t ∧ (conditions steps).mapM t.filterText = .ok texts ∧
        statements.map Statement.sql =
          ["SELECT " ++ (t.selection idColumn (.listed (columns steps))).sql ++ " FROM " ++ source.table
            ++ whereSql texts ++ sortedSql (sortEntries steps) ++ limitSql (lastPositive (limits steps))] ∧
        (c.compile idColumn (source.selection steps).toCountQuery).map (List.map Statement.sql) =
          .ok ["SELECT COUNT(*) AS count FROM " ++ source.table ++ whereSql texts] := by
  simp only [selection_eq_gathered]
  refine ⟨fun _ => rfl, ?_, ?_, ?_, ?_⟩
  · intro before a b rest apart
    exact gathered_eq_of_about (about_swap apart before rest)
  · intro steps steps' same
    exact gathered_eq_of_about same
  · intro steps t texts written
    exact CatalogTable.filter_conjunction?_of_texts written
  · intro steps c idColumn statements compiled
    exact Catalog.compile_conjunction? rfl compiled

/-- Steps about different parts between each other, among them an empty list of columns and a limit that is
refused. -/
theorem steps_gathered_of_interleaved :
    ∃ (source : Source) (a b : Step) (rest steps : List Step) (c : Catalog) (t : CatalogTable)
      (clause : Option Clause) (statements : List Statement),
      a.part ≠ b.part ∧ source.selection (a :: b :: rest) = source.selection (b :: a :: rest) ∧
      (∀ part, about part (a :: b :: rest) = about part steps) ∧
      source.selection (a :: b :: rest) = source.selection steps ∧
      (conditions steps).mapM t.filterText = .ok ["age>35", "age IS NOT NULL", "id<>'x'"] ∧
      (source.selection steps).filter.mapM t.filter = .ok clause ∧
      filterSql clause = " WHERE ((age>35 AND age IS NOT NULL) AND id<>'x')" ∧
      c.compile "id" (source.selection steps).toQuery = .ok statements ∧
      statements.map Statement.sql = ["SELECT age, id FROM users WHERE ((age>35 AND age IS NOT NULL) AND id<>'x')"
        ++ " ORDER BY age DESC, id LIMIT 20"] ∧
      (c.compile "id" (source.selection steps).toCountQuery).map (List.map Statement.sql) =
        .ok ["SELECT COUNT(*) AS count FROM users WHERE ((age>35 AND age IS NOT NULL) AND id<>'x')"] := by
  let t : CatalogTable := ⟨"users", none, [{ name := "id", type := "id" }, { name := "age", type := "number" }]⟩
  let c : Catalog := ⟨"o1", none, [t]⟩
  let older : Condition := .compare "age" .gt (.integer 35)
  let known : Condition := .unary "age" .isNotNull
  let other : Condition := .compare "id" .ne (.string "x")
  let rest : List Step := [.select [], .sortDown "age", .limitTo 20, .restrict known, .select ["age"],
    .limitTo (-3), .sort "id", .restrict other]
  let steps : List Step := [.select [], .select ["age"], .restrict older, .restrict known, .restrict other,
    .sortDown "age", .sort "id", .limitTo 7, .limitTo 20, .limitTo (-3)]
  obtain ⟨_, swap, agree, join, compile⟩ := steps_gathered (.ofTable "users")
  have apart : (Step.limitTo 7).part ≠ (Step.restrict older).part := nofun
  have same : ∀ part, about part (.limitTo 7 :: .restrict older :: rest) = about part steps := by
    rintro ⟨⟩ <;> rfl
  have written : (conditions steps).mapM t.filterText = .ok ["age>35", "age IS NOT NULL", "id<>'x'"] := by rfl
  obtain ⟨clause, filtered, joined⟩ := join steps t _ written
  have age : t.Admits "age" := ⟨by decide, by decide⟩
  have id : t.Admits "id" := ⟨by decide, by decide⟩
  have accepted : t.AcceptsSelect "id" ⟨"users", .columns ["age"], some ((older.and known).and other),
      ["age" ++ " DESC", "id"], some 20⟩ := by
    constructor
    · exact ⟨by simpa using age, fun _ => id⟩
    · exact Condition.accepted_conjunction?_iff.mpr (CatalogTable.filterTexts_eq_ok_iff.mp written).1
    · simpa using ⟨⟨"age", age, .inr rfl⟩, ⟨"id", id, .inl rfl⟩⟩
    · decide
  have listed : c.Lists "users" t := ⟨by decide, by rfl⟩
  have compiled := Catalog.compile_select_eq_ok_iff.mpr ⟨t, listed, accepted, rfl⟩
  obtain ⟨t', texts, listed', rendered, sql, counted⟩ := compile steps c "id" _ compiled
  obtain rfl := listed.unique listed'
  obtain rfl := Except.ok.inj (written.symm.trans rendered)
  have selected : (t.selection "id" (.listed (columns steps))).sql = "age, id" := by rfl
  have sorted : sortedSql (sortEntries steps) = " ORDER BY age DESC, id" := by rfl
  have limited : limitSql (lastPositive (limits steps)) = " LIMIT 20" := by rfl
  rw [selected, sorted, limited] at sql
  exact ⟨.ofTable "users", .limitTo 7, .restrict older, rest, steps, c, t, clause, _, apart,
    swap [] _ _ rest apart, same, agree _ _ same, written, filtered, joined.trans (by decide), compiled,
    sql.trans (by decide), counted.trans (by rfl)⟩

end Selection
end Tenancy
