import Tenancy.Proofs.Query.Operand
import Tenancy.Proofs.Query.Reading

/-! The grouping of nested conditions. Connectives are written with parentheses and other operators
without, so the text of a condition tells its chains of other operators and not how they are grouped.
Every condition has the text of the one with its chains grouped from the left, and conditions grouped so
differ in their texts. -/
namespace Tenancy

open Sql

namespace Operand

/-- The same operand with its chains of operators that are written without parentheses grouped in another
way: a condition between two of them may be a side of either one. -/
inductive Regrouped : Operand → Operand → Prop
  | refl (o : Operand) : Regrouped o o
  | symm {o o' : Operand} (regrouped : Regrouped o o') : Regrouped o' o
  | trans {o o' o'' : Operand} (first : Regrouped o o') (second : Regrouped o' o'') : Regrouped o o''
  | nested {left left' right right' : Operand} (operator : Operator) (first : Regrouped left left')
      (second : Regrouped right right') : Regrouped (.nested left operator right) (.nested left' operator right')
  | rotate (left l : Operand) (o : Operator) (r last : Operand) {operator operator' : Operator}
      (other : ¬ operator.isConnective = true) (binary : ¬ operator.isNullTest = true)
      (other' : ¬ operator'.isConnective = true) :
      Regrouped (.nested left operator (.nested (.nested l o r) operator' last))
        (.nested (.nested left operator (.nested l o r)) operator' last)

/-- Puts an operator and its right side behind a left side. What stands before a condition has become a
part of it when it is regrouped, and a plain value leaves it where it is. -/
def follow (place : Operand → Operand) (left regrouped : Operand) (operator : Operator) (last : Operand) :
    Operand :=
  match left with
  | .value _ => place (.nested left operator last)
  | .nested .. => .nested regrouped operator last

/-- Groups the chains of an operand from the left, together with what stands before it. -/
def regroupIn (place : Operand → Operand) : Operand → Operand
  | .value json => place (.value json)
  | .nested left operator right =>
    if operator.isConnective then place (.nested (left.regroupIn id) operator (right.regroupIn id))
    else if operator.isNullTest then follow place left (left.regroupIn place) operator right
    else right.regroupIn (follow place left (left.regroupIn place) operator)

/-- Groups from the left: `a = ((b = 1) = 2)` becomes `(a = (b = 1)) = 2`. -/
def regroup (o : Operand) : Operand := o.regroupIn id

/-- A condition without a connective that begins with a condition. -/
def Continues : Operand → Prop
  | .nested (.nested ..) operator _ => operator.isConnective = false
  | _ => False

/-- Outside of connectives, no right side begins with a condition. -/
def IsLeftGrouped : Operand → Prop
  | .value _ => True
  | .nested left operator right => left.IsLeftGrouped ∧ (operator.isNullTest = true ∨
      right.IsLeftGrouped ∧ (operator.isConnective = true ∨ ¬ right.Continues))

theorem regroupIn_connective (place : Operand → Operand) {left right : Operand} {operator : Operator}
    (joins : operator.isConnective = true) :
    (nested left operator right).regroupIn place = place (.nested left.regroup operator right.regroup) := by
  rw [regroupIn, if_pos joins]
  rfl

theorem regroupIn_other (place : Operand → Operand) {left right : Operand} {operator : Operator}
    (other : ¬ operator.isConnective = true) :
    (nested left operator right).regroupIn place =
      if operator.isNullTest then follow place left (left.regroupIn place) operator right
      else right.regroupIn (follow place left (left.regroupIn place) operator) := by
  rw [regroupIn, if_neg other]

/-- What is grouped from the left stays as it is where nothing before it can become a part of it. -/
theorem IsLeftGrouped.regroupIn_eq {o : Operand} (grouped : o.IsLeftGrouped) {place : Operand → Operand}
    (apart : ¬ o.Continues ∨ place = id) : o.regroupIn place = place o := by
  induction o generalizing place with
  | value json => rfl
  | nested left operator right ihl ihr =>
    obtain ⟨groupedLeft, groupedRight⟩ := grouped
    by_cases joins : operator.isConnective = true
    · have right := (groupedRight.resolve_left (Operator.not_isNullTest_of_isConnective joins)).1
      rw [regroupIn_connective place joins, regroup, regroup, ihl groupedLeft (.inr rfl), ihr right (.inr rfl)]
      rfl
    · have follows : follow place left (left.regroupIn place) operator =
          fun last => place (.nested left operator last) := by
        cases left with
        | value json => rfl
        | nested l o r =>
          obtain rfl := apart.resolve_left (not_not_intro (eq_false_of_ne_true joins))
          rw [ihl groupedLeft (.inr rfl)]
          rfl
      rw [regroupIn_other place joins, follows]
      split
      · rfl
      · rename_i binary
        obtain ⟨rightGrouped, apartRight⟩ := groupedRight.resolve_left binary
        rw [ihr rightGrouped (.inl (apartRight.resolve_left joins))]

theorem IsLeftGrouped.regroup_eq {o : Operand} (grouped : o.IsLeftGrouped) : o.regroup = o :=
  grouped.regroupIn_eq (.inr rfl)

theorem reading_nested_eq (left right : Operand) (operator : Operator) (side side' : Side) :
    (nested left operator right).reading side = (nested left operator right).reading side' := by
  rw [reading_nested, reading_nested]

/-- Operators without parentheses are written in one chain, however they are grouped. -/
theorem Regrouped.tokens_eq {o o' : Operand} (regrouped : o.Regrouped o') (side : Side) :
    (o.reading side).tokens = (o'.reading side).tokens := by
  induction regrouped generalizing side with
  | refl o => rfl
  | symm _ ih => exact (ih side).symm
  | trans _ _ ih ih' => exact (ih side).trans (ih' side)
  | nested operator _ _ ihl ihr =>
    rw [reading_nested, reading_nested]
    split
    · rw [Reading.tokens, Reading.tokens, ihl]
    · rw [Reading.tokens, Reading.tokens, ihl, ihr]
  | @rotate left l o r last operator operator' other binary other' =>
    have middle := reading_nested_eq l r o .left .right
    generalize Operand.nested l o r = m at middle ⊢
    by_cases tests : operator'.isNullTest = true
    · simp [Reading.tokens, reading_nested, binary, other, tests, middle]
    · simp [Reading.tokens, reading_nested, binary, other, other', tests, middle]

/-! Every operand can be grouped from the left. -/

/-- What stands before a condition and may become a part of it. -/
structure Carries (place : Operand → Operand) : Prop where
  congr : ∀ {o o' : Operand}, o.Regrouped o' → (place o).Regrouped (place o')
  attach : ∀ (l : Operand) (o : Operator) (r last : Operand) {operator : Operator},
    ¬ operator.isConnective = true →
      (place (.nested (.nested l o r) operator last)).Regrouped (.nested (place (.nested l o r)) operator last)

theorem Carries.id : Carries id := ⟨fun regrouped => regrouped, fun _ _ _ _ _ _ => .refl _⟩

theorem Carries.value {place : Operand → Operand} (carries : Carries place) (json : Json) {operator : Operator}
    (other : ¬ operator.isConnective = true) (binary : ¬ operator.isNullTest = true) :
    Carries fun last => place (.nested (.value json) operator last) where
  congr := fun regrouped => carries.congr (.nested operator (.refl _) regrouped)
  attach := fun l o r last _ other' =>
    (carries.congr (.rotate (.value json) l o r last other binary other')).trans
      (carries.attach (.value json) operator (.nested l o r) last other')

theorem Carries.nested (left : Operand) {operator : Operator} (other : ¬ operator.isConnective = true)
    (binary : ¬ operator.isNullTest = true) : Carries fun last => nested left operator last where
  congr := fun regrouped => .nested operator (.refl _) regrouped
  attach := fun l o r last _ other' => .rotate left l o r last other binary other'

theorem Carries.regrouped {o : Operand} {place : Operand → Operand} (carries : Carries place) :
    (place o).Regrouped (o.regroupIn place) := by
  -- For any place: a left side that is a condition takes in what stands before it.
  induction o generalizing place with
  | value json => exact .refl _
  | nested left operator right ihl ihr =>
    by_cases joins : operator.isConnective = true
    · rw [regroupIn_connective place joins]
      exact carries.congr (.nested operator (ihl .id) (ihr .id))
    · rw [regroupIn_other place joins]
      cases left with
      | value json =>
        split
        · exact .refl _
        · rename_i binary
          exact ihr (carries.value json joins binary)
      | nested l o r =>
        have attached := (carries.attach l o r right joins).trans (.nested operator (ihl carries) (.refl right))
        split
        · exact attached
        · rename_i binary
          exact attached.trans (ihr (.nested _ joins binary))

theorem regrouped_regroup (o : Operand) : o.Regrouped o.regroup := Carries.id.regrouped

/-! What the reader makes of the tokens of an operand. -/

variable {t : CatalogTable}

theorem Accepted.fits {o : Operand} (accepted : o.Accepted t) (side : Side) : o.Fits t side := by
  cases side <;> exact .inr accepted

theorem Accepted.reading_eq {o : Operand} (accepted : o.Accepted t) (side side' : Side) :
    o.reading side = o.reading side' := by
  obtain ⟨left, operator, right, rfl⟩ := accepted.nested
  rw [reading_nested, reading_nested]

theorem accepted_connective_iff {left right : Operand} {operator : Operator} (joins : operator.isConnective = true) :
    (nested left operator right).Accepted t ↔ left.Accepted t ∧ right.Accepted t := by
  rw [Accepted, if_pos joins]

theorem accepted_other_iff {left right : Operand} {operator : Operator} (other : ¬ operator.isConnective = true) :
    (nested left operator right).Accepted t ↔
      left.Fits t .left ∧ (operator.isNullTest = true ∨ right.Fits t .right) := by
  rw [Accepted, if_neg other]
  rfl

/-- What stands before an operand, and what the reader keeps of it. -/
structure Places (t : CatalogTable) (place : Operand → Operand) (context : Reading → Reading) : Prop where
  reading : ∀ o : Operand, (place o).reading .right = context (o.reading .right)
  accepted : ∀ o : Operand, o.Accepted t → (place o).Accepted t

theorem Places.id : Places t id id := ⟨fun _ => rfl, fun _ accepted => accepted⟩

/-- An operand is read as the one that is grouped from the left, together with what stands before it. -/
structure Regroups (t : CatalogTable) (place : Operand → Operand) (context : Reading → Reading)
    (o : Operand) : Prop where
  reads : ∀ groups, Reader.run (.before groups context) (o.reading .right).tokens =
    some (.after groups id ((o.regroupIn place).reading .right))
  accepted : o.Accepted t → (o.regroupIn place).Accepted t

/-- A left side is read, and what follows it goes where the reader waits for it. -/
structure Leads (t : CatalogTable) (place : Operand → Operand) (context : Reading → Reading) (left : Operand)
    (next : Reading → Reading) (start : Reading) : Prop where
  reads : ∀ groups, Reader.run (.before groups context) (left.reading .left).tokens =
    some (.after groups next start)
  reading : ∀ operator last, (follow place left (left.regroupIn place) operator last).reading .right =
    next (if operator.isNullTest then .test start operator else .binary start operator (last.reading .right))
  accepted : ∀ operator last, ¬ operator.isConnective = true →
    (operator.isNullTest = true ∨ last.Fits t .right) →
      (follow place left (left.regroupIn place) operator last).Accepted t

variable {place : Operand → Operand} {context : Reading → Reading}

theorem Places.leads_column (places : Places t place context) {column : String}
    (admitted : t.Admits column) :
    Leads t place context (.value (.string column)) context (.column column) where
  reads := fun _ => rfl
  reading := fun operator last => by
    rw [follow, places.reading, reading_nested]
    rfl
  accepted := fun operator last other fits =>
    places.accepted _ ((accepted_other_iff other).mpr ⟨.inl admitted, fits⟩)

theorem Regroups.leads {l r : Operand} {o : Operator} (regroups : Regroups t place context (nested l o r))
    (accepted : (nested l o r).Accepted t) :
    Leads t place context (nested l o r) id (((nested l o r).regroupIn place).reading .left) where
  reads := fun groups => by
    rw [accepted.reading_eq .left .right, (regroups.accepted accepted).reading_eq .left .right, regroups.reads]
  reading := fun operator last => by rw [follow, reading_nested, id]
  accepted := fun operator last other fits =>
    (accepted_other_iff other).mpr ⟨.inr (regroups.accepted accepted), fits⟩

theorem regroups_connective (places : Places t place context) {left right : Operand} {operator : Operator}
    (joins : operator.isConnective = true) (accepted : (nested left operator right).Accepted t)
    (first : Regroups t id id left) (second : Regroups t id id right) :
    Regroups t place context (nested left operator right) := by
  obtain ⟨acceptedLeft, acceptedRight⟩ := (accepted_connective_iff joins).mp accepted
  have binary := Operator.not_isNullTest_of_isConnective joins
  have kept := (accepted_connective_iff joins).mpr ⟨first.accepted acceptedLeft, second.accepted acceptedRight⟩
  have whole : (nested left operator right).regroupIn place = place (.nested left.regroup operator right.regroup) :=
    regroupIn_connective place joins
  constructor
  · intro groups
    have readsLeft := first.reads (context :: groups)
    rw [acceptedLeft.reading_eq .right .left, (first.accepted acceptedLeft).reading_eq .right .left] at readsLeft
    rw [whole, places.reading, reading_nested, reading_nested, if_neg binary, if_neg binary, Reading.tokens,
      if_pos joins, Reader.run_cons rfl, Reader.run_append readsLeft,
      Reader.run_cons (Reader.step_connective joins context), Reader.run_append (second.reads _)]
    rfl
  · intro _
    rw [whole]
    exact places.accepted _ kept

theorem Leads.regroups_test {left right : Operand} {operator : Operator} {next : Reading → Reading}
    {start : Reading} (led : Leads t place context left next start) (other : ¬ operator.isConnective = true)
    (tests : operator.isNullTest = true) : Regroups t place context (nested left operator right) := by
  have whole : (nested left operator right).regroupIn place =
      follow place left (left.regroupIn place) operator right := by
    rw [regroupIn_other place other, if_pos tests]
  constructor
  · intro groups
    rw [whole, led.reading, reading_nested, if_pos tests, if_pos tests, Reading.tokens,
      Reader.run_append (led.reads groups), Reader.run_cons (Reader.step_test other tests)]
    rfl
  · intro _
    rw [whole]
    exact led.accepted operator right other (.inl tests)

/-- What a left side and its operator stand before. -/
theorem Leads.places {left : Operand} {operator : Operator} {next : Reading → Reading} {start : Reading}
    (led : Leads t place context left next start) (other : ¬ operator.isConnective = true)
    (binary : ¬ operator.isNullTest = true) :
    Places t (follow place left (left.regroupIn place) operator) fun last => next (.binary start operator last) where
  reading := fun last => by rw [led.reading, if_neg binary]
  accepted := fun last accepted => led.accepted operator last other (.inr (.inr accepted))

theorem Leads.regroups_binary {left right : Operand} {operator : Operator} {next : Reading → Reading}
    {start : Reading} (led : Leads t place context left next start) (fits : right.Fits t .right)
    (other : ¬ operator.isConnective = true) (binary : ¬ operator.isNullTest = true)
    (last : Regroups t (follow place left (left.regroupIn place) operator)
      (fun last => next (.binary start operator last)) right) :
    Regroups t place context (nested left operator right) := by
  have whole : (nested left operator right).regroupIn place =
      right.regroupIn (follow place left (left.regroupIn place) operator) := by
    rw [regroupIn_other place other, if_neg binary]
  constructor
  · intro groups
    rw [whole, reading_nested, if_neg binary, Reading.tokens, if_neg other, Reader.run_append (led.reads groups),
      Reader.run_cons (Reader.step_binary other binary), last.reads]
  · intro _
    rw [whole]
    cases right with
    | value json => exact led.accepted operator (.value json) other (.inr fits)
    | nested l o r => exact last.accepted ((fits_nested_iff t).mp fits)

theorem Fits.regroups {o : Operand} (fits : o.Fits t .right) (places : Places t place context) :
    Regroups t place context o := by
  -- For any place: the right side of an operator is read behind its left side, which is read first.
  induction o generalizing place context with
  | value json =>
    refine ⟨fun groups => ?_, False.elim⟩
    rw [regroupIn, places.reading]
    cases json with
    | array items => exact (fits.resolve_right id).elim
    | object members => exact (fits.resolve_right id).elim
    | _ => rfl
  | nested left operator right ihl ihr =>
    have accepted := (fits_nested_iff t).mp fits
    by_cases joins : operator.isConnective = true
    · obtain ⟨first, second⟩ := (accepted_connective_iff joins).mp accepted
      exact regroups_connective places joins accepted (ihl (.inr first) .id) (ihr (.inr second) .id)
    · obtain ⟨fitsLeft, fitsRight⟩ := (accepted_other_iff joins).mp accepted
      have led : ∃ next start, Leads t place context left next start := by
        cases left with
        | value json =>
          cases json with
          | string column => exact ⟨_, _, places.leads_column (fitsLeft.resolve_right id)⟩
          | _ => exact (fitsLeft.elim id id).elim
        | nested l o r =>
          have acceptedLeft := (fits_nested_iff t).mp fitsLeft
          exact ⟨_, _, (ihl (.inr acceptedLeft) places).leads acceptedLeft⟩
      obtain ⟨next, start, led⟩ := led
      by_cases tests : operator.isNullTest = true
      · exact led.regroups_test joins tests
      · have fitsLast := fitsRight.resolve_left tests
        exact led.regroups_binary fitsLast joins tests (ihr fitsLast (led.places joins tests))

end Operand

namespace CatalogTable

open Operand

variable {t : CatalogTable} {a b : Condition} {k l : Clause}

theorem writtenTokens_eq (filters : t.filter a = .ok k) :
    writtenTokens (a.toOperand.reading .left).tokens = k.sql.toList := by
  rw [(filter_eq_ok_iff.mp filters).2, written_tokens]

theorem tokens_eq_of_sql_eq (first : t.filter a = .ok k) (second : t.filter b = .ok l) (same : k.sql = l.sql) :
    (a.toOperand.reading .left).tokens = (b.toOperand.reading .left).tokens := by
  have apart {c : Condition} (accepted : c.toOperand.Accepted t) : KeepApart (c.toOperand.reading .left).tokens := by
    have nothing : KeepApart [] := trivial
    simpa using keepApart_tokens (accepted.fits .left) nothing (by simp [IsBoundary, writtenTokens])
  refine eq_of_written_eq (apart (filter_eq_ok_iff.mp first).1) (apart (filter_eq_ok_iff.mp second).1) ?_
  rw [writtenTokens_eq first, writtenTokens_eq second, same]

theorem regroup_alike_of_sql_eq (first : t.filter a = .ok k) (second : t.filter b = .ok l)
    (same : k.sql = l.sql) : a.toOperand.regroup.Alike b.toOperand.regroup := by
  have accepted := (filter_eq_ok_iff.mp first).1
  have accepted' := (filter_eq_ok_iff.mp second).1
  have tokens := tokens_eq_of_sql_eq first second same
  rw [accepted.reading_eq .left .right, accepted'.reading_eq .left .right] at tokens
  have regroups := (accepted.fits .right).regroups .id
  have regroups' := (accepted'.fits .right).regroups .id
  have read := regroups.reads []
  rw [tokens, regroups'.reads] at read
  injection Option.some.inj read with _ _ readings
  exact alike_of_reading_eq ((regroups.accepted accepted).fits .right) ((regroups'.accepted accepted').fits .right)
    readings.symm

theorem sql_eq_of_regrouped (first : t.filter a = .ok k) (second : t.filter b = .ok l) {o o' : Operand}
    (regrouped : a.toOperand.Regrouped o) (regrouped' : b.toOperand.Regrouped o') (alike : o.Alike o') :
    k.sql = l.sql := by
  apply String.toList_injective
  rw [← writtenTokens_eq first, ← writtenTokens_eq second, regrouped.tokens_eq, regrouped'.tokens_eq,
    alike.reading_eq]

/-- The text of a condition tells it up to the grouping of operators that are written without
parentheses, and tells it whole where these are grouped from the left. -/
theorem filter_sql_eq_iff_regrouped (first : t.filter a = .ok k) (second : t.filter b = .ok l) :
    (k.sql = l.sql ↔
      ∃ o o', a.toOperand.Regrouped o ∧ b.toOperand.Regrouped o' ∧ o.Alike o') ∧
    (a.toOperand.IsLeftGrouped → b.toOperand.IsLeftGrouped →
      (k.sql = l.sql ↔ a.toOperand.Alike b.toOperand)) := by
  constructor
  · constructor
    · intro same
      exact ⟨_, _, regrouped_regroup _, regrouped_regroup _, regroup_alike_of_sql_eq first second same⟩
    · rintro ⟨o, o', regrouped, regrouped', alike⟩
      exact sql_eq_of_regrouped first second regrouped regrouped' alike
  · intro grouped grouped'
    constructor
    · intro same
      rw [← grouped.regroup_eq, ← grouped'.regroup_eq]
      exact regroup_alike_of_sql_eq first second same
    · exact sql_eq_of_regrouped first second (.refl _) (.refl _)

/-- What stands to the right of a null test leaves no mark. -/
theorem filter_sql_eq_of_nullTest :
    ∃ (t : CatalogTable) (a b : Condition) (k l : Clause), t.filter a = .ok k ∧ t.filter b = .ok l ∧
      k.sql = "(a IS NULL AND b=1)" ∧ l.sql = k.sql ∧ a.toOperand.Alike b.toOperand := by
  let t : CatalogTable := ⟨"t", none, [{ name := "a", type := "number" }, { name := "b", type := "number" }]⟩
  let equals : Condition := ⟨.value (.string "b"), .eq, .value (.ofInt 1)⟩
  let a : Condition := .and (.unary "a" .isNull) equals
  let b : Condition := .and ⟨.value (.string "a"), .isNull, .value (.ofInt 0)⟩ equals
  have first : t.filter a = .ok (a.toOperand.clause .left) := by rfl
  have second : t.filter b = .ok (b.toOperand.clause .left) := by rfl
  have grouped {right : Operand} :
      (Condition.and ⟨.value (.string "a"), .isNull, right⟩ equals).toOperand.IsLeftGrouped :=
    ⟨⟨trivial, .inl rfl⟩, .inr ⟨⟨trivial, .inr ⟨trivial, .inr id⟩⟩, .inl rfl⟩⟩
  refine ⟨t, a, b, _, _, first, second, rfl, rfl, ?_⟩
  exact ((filter_sql_eq_iff_regrouped first second).2 grouped grouped).mp rfl

/-- A comparison of a comparison has the text of another one. -/
theorem filter_sql_eq_of_rotated :
    ∃ (t : CatalogTable) (a b : Condition) (k l : Clause), (∀ name ∈ t.columnNames, isName name = true) ∧
      Condition.decode a.toJson = .ok a ∧ Condition.decode b.toJson = .ok b ∧
      t.filter a = .ok k ∧ t.filter b = .ok l ∧ k.sql = "a=b=1=2" ∧ l.sql = "a=b=1=2" ∧
      ¬ a.toOperand.Alike b.toOperand := by
  let t : CatalogTable := ⟨"t", none, [{ name := "a", type := "number" }, { name := "b", type := "number" }]⟩
  let equals : Operand := .nested (.value (.string "b")) .eq (.value (.ofInt 1))
  let a : Condition := ⟨.value (.string "a"), .eq, .nested equals .eq (.value (.ofInt 2))⟩
  let b : Condition := ⟨.nested (.value (.string "a")) .eq equals, .eq, .value (.ofInt 2)⟩
  refine ⟨t, a, b, _, _, by decide, a.decode_toJson, b.decode_toJson, rfl, rfl, rfl, rfl, ?_⟩
  exact fun alike => alike.1

end CatalogTable
end Tenancy
