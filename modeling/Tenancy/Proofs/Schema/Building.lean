import Tenancy.Proofs.Schema.Fields

/-! Building schemas. A plan can be built just when its names and columns are good and differ, the identifier field
among them, and in what is built each name and each column stands for one field. -/
namespace Tenancy

namespace Schema

variable {plan : Plan} {s : Schema} {f g : Field}

/-- A plan that can be built. -/
structure Plan.WellFormed (plan : Plan) : Prop where
  named : plan.name ≠ ""
  table_plain : Sql.isName plan.table = true
  id_plain : Sql.isName plan.idColumn = true
  fields_named : ∀ f ∈ plan.fields, f.name ≠ ""
  columns_plain : ∀ f ∈ plan.fields, Sql.isName f.columnName = true
  names_differ : (idName :: plan.fields.map Field.name).Nodup
  columns_differ : (plan.idColumn :: plan.fields.map Field.columnName).Nodup

/-- The fields of a plan are sound behind the identifier field. -/
theorem Plan.wellFormed_iff : plan.WellFormed ↔ plan.name ≠ "" ∧ Sql.isName plan.table = true ∧
    Sound [] [] (.identifier plan.idColumn :: plan.fields) := by
  constructor
  · intro good
    refine ⟨good.named, good.table_plain, ?_, ?_, ?_, ?_, good.names_differ, good.columns_differ⟩
    · exact List.forall_mem_cons.mpr ⟨(by decide : idName ≠ ""), good.fields_named⟩
    · exact List.forall_mem_cons.mpr ⟨good.id_plain, good.columns_plain⟩
    · exact fun _ _ => List.not_mem_nil
    · exact fun _ _ => List.not_mem_nil
  · rintro ⟨named, table, sound⟩
    exact {
      named
      table_plain := table
      id_plain := (List.forall_mem_cons.mp sound.columns_plain).1
      fields_named := (List.forall_mem_cons.mp sound.named).2
      columns_plain := (List.forall_mem_cons.mp sound.columns_plain).2
      names_differ := sound.names_differ
      columns_differ := sound.columns_differ }

/-- A schema made from a plan. -/
structure Plan.Makes (plan : Plan) (s : Schema) : Prop where
  name : s.name = plan.name
  table : s.table = plan.table
  tableSpace : s.tableSpace = plan.tableSpace
  fields : s.fields = .identifier plan.idColumn :: plan.fields

theorem makes_of_build (built : build plan = .ok s) : plan.Makes s := by
  rw [build] at built
  split at built
  · cases built
  · split at built
    · cases built
    · split at built
      · cases built
      · obtain rfl := Except.ok.inj built
        exact ⟨rfl, rfl, rfl, rfl⟩

theorem exists_build_iff : (∃ s, build plan = .ok s) ↔ plan.WellFormed := by
  constructor
  · rintro ⟨s, built⟩
    obtain ⟨name, table, -, fields⟩ := makes_of_build built
    exact Plan.wellFormed_iff.mpr ⟨name ▸ s.named, table ▸ s.table_plain, fields ▸ s.sound⟩
  · intro good
    obtain ⟨named, table, sound⟩ := Plan.wellFormed_iff.mp good
    have table : checkName .invalidArgument plan.table = .ok () := checkName_eq_ok_iff.mpr table
    have fields : checkFields plan.name [] [] (.identifier plan.idColumn :: plan.fields) = .ok () :=
      checkFields_eq_ok_iff.mpr sound
    rw [build, dif_neg named]
    split
    · rename_i failed
      exact nomatch failed.symm.trans table
    · split
      · rename_i failed
        exact nomatch failed.symm.trans fields
      · exact ⟨_, rfl⟩

theorem field_of_not_mem {name : String} (unknown : name ∉ s.fields.map Field.name) :
    s.field name = refuse .unknownField (.noField name s.name) := by
  have absent : s.fields.find? (fun f => f.name = name) = none := by
    rw [List.find?_eq_none]
    intro f member same
    exact unknown (List.mem_map.mpr ⟨f, member, by simpa using same⟩)
  rw [field, absent]

theorem fieldByColumn?_of_not_mem {column : String} (unknown : column ∉ s.columns) :
    s.fieldByColumn? column = none := by
  rw [Option.eq_none_iff_forall_ne_some]
  intro f found
  exact unknown (exists_fieldByColumn?_iff.mp ⟨f, found⟩)

theorem field_eq_ok_iff {name : String} : s.field name = .ok f ↔ f ∈ s.fields ∧ f.name = name := by
  constructor
  · intro found
    have resolved : (Selector.name name).resolve s = .ok f := found
    have member := mem_of_resolve resolved
    rw [field] at found
    split at found
    · rename_i g same
      obtain rfl := Except.ok.inj found
      exact ⟨member, by simpa using List.find?_some same⟩
    · cases found
  · rintro ⟨member, rfl⟩
    exact field_eq_of_mem member

/-- A field selects the field of the schema that has both its name and its column. -/
theorem resolve_field_eq_ok_iff :
    (Selector.field g).resolve s = .ok f ↔ f ∈ s.fields ∧ f.name = g.name ∧ f.columnName = g.columnName := by
  rw [Selector.resolve, bind_eq_ok_iff]
  constructor
  · rintro ⟨found, named, same⟩
    split at same
    · rename_i column
      obtain rfl := pure_eq_ok_iff.mp same
      obtain ⟨member, name⟩ := field_eq_ok_iff.mp named
      exact ⟨member, name, column⟩
    · cases same
  · rintro ⟨member, name, column⟩
    refine ⟨f, field_eq_ok_iff.mpr ⟨member, name⟩, ?_⟩
    rw [if_pos column, pure_eq_ok]

/-- A schema is built just when its plan is well-formed. It has the identifier field and then the fields of the plan,
which are found by their names and by their columns, and nothing else is found. A field is taken for the field of its
name only if this has its column too. -/
theorem build_bijective (plan : Plan) : ((∃ s, build plan = .ok s) ↔ plan.WellFormed) ∧
    ∀ s, build plan = .ok s → plan.Makes s ∧
      (∀ f ∈ s.fields, s.field f.name = .ok f ∧ s.fieldByColumn? f.columnName = some f) ∧
      (∀ name, name ∉ s.fields.map Field.name → s.field name = refuse .unknownField (.noField name s.name)) ∧
      (∀ column, column ∉ s.columns → s.fieldByColumn? column = none) ∧
      ∀ g, ((∃ f, (Selector.field g).resolve s = .ok f) ↔
          ∃ f ∈ s.fields, f.name = g.name ∧ f.columnName = g.columnName) ∧
        ∀ f, (Selector.field g).resolve s = .ok f → (Selector.name g.name).resolve s = .ok f := by
  refine ⟨exists_build_iff, fun s built => ⟨makes_of_build built, ?_, fun name => field_of_not_mem,
    fun column => fieldByColumn?_of_not_mem, fun g => ⟨?_, fun f resolved => ?_⟩⟩⟩
  · exact fun f member => ⟨field_eq_of_mem member, fieldByColumn?_of_mem member⟩
  · exact exists_congr fun f => resolve_field_eq_ok_iff
  · obtain ⟨member, name, -⟩ := resolve_field_eq_ok_iff.mp resolved
    exact field_eq_ok_iff.mpr ⟨member, name⟩

/-- A field whose column has another name is found by each in its own place. -/
theorem build_bijective_of_user : ∃ s,
    build ⟨"User", "users", none, "id", [⟨"firstName", some "first_name", .string, false⟩]⟩ = .ok s ∧
      s.field "firstName" = .ok ⟨"firstName", some "first_name", .string, false⟩ ∧
      s.fieldByColumn? "first_name" = some ⟨"firstName", some "first_name", .string, false⟩ ∧
      s.field "first_name" = refuse .unknownField (.noField "first_name" "User") ∧
      s.fieldByColumn? "firstName" = none ∧
      (Selector.name "firstName").resolve s = .ok ⟨"firstName", some "first_name", .string, false⟩ ∧
      ¬ ∃ f, (Selector.field ⟨"firstName", none, .string, false⟩).resolve s = .ok f := by
  obtain ⟨succeeds, schemas⟩ := build_bijective
    ⟨"User", "users", none, "id", [⟨"firstName", some "first_name", .string, false⟩]⟩
  obtain ⟨s, built⟩ := succeeds.mpr ⟨by decide, by decide, by decide, by decide, by decide, by decide, by decide⟩
  obtain ⟨makes, found, unnamed, unmapped, selected⟩ := schemas s built
  have member : ⟨"firstName", some "first_name", .string, false⟩ ∈ s.fields := by
    rw [makes.fields]
    exact List.mem_cons_of_mem _ List.mem_cons_self
  have unnamed := unnamed "first_name" (by rw [makes.fields]; decide)
  have unmapped := unmapped "firstName" (by rw [columns, makes.fields]; decide)
  rw [makes.name] at unnamed
  refine ⟨s, built, (found _ member).1, (found _ member).2, unnamed, unmapped, ?_, ?_⟩
  · exact (selected ⟨"firstName", some "first_name", .string, false⟩).2 _ (resolve_field member)
  · rw [(selected _).1, makes.fields]
    decide

end Schema
end Tenancy
