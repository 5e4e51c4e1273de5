import Tenancy.Error

/-! The database as a store sees it: it receives statements and answers each with rows or a failure.
Its answers are settled in advance, and where none is left it answers with no rows. -/
namespace Tenancy

inductive Reply where
  | rows (rows : List Record)
  | failure (error : DataError)

structure Backend where
  queued : List Reply := []
  /-- The statements received so far, the first one first. -/
  received : List String := []

namespace Backend

def execute (b : Backend) (sql : String) : Checked (List Record) × Backend :=
  let received := b.received ++ [sql]
  match b.queued with
  | [] => (.ok [], ⟨[], received⟩)
  | .rows rows :: queued => (.ok rows, ⟨queued, received⟩)
  | .failure error :: queued => (.error error, ⟨queued, received⟩)

/-- A statement is received whatever its answer is. -/
@[simp] theorem execute_received (b : Backend) (sql : String) :
    (b.execute sql).2.received = b.received ++ [sql] := by
  unfold execute
  split <;> rfl

/-- Executes statements in order up to the first that fails, and collects their rows. -/
def executeAll (b : Backend) : List String → Checked (List Record) × Backend
  | [] => (.ok [], b)
  | sql :: rest =>
    match b.execute sql with
    | (.error error, b) => (.error error, b)
    | (.ok rows, b) =>
      match b.executeAll rest with
      | (.error error, b) => (.error error, b)
      | (.ok more, b) => (.ok (rows ++ more), b)

end Backend
end Tenancy
