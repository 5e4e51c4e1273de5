import Tenancy.Proofs.Sql.Token

/-! What can be read from the text of a condition, and a reader of its tokens. The reader groups chains
of operators that are written without parentheses from the left. -/
namespace Tenancy.Sql

/-- A condition as its text tells it: values without quotes by their printed form. -/
inductive Reading where
  | column (name : String)
  | text (s : String)
  | scalar (printed : String)
  | test (left : Reading) (operator : Operator)
  | binary (left : Reading) (operator : Operator) (right : Reading)
deriving DecidableEq

namespace Reading

def tokens : Reading → List Token
  | .column name => [.column name]
  | .text s => [.text s]
  | .scalar printed => [.scalar printed]
  | .test left operator => left.tokens ++ [.symbol operator]
  | .binary left operator right =>
    if operator.isConnective then
      .opening :: (left.tokens ++ .symbol operator :: (right.tokens ++ [.closing]))
    else left.tokens ++ .symbol operator :: right.tokens

theorem tokens_eq_cons (r : Reading) :
    ∃ token rest, r.tokens = token :: rest ∧ ∀ operator, token ≠ .symbol operator := by
  induction r with
  | column name => exact ⟨_, _, rfl, by simp⟩
  | text s => exact ⟨_, _, rfl, by simp⟩
  | scalar printed => exact ⟨_, _, rfl, by simp⟩
  | test left operator ih =>
    obtain ⟨token, rest, same, other⟩ := ih
    exact ⟨token, rest ++ [.symbol operator], by rw [tokens, same, List.cons_append], other⟩
  | binary left operator right ih =>
    rw [tokens]
    split
    · exact ⟨_, _, rfl, by simp⟩
    · obtain ⟨token, rest, same, other⟩ := ih
      exact ⟨token, rest ++ .symbol operator :: right.tokens, by rw [same, List.cons_append], other⟩

end Reading

/-- An operator and its right side keep apart. -/
theorem KeepApart.symbol_reading {r : Reading} {more : List Token} (apart : KeepApart (r.tokens ++ more))
    (operator : Operator) : KeepApart (.symbol operator :: (r.tokens ++ more)) := by
  obtain ⟨token, rest, same, other⟩ := r.tokens_eq_cons
  rw [same] at apart ⊢
  exact ⟨.inr (apart.1.opensOperand other), apart⟩

def Literal.reading : Literal → Reading
  | .text s => .text s
  | literal => .scalar literal.sql

def Clause.reading : Clause → Reading
  | .column name => .column name
  | .literal value => value.reading
  | .nullTest left operator => .test left.reading operator
  | .binary left operator right => .binary left.reading operator right.reading

/-- A reader between two tokens. Of each open parenthesis it keeps what becomes of the group, and of the
innermost group what becomes of the next right side. -/
inductive Reader where
  | before (groups : List (Reading → Reading)) (context : Reading → Reading)
  | after (groups : List (Reading → Reading)) (context : Reading → Reading) (left : Reading)

namespace Reader

/-- A right side ends the chain that it stands in, and a column on the left does not. -/
def step : Reader → Token → Option Reader
  | .before groups context, .column name => some (.after groups context (.column name))
  | .before groups context, .text s => some (.after groups id (context (.text s)))
  | .before groups context, .scalar printed => some (.after groups id (context (.scalar printed)))
  | .before groups context, .opening => some (.before (context :: groups) id)
  | .after groups context left, .symbol operator =>
    if operator.isConnective then
      match groups with
      | group :: groups => some (.before ((fun right => group (.binary left operator right)) :: groups) id)
      | [] => none
    else if operator.isNullTest then some (.after groups id (context (.test left operator)))
    else some (.before groups fun right => context (.binary left operator right))
  | .after (group :: groups) _ right, .closing => some (.after groups id (group right))
  | _, _ => none

def run (reader : Reader) (tokens : List Token) : Option Reader := tokens.foldlM step reader

variable {reader next : Reader} {groups : List (Reading → Reading)} {context : Reading → Reading}
  {left : Reading} {operator : Operator}

theorem run_cons {token : Token} (steps : reader.step token = some next) (rest : List Token) :
    reader.run (token :: rest) = next.run rest := by
  rw [run, List.foldlM_cons, steps]
  rfl

theorem run_append {tokens : List Token} (runs : reader.run tokens = some next) (rest : List Token) :
    reader.run (tokens ++ rest) = next.run rest := by
  rw [run] at runs
  rw [run, List.foldlM_append, runs]
  rfl

theorem step_connective (joins : operator.isConnective = true) (group : Reading → Reading) :
    (after (group :: groups) context left).step (.symbol operator) =
      some (.before ((fun right => group (.binary left operator right)) :: groups) id) := by
  rw [step.eq_def]
  exact if_pos joins

theorem step_test (other : ¬ operator.isConnective = true) (tests : operator.isNullTest = true) :
    (after groups context left).step (.symbol operator) =
      some (.after groups id (context (.test left operator))) := by
  rw [step.eq_def]
  exact (if_neg other).trans (if_pos tests)

theorem step_binary (other : ¬ operator.isConnective = true) (binary : ¬ operator.isNullTest = true) :
    (after groups context left).step (.symbol operator) =
      some (.before groups fun right => context (.binary left operator right)) := by
  rw [step.eq_def]
  exact (if_neg other).trans (if_neg binary)

end Reader

end Tenancy.Sql
