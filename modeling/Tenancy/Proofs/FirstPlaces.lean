import Mathlib.Data.List.Induction
import Mathlib.Data.List.Nodup

/-! Names in a row, each at its first place only. -/
namespace Tenancy

theorem eraseDups_concat (names : List String) (name : String) :
    (names ++ [name]).eraseDups = if name ∈ names then names.eraseDups else names.eraseDups ++ [name] := by
  rw [List.eraseDups_append]
  by_cases known : name ∈ names
  · simp [known, List.removeAll]
  · simp [known, List.removeAll, List.eraseDups_cons]

theorem nodup_eraseDups (names : List String) : names.eraseDups.Nodup := by
  induction names using List.reverseRecOn with
  | nil => simp
  | append_singleton names name ih =>
    rw [eraseDups_concat]
    split
    · exact ih
    · rename_i fresh
      have new : name ∉ names.eraseDups := by simpa using fresh
      rw [← List.concat_eq_append]
      exact ih.concat new

theorem eraseDups_eq_self {names : List String} (distinct : names.Nodup) : names.eraseDups = names := by
  induction names using List.reverseRecOn with
  | nil => rfl
  | append_singleton names name ih =>
    rw [← List.concat_eq_append, List.nodup_concat] at distinct
    rw [eraseDups_concat, if_neg distinct.1, ih distinct.2]

/-- Names that are added unless they are known stand after the known ones, in the order of their first places. -/
theorem foldl_add_unless_known (known added : List String) :
    added.foldl (fun names name => if name ∈ names then names else names ++ [name]) known =
      known ++ added.eraseDups.filter (· ∉ known) := by
  induction added using List.reverseRecOn with
  | nil => simp
  | append_singleton added name ih =>
    simp only [List.foldl_append, List.foldl_cons, List.foldl_nil, ih, eraseDups_concat]
    by_cases before : name ∈ known <;> by_cases repeated : name ∈ added <;> simp [before, repeated]

end Tenancy
