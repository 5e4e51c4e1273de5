/-! Names that may stand in a statement without quotes: a lower-case letter, then lower-case
letters, digits and underscores. -/
namespace Tenancy.Sql

def isNameStart (c : Char) : Bool := 'a' ≤ c && c ≤ 'z'

def isNameChar (c : Char) : Bool := isNameStart c || ('0' ≤ c && c ≤ '9') || c = '_'

def isName (text : String) : Bool :=
  match text.toList with
  | [] => false
  | c :: rest => isNameStart c && rest.all isNameChar

inductive NameFault where
  | empty
  | malformed (name : String)
deriving DecidableEq

def NameFault.message : NameFault → String
  | .empty => "Identifier cannot be empty"
  | .malformed name =>
    "Identifier '" ++ name ++ "' is invalid. Must start with a lowercase letter and contain only "
      ++ "lowercase letters, numbers, and underscores."

def checkName (name : String) : Except NameFault Unit :=
  if name.isEmpty then .error .empty
  else if isName name then .ok ()
  else .error (.malformed name)

theorem checkName_eq_ok_iff (name : String) : checkName name = .ok () ↔ isName name = true := by
  by_cases blank : name = ""
  · subst blank
    simp [checkName, isName]
  · by_cases good : isName name = true <;> simp [checkName, blank, good]

theorem isNameChar_of_mem {name : String} (named : isName name = true) {c : Char}
    (member : c ∈ name.toList) : isNameChar c = true := by
  unfold isName at named
  split at named
  · cases named
  · rename_i first rest chars
    rw [chars] at member
    simp only [Bool.and_eq_true, List.all_eq_true] at named
    rcases List.mem_cons.mp member with rfl | inRest
    · simp [isNameChar, named.1]
    · exact named.2 c inRest

end Tenancy.Sql
