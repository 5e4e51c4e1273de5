import Tenancy.Json.Printer

/-! Values written into a statement. A text stands in single quotes with each of its own quotes
doubled, and holds no NUL character. -/
namespace Tenancy.Sql

inductive Literal where
  | null
  | bool (b : Bool)
  | number (n : Json.Number)
  | text (s : String)

inductive LiteralFault where
  | nulCharacter
  | structured (value : Json)

def LiteralFault.message : LiteralFault → String
  | .nulCharacter => "String literal cannot contain NUL characters"
  | .structured value => "Cannot use structured value " ++ value.text ++ " as a SQL literal"

def doubledQuotes (text : List Char) : List Char :=
  text.flatMap fun c => if c = '\'' then ['\'', '\''] else [c]

def quotedText (text : String) : String :=
  String.ofList ('\'' :: doubledQuotes text.toList ++ ['\''])

theorem doubledQuotes_eq_self {text : List Char} (unquoted : '\'' ∉ text) : doubledQuotes text = text := by
  induction text with
  | nil => rfl
  | cons c rest ih =>
    simp only [List.mem_cons, not_or] at unquoted
    rw [doubledQuotes, List.flatMap_cons, if_neg (Ne.symm unquoted.1)]
    exact congrArg (c :: ·) (ih unquoted.2)

theorem quotedText_eq {text : String} (unquoted : '\'' ∉ text.toList) :
    quotedText text = "'" ++ text ++ "'" := by
  apply String.toList_injective
  simp [quotedText, doubledQuotes_eq_self unquoted]

namespace Literal

def ofText (text : String) : Except LiteralFault Literal :=
  if text.toList.contains '\x00' then .error .nulCharacter else .ok (.text text)

def ofJson : Json → Except LiteralFault Literal
  | .null => .ok .null
  | .bool b => .ok (.bool b)
  | .number n => .ok (.number n)
  | .string s => ofText s
  | value => .error (.structured value)

def sql : Literal → String
  | .null => "NULL"
  | .bool true => "TRUE"
  | .bool false => "FALSE"
  | .number n => n.text
  | .text s => quotedText s

end Literal
end Tenancy.Sql
