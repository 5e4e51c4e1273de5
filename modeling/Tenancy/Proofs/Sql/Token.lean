import Tenancy.Proofs.Sql.Containment

/-! The tokens of a condition in a statement. A token is read back from the characters before a
boundary, so a sequence of tokens that keep apart is told by its text. -/
namespace Tenancy

/-- An operator with the blanks around it. -/
def Operator.spaced (operator : Operator) : String :=
  if operator.isComparison then operator.symbol
  else if operator.isNullTest then " " ++ operator.symbol
  else " " ++ operator.symbol ++ " "

theorem Operator.spaced_of_isNullTest {operator : Operator} (tests : operator.isNullTest = true) :
    operator.spaced = " " ++ operator.symbol := by
  cases operator <;> first | rfl | cases tests

theorem Operator.spaced_of_isConnective {operator : Operator} (joins : operator.isConnective = true) :
    operator.spaced = " " ++ operator.symbol ++ " " := by
  cases operator <;> first | rfl | cases joins

namespace Sql

/-- Values without quotes are told by their printed form. -/
inductive Token where
  | column (name : String)
  | text (s : String)
  | scalar (printed : String)
  | symbol (operator : Operator)
  | opening
  | closing
deriving DecidableEq

def Token.written : Token → List Char
  | .column name => name.toList
  | .text s => (quotedText s).toList
  | .scalar printed => printed.toList
  | .symbol operator => operator.spaced.toList
  | .opening => ['(']
  | .closing => [')']

@[simp] theorem Token.written_column (name : String) : (column name).written = name.toList := rfl

@[simp] theorem Token.written_symbol (operator : Operator) :
    (symbol operator).written = operator.spaced.toList := rfl

@[simp] theorem Token.written_opening : opening.written = ['('] := rfl

@[simp] theorem Token.written_closing : closing.written = [')'] := rfl

def writtenTokens (tokens : List Token) : List Char := tokens.flatMap Token.written

@[simp] theorem writtenTokens_nil : writtenTokens [] = [] := rfl

@[simp] theorem writtenTokens_append (a b : List Token) :
    writtenTokens (a ++ b) = writtenTokens a ++ writtenTokens b := List.flatMap_append

@[simp] theorem writtenTokens_cons (token : Token) (rest : List Token) :
    writtenTokens (token :: rest) = token.written ++ writtenTokens rest := rfl

/-! Reading one token. -/

/-- Reads up to the quote that ends a text; two quotes stand for one. -/
def readQuoted : List Char → Option (List Char × List Char)
  | [] => none
  | '\'' :: '\'' :: rest => (readQuoted rest).map (Prod.map ('\'' :: ·) id)
  | c :: rest => if c = '\'' then some ([], rest) else (readQuoted rest).map (Prod.map (c :: ·) id)

/-- Operators whose symbol another one begins with come after that one. -/
def longestFirst : List Operator :=
  [.ne, .lte, .gte, .eq, .lt, .gt, .isNull, .isNotNull, .and, .or, .like, .notLike, .ilike]

def readOperator (text : List Char) : Option (Operator × List Char) :=
  longestFirst.findSome? fun operator =>
    if operator.spaced.toList.isPrefixOf text then
      some (operator, text.drop operator.spaced.toList.length)
    else none

def isScalarChar (c : Char) : Bool := isNumberChar c || c.isUpper

def readToken : List Char → Option (Token × List Char)
  | [] => none
  | c :: rest =>
    if isNameStart c then
      some (.column (String.ofList ((c :: rest).takeWhile isNameChar)), (c :: rest).dropWhile isNameChar)
    else if isScalarChar c then
      some (.scalar (String.ofList ((c :: rest).takeWhile isScalarChar)), (c :: rest).dropWhile isScalarChar)
    else if c = '(' then some (.opening, rest)
    else if c = ')' then some (.closing, rest)
    else if c = '\'' then (readQuoted rest).map fun (read, rest) => (.text (String.ofList read), rest)
    else (readOperator (c :: rest)).map fun (operator, rest) => (.symbol operator, rest)

/-! Where a token ends. -/

/-- What may follow a name or a value: nothing, or the start of an operator, a comma or a closing
parenthesis. -/
def IsBoundary (rest : List Char) : Prop := ∀ c ∈ rest.head?, c ∈ [' ', '=', '<', '>', ',', ')']

/-- What may follow an operator without being taken for a part of it. -/
def OpensOperand (rest : List Char) : Prop := ∀ c ∈ rest.head?, c ∉ ['=', '>']

/-- A printed value: its characters, of which the first begins no name. -/
structure IsScalar (printed : List Char) : Prop where
  chars : ∀ c ∈ printed, isScalarChar c = true
  start : ∃ c ∈ printed.head?, isNameStart c = false

/-- The token ends where the rest begins. -/
def Token.EndsBefore (rest : List Char) : Token → Prop
  | .column name => isName name = true ∧ IsBoundary rest
  | .text _ => IsBoundary rest
  | .scalar printed => IsScalar printed.toList ∧ IsBoundary rest
  | .symbol operator => operator.isNullTest = true ∨ OpensOperand rest
  | .opening | .closing => True

theorem takeWhile_eq_of_ends {p : Char → Bool} {text rest : List Char} (all : ∀ c ∈ text, p c = true)
    (ends : ∀ c ∈ rest.head?, p c = false) :
    (text ++ rest).takeWhile p = text ∧ (text ++ rest).dropWhile p = rest := by
  rw [List.takeWhile_append_of_pos all, List.dropWhile_append_of_pos all]
  cases rest with
  | nil => simp
  | cons c rest => simp [ends c rfl]

theorem readQuoted_doubledQuotes (text : List Char) {rest : List Char} (apart : rest.head? ≠ some '\'') :
    readQuoted (doubledQuotes text ++ '\'' :: rest) = some (text, rest) := by
  induction text with
  | nil =>
    rw [doubledQuotes, List.flatMap_nil, List.nil_append, readQuoted]
    · rw [if_pos rfl]
    · rintro tail - rfl
      exact apart rfl
  | cons c text ih =>
    by_cases quote : c = '\''
    · subst quote
      change (readQuoted (doubledQuotes text ++ '\'' :: rest)).map _ = _
      rw [ih]
      rfl
    · rw [doubledQuotes, List.flatMap_cons, if_neg quote, List.singleton_append, List.cons_append, readQuoted]
      · rw [if_neg quote]
        change (readQuoted (doubledQuotes text ++ '\'' :: rest)).map _ = _
        rw [ih]
        rfl
      · intro _ same
        exact absurd same quote

theorem readOperator_spaced {operator : Operator} {rest : List Char}
    (ends : operator.isNullTest = true ∨ OpensOperand rest) :
    readOperator (operator.spaced.toList ++ rest) = some (operator, rest) := by
  cases operator with
  | lt | gt =>
    have opens := ends.resolve_left (by decide)
    cases rest with
    | nil => rfl
    | cons c rest =>
      have other := opens c rfl
      simp only [List.mem_cons, List.not_mem_nil, or_false, not_or] at other
      simp [readOperator, longestFirst, Operator.spaced, Operator.isComparison, Operator.symbol,
        Ne.symm other.1, Ne.symm other.2]
  | _ => rfl

theorem isNameStart_of_isDigit {c : Char} (digit : c.isDigit = true) : isNameStart c = false := by
  simp only [Char.isDigit, Bool.and_eq_true, decide_eq_true_eq] at digit
  rw [isNameStart, Bool.and_eq_false_iff, decide_eq_false_iff_not]
  left
  intro letter
  exact absurd (UInt32.le_trans (Char.le_def.mp letter) digit.2) (by decide)

theorem Signed.isScalar {text : List Char} (number : Signed text) : IsScalar text where
  chars := fun c member => by simp [isScalarChar, number.numeric.chars c member]
  start := by
    cases number with
    | minus number => exact ⟨'-', rfl, by decide⟩
    | plain number =>
      cases text with
      | nil => cases number.digit
      | cons c rest => exact ⟨c, rfl, isNameStart_of_isDigit number.digit⟩

theorem isScalar_sql {literal : Literal} (untexted : literal.texts = []) : IsScalar literal.sql.toList := by
  cases literal with
  | null => exact ⟨List.all_eq_true.mp (by decide), _, rfl, by decide⟩
  | bool b => cases b <;> exact ⟨List.all_eq_true.mp (by decide), _, rfl, by decide⟩
  | number n => exact (signed_numberText n).isScalar
  | text s => cases untexted

theorem IsBoundary.not_of_any {p : Char → Bool} {rest : List Char} (boundary : IsBoundary rest)
    (none : [' ', '=', '<', '>', ',', ')'].any p = false) : ∀ c ∈ rest.head?, p c = false :=
  fun c first => eq_false_of_ne_true (List.any_eq_false.mp none c (boundary c first))

theorem readToken_written {token : Token} {rest : List Char} (ends : token.EndsBefore rest) :
    readToken (token.written ++ rest) = some (token, rest) := by
  cases token with
  | column name =>
    obtain ⟨named, boundary⟩ := ends
    obtain ⟨taken, dropped⟩ := takeWhile_eq_of_ends (fun c => isNameChar_of_mem named)
      (boundary.not_of_any (by decide))
    rw [Token.written]
    cases chars : name.toList with
    | nil => simp [isName, chars] at named
    | cons c tail =>
      have start : isNameStart c = true := by
        simp only [isName, chars, Bool.and_eq_true] at named
        exact named.1
      rw [chars] at taken dropped
      rw [List.cons_append] at taken dropped ⊢
      rw [readToken, if_pos start, taken, dropped, ← chars, String.ofList_toList]
  | scalar printed =>
    obtain ⟨⟨all, first, head, other⟩, boundary⟩ := ends
    obtain ⟨taken, dropped⟩ := takeWhile_eq_of_ends all (boundary.not_of_any (by decide))
    rw [Token.written]
    cases chars : printed.toList with
    | nil => simp [chars] at head
    | cons c tail =>
      rw [chars] at head all taken dropped
      obtain rfl : c = first := Option.some.inj head
      have scalar : isScalarChar c = true := all c List.mem_cons_self
      rw [List.cons_append] at taken dropped ⊢
      rw [readToken, if_neg (by simp [other]), if_pos scalar, taken, dropped, ← chars, String.ofList_toList]
  | text s =>
    have apart : rest.head? ≠ some '\'' := fun quote => absurd (ends '\'' quote) (by decide)
    have read := readQuoted_doubledQuotes s.toList apart
    rw [Token.written, quotedText, String.toList_ofList, List.cons_append, List.cons_append, List.append_assoc,
      List.singleton_append]
    simp [readToken, read, isNameStart, isScalarChar, isNumberChar]
  | symbol operator =>
    have read := readOperator_spaced ends
    rw [Token.written]
    cases chars : operator.spaced.toList with
    | nil => cases operator <;> cases chars
    | cons c tail =>
      have skipped : isNameStart c = false ∧ isScalarChar c = false ∧ c ∉ ['(', ')', '\''] := by
        cases operator <;> cases chars <;> decide
      simp only [List.mem_cons, List.not_mem_nil, or_false, not_or] at skipped
      rw [chars, List.cons_append] at read
      rw [List.cons_append, readToken, read]
      simp [skipped]
  | opening => rfl
  | closing => rfl

/-- Each token ends where the next begins. -/
def KeepApart : List Token → Prop
  | [] => True
  | token :: rest => token.EndsBefore (writtenTokens rest) ∧ KeepApart rest

theorem isBoundary_spaced (operator : Operator) (rest : List Char) :
    IsBoundary (operator.spaced.toList ++ rest) := by
  cases operator <;> intro c first <;> cases first <;> decide

theorem isBoundary_symbol (operator : Operator) (rest : List Token) :
    IsBoundary (writtenTokens (.symbol operator :: rest)) :=
  isBoundary_spaced operator (writtenTokens rest)

theorem isBoundary_closing (rest : List Token) : IsBoundary (writtenTokens (.closing :: rest)) := by
  intro c first
  cases first
  decide

theorem opensOperand_append {text : List Char} {c : Char} (first : c ∈ text.head?)
    (other : isNameChar c = true ∨ isScalarChar c = true ∨ c = '\'') (rest : List Char) :
    OpensOperand (text ++ rest) := by
  cases text with
  | nil => cases first
  | cons d tail =>
    cases first
    intro e same member
    cases same
    simp only [List.mem_cons, List.not_mem_nil, or_false] at member
    rcases member with rfl | rfl <;> exact absurd other (by decide)

/-- No token but an operator begins with what may be the rest of an operator. -/
theorem Token.EndsBefore.opensOperand {token : Token} {rest : List Char} (ends : token.EndsBefore rest)
    (other : ∀ operator, token ≠ .symbol operator) : OpensOperand (token.written ++ rest) := by
  cases token with
  | symbol operator => exact absurd rfl (other operator)
  | column name =>
    rw [written]
    cases chars : name.toList with
    | nil => simp [EndsBefore, isName, chars] at ends
    | cons c tail =>
      have named := isNameChar_of_mem ends.1 (chars ▸ List.mem_cons_self)
      exact opensOperand_append rfl (.inl named) rest
  | scalar printed =>
    obtain ⟨c, first, _⟩ := ends.1.start
    exact opensOperand_append first (.inr (.inl (ends.1.chars c (List.mem_of_mem_head? first)))) rest
  | text s =>
    rw [written, quotedText, String.toList_ofList]
    exact opensOperand_append rfl (.inr (.inr rfl)) rest
  | opening =>
    rintro c ⟨⟩
    decide
  | closing =>
    rintro c ⟨⟩
    decide

theorem eq_of_written_eq {first second : List Token} (apart : KeepApart first) (apart' : KeepApart second)
    (same : writtenTokens first = writtenTokens second) : first = second := by
  induction first generalizing second with
  | nil =>
    cases second with
    | nil => rfl
    | cons token rest =>
      have read := readToken_written apart'.1
      rw [← writtenTokens_cons, ← same] at read
      cases read
  | cons token rest ih =>
    have read := readToken_written apart.1
    rw [← writtenTokens_cons, same] at read
    cases second with
    | nil => cases read
    | cons token' rest' =>
      rw [writtenTokens_cons, readToken_written apart'.1] at read
      obtain ⟨rfl, sameRest⟩ := Prod.mk.inj (Option.some.inj read)
      rw [ih apart.2 apart'.2 sameRest.symm]

end Sql
end Tenancy
