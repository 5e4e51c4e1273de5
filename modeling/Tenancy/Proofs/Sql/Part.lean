import Tenancy.Proofs.Query.Reading

/-! Names, values and lists of them in a statement. Each is read back before what may follow it, and
what a list shows is told by its text. -/
namespace Tenancy.Sql

/-- The token of a value. -/
def Literal.token : Literal → Token
  | .text s => .text s
  | literal => .scalar literal.sql

@[simp] theorem Literal.written_token (literal : Literal) : literal.token.written = literal.sql.toList := by
  cases literal <;> rfl

theorem Literal.tokens_reading (literal : Literal) : literal.reading.tokens = [literal.token] := by
  cases literal <;> rfl

theorem Literal.endsBefore (literal : Literal) {rest : List Char} (boundary : IsBoundary rest) :
    literal.token.EndsBefore rest := by
  cases literal with
  | text s => exact boundary
  | _ => exact ⟨isScalar_sql rfl, boundary⟩

def readName (text : List Char) : Option (String × List Char) :=
  match readToken text with
  | some (.column name, rest) => some (name, rest)
  | _ => none

def readValue (text : List Char) : Option (Reading × List Char) :=
  match readToken text with
  | some (.text s, rest) => some (.text s, rest)
  | some (.scalar printed, rest) => some (.scalar printed, rest)
  | _ => none

theorem readName_append {name : String} {rest : List Char} (named : isName name = true)
    (boundary : IsBoundary rest) : readName (name.toList ++ rest) = some (name, rest) := by
  have ends : (Token.column name).EndsBefore rest := ⟨named, boundary⟩
  have read := readToken_written ends
  rw [Token.written_column] at read
  simp [readName, read]

theorem readValue_append (literal : Literal) {rest : List Char} (boundary : IsBoundary rest) :
    readValue (literal.sql.toList ++ rest) = some (literal.reading, rest) := by
  have read := readToken_written (literal.endsBefore boundary)
  simp only [Literal.written_token] at read
  cases literal <;> simp [readValue, read, Literal.token, Literal.reading]

/-- What may follow a condition or a list: nothing, or a blank or a closing parenthesis. -/
def MayFollow (rest : List Char) : Prop := ∀ c ∈ rest.head?, c = ' ' ∨ c = ')'

theorem MayFollow.isBoundary {rest : List Char} (follows : MayFollow rest) : IsBoundary rest := by
  intro c first
  rcases follows c first with rfl | rfl <;> decide

theorem mayFollow_closing (rest : List Char) : MayFollow (')' :: rest) := by
  rintro c ⟨⟩
  exact .inr rfl

theorem mayFollow_blank (rest : List Char) : MayFollow (' ' :: rest) := by
  rintro c ⟨⟩
  exact .inl rfl

theorem isBoundary_comma (rest : List Char) : IsBoundary (',' :: rest) := by
  rintro c ⟨⟩
  decide

theorem not_mayFollow_comma (rest : List Char) : ¬ MayFollow (',' :: rest) :=
  fun follows => absurd (follows ',' rfl) (by decide)

/-! Texts that tell what they are written from. -/

variable {α β : Type} {Fits : α → Prop} {text : α → String} {shown : α → β}

/-- What an item shows is told by its text, whatever may follow it. -/
structure Told (Fits : α → Prop) (text : α → String) (shown : α → β) : Prop where
  tells : ∀ {a b : α} {rest rest' : List Char}, Fits a → Fits b → IsBoundary rest → IsBoundary rest' →
    (text a).toList ++ rest = (text b).toList ++ rest' → shown a = shown b ∧ rest = rest'

theorem told_of_read {read : List Char → Option (β × List Char)}
    (reads : ∀ a rest, Fits a → IsBoundary rest → read ((text a).toList ++ rest) = some (shown a, rest)) :
    Told Fits text shown where
  tells := by
    intro a b rest rest' fits fits' boundary boundary' same
    have first := reads a rest fits boundary
    rw [same, reads b rest' fits' boundary'] at first
    simpa [eq_comm] using first

theorem Told.comap {γ : Type} (told : Told Fits text shown) (part : γ → α) :
    Told (fun whole => Fits (part whole)) (fun whole => text (part whole)) fun whole => shown (part whole) :=
  ⟨told.tells⟩

theorem told_name : Told (fun name => isName name = true) id id :=
  told_of_read fun _ _ named boundary => readName_append named boundary

theorem told_value : Told (fun _ => True) Literal.sql Literal.reading :=
  told_of_read fun literal _ _ boundary => readValue_append literal boundary

theorem commaSeparated_cons_cons (first second : String) (texts : List String) :
    (Text.commaSeparated (first :: second :: texts)).toList =
      first.toList ++ ',' :: ' ' :: (Text.commaSeparated (second :: texts)).toList := by
  simp [Text.commaSeparated, Text.joined]

/-- Items in a row are kept apart by commas, and no comma may follow the last one. -/
theorem Told.commaSeparated (told : Told Fits text shown) {first first' : α} {items items' : List α}
    {rest rest' : List Char} (fits : ∀ item ∈ first :: items, Fits item)
    (fits' : ∀ item ∈ first' :: items', Fits item) (follows : MayFollow rest) (follows' : MayFollow rest')
    (same : (Text.commaSeparated ((first :: items).map text)).toList ++ rest =
      (Text.commaSeparated ((first' :: items').map text)).toList ++ rest') :
    (first :: items).map shown = (first' :: items').map shown ∧ rest = rest' := by
  induction items generalizing first first' items' with
  | nil =>
    cases items' with
    | nil =>
      have alike := told.tells (fits first (by simp)) (fits' first' (by simp)) follows.isBoundary
        follows'.isBoundary same
      simpa using alike
    | cons second' items' =>
      simp only [List.map_cons, commaSeparated_cons_cons, List.append_assoc] at same
      obtain ⟨_, rfl⟩ := told.tells (fits first (by simp)) (fits' first' (by simp)) follows.isBoundary
        (isBoundary_comma _) same
      exact absurd follows (not_mayFollow_comma _)
  | cons second items ih =>
    cases items' with
    | nil =>
      simp only [List.map_cons, commaSeparated_cons_cons, List.append_assoc] at same
      obtain ⟨_, rfl⟩ := told.tells (fits first (by simp)) (fits' first' (by simp)) (isBoundary_comma _)
        follows'.isBoundary same
      exact absurd follows' (not_mayFollow_comma _)
    | cons second' items' =>
      simp only [List.map_cons, commaSeparated_cons_cons, List.append_assoc] at same
      obtain ⟨alike, tails⟩ := told.tells (fits first (by simp)) (fits' first' (by simp)) (isBoundary_comma _)
        (isBoundary_comma _) same
      have others := ih (fun item member => fits item (List.mem_cons_of_mem _ member))
        (fun item member => fits' item (List.mem_cons_of_mem _ member)) (by simpa using tails)
      exact ⟨by simpa [alike] using others.1, others.2⟩

end Tenancy.Sql
