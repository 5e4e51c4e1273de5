import Tenancy.Sql.Statement

/-! Reading statements back. A scanner copies the characters outside literals and decodes the
literals; a backslash is a character like any other. What it makes of a text is known part by part:
`Reads` and `Settles` say it of the parts and hold of what is put together from them. -/
namespace Tenancy.Sql

/-- What stands outside the literals of a text, and the literals in their order. -/
structure Scan where
  outside : List Char
  literals : List String
deriving DecidableEq

def Scan.append (a b : Scan) : Scan := ⟨a.outside ++ b.outside, a.literals ++ b.literals⟩

/-- Scans outside a literal, or inside one of which some characters have been read. A text that ends
inside a literal has no scan. -/
def scanFrom : Option (List Char) → List Char → Option Scan
  | none, [] => some ⟨[], []⟩
  | none, c :: rest =>
    if c = '\'' then scanFrom (some []) rest
    else (scanFrom none rest).map (Scan.append ⟨[c], []⟩)
  | some _, [] => none
  | some read, '\'' :: '\'' :: rest => scanFrom (some (read ++ ['\''])) rest
  | some read, c :: rest =>
    if c = '\'' then (scanFrom none rest).map (Scan.append ⟨[], [String.ofList read]⟩)
    else scanFrom (some (read ++ [c])) rest

def scan (statement : String) : Option Scan := scanFrom none statement.toList

/-- No character or pair of characters that ends a statement, opens a comment or cuts the text. -/
structure Harmless (outside : List Char) : Prop where
  semicolon : ';' ∉ outside
  nul : '\x00' ∉ outside
  lineComment : ¬ ['-', '-'] <:+: outside
  blockComment : ¬ ['/', '*'] <:+: outside

def startsWithDigit : List Char → Bool
  | [] => false
  | c :: _ => c.isDigit

/-- A text that keeps harmless when others like it follow: without quotes, semicolons, slashes and
NUL characters, each minus sign directly before a digit. -/
def isCalm : List Char → Bool
  | [] => true
  | c :: rest =>
    !(['\'', ';', '/', '\x00'].contains c) && (c ≠ '-' || startsWithDigit rest) && isCalm rest

theorem isCalm_cons_iff {c : Char} {rest : List Char} :
    isCalm (c :: rest) = true ↔
      c ∉ ['\'', ';', '/', '\x00'] ∧ (c = '-' → startsWithDigit rest = true) ∧ isCalm rest = true := by
  simp only [isCalm, Bool.and_eq_true, Bool.not_eq_true', List.contains_eq_mem, decide_eq_false_iff_not,
    Bool.or_eq_true, decide_eq_true_eq, and_assoc, ne_eq, ← Decidable.imp_iff_not_or]

theorem startsWithDigit_append {a : List Char} (b : List Char) (digit : startsWithDigit a = true) :
    startsWithDigit (a ++ b) = true := by
  cases a with
  | nil => cases digit
  | cons c a => exact digit

theorem isCalm_append {a b : List Char} (first : isCalm a = true) (second : isCalm b = true) :
    isCalm (a ++ b) = true := by
  induction a with
  | nil => exact second
  | cons c a ih =>
    rw [isCalm_cons_iff] at first
    rw [List.cons_append, isCalm_cons_iff]
    exact ⟨first.1, fun minus => startsWithDigit_append b (first.2.1 minus), ih first.2.2⟩

theorem isCalm_of_forall {text : List Char}
    (plain : ∀ c ∈ text, c ∉ ['\'', ';', '/', '\x00', '-']) : isCalm text = true := by
  induction text with
  | nil => rfl
  | cons c text ih =>
    rw [List.forall_mem_cons] at plain
    rw [isCalm_cons_iff]
    refine ⟨?_, ?_, ih plain.2⟩
    · intro member
      exact plain.1 (List.mem_append_left ['-'] member)
    · rintro rfl
      exact absurd (by decide) plain.1

theorem not_mem_of_isCalm {text : List Char} (calm : isCalm text = true) :
    ∀ c ∈ ['\'', ';', '/', '\x00'], c ∉ text := by
  intro c special
  induction text with
  | nil => exact List.not_mem_nil
  | cons d text ih =>
    rw [isCalm_cons_iff] at calm
    rintro (_ | ⟨_, member⟩)
    · exact calm.1 special
    · exact ih calm.2.2 member

theorem harmless_of_isCalm {text : List Char} (calm : isCalm text = true) : Harmless text where
  semicolon := not_mem_of_isCalm calm _ (by decide)
  nul := not_mem_of_isCalm calm _ (by decide)
  blockComment := fun comment =>
    not_mem_of_isCalm calm '/' (by decide) (comment.subset (by decide))
  lineComment := by
    induction text with
    | nil => decide
    | cons c text ih =>
      rw [isCalm_cons_iff] at calm
      rw [List.infix_cons_iff]
      rintro (start | later)
      · obtain ⟨rest, same⟩ := start
        cases same
        simpa [startsWithDigit] using calm.2.1 rfl
      · exact ih calm.2.2 later

@[simp] theorem Scan.nil_append (a : Scan) : Scan.append ⟨[], []⟩ a = a := rfl

theorem Scan.append_assoc (a b c : Scan) : (a.append b).append c = a.append (b.append c) := by
  simp [Scan.append]

theorem map_append_append (a b : Scan) (found : Option Scan) :
    (found.map b.append).map a.append = found.map (a.append b).append := by
  cases found <;> simp [Scan.append_assoc]

theorem scanFrom_unquoted {text : List Char} (unquoted : '\'' ∉ text) (rest : List Char) :
    scanFrom none (text ++ rest) = (scanFrom none rest).map (Scan.append ⟨text, []⟩) := by
  induction text with
  | nil => cases h : scanFrom none rest <;> simp [h]
  | cons c text ih =>
    simp only [List.mem_cons, not_or] at unquoted
    rw [List.cons_append, scanFrom, if_neg (Ne.symm unquoted.1), ih unquoted.2, map_append_append]
    rfl

theorem scanFrom_inside {c : Char} (other : c ≠ '\'') (read rest : List Char) :
    scanFrom (some read) (c :: rest) = scanFrom (some (read ++ [c])) rest := by
  rw [scanFrom]
  · rw [if_neg other]
  · intro _ quote
    exact absurd quote other

/-- The quote that ends a literal is told by what follows it. -/
theorem scanFrom_closing (read : List Char) {rest : List Char} (apart : rest.head? ≠ some '\'') :
    scanFrom (some read) ('\'' :: rest) =
      (scanFrom none rest).map (Scan.append ⟨[], [String.ofList read]⟩) := by
  rw [scanFrom]
  · rw [if_pos rfl]
  · rintro tail - rfl
    exact apart rfl

theorem scanFrom_doubledQuotes (read text : List Char) {rest : List Char}
    (apart : rest.head? ≠ some '\'') :
    scanFrom (some read) (doubledQuotes text ++ '\'' :: rest) =
      (scanFrom none rest).map (Scan.append ⟨[], [String.ofList (read ++ text)]⟩) := by
  induction text generalizing read with
  | nil => simpa [doubledQuotes] using scanFrom_closing read apart
  | cons c text ih =>
    have step : scanFrom (some read) (doubledQuotes (c :: text) ++ '\'' :: rest) =
        scanFrom (some (read ++ [c])) (doubledQuotes text ++ '\'' :: rest) := by
      by_cases quote : c = '\''
      · subst quote
        rfl
      · rw [doubledQuotes, List.flatMap_cons, if_neg quote]
        exact scanFrom_inside quote read _
    rw [step, ih, List.append_assoc, List.singleton_append]

/-- The text without the quotes of its empty literals. -/
def unquoted (text : String) : List Char := text.toList.filter (· ≠ '\'')

@[simp] theorem unquoted_append (a b : String) : unquoted (a ++ b) = unquoted a ++ unquoted b := by
  simp [unquoted]

theorem unquoted_of_isCalm {text : String} (calm : isCalm text.toList = true) :
    unquoted text = text.toList := by
  apply List.filter_eq_self.mpr
  intro c member
  have other : c ≠ '\'' := fun quote => not_mem_of_isCalm calm '\'' (by decide) (quote ▸ member)
  simpa using other

/-- A text scans, before anything but a quote, to what stands outside the literals of another text,
in which the same literals are empty, and to these literals. -/
structure Reads (text emptied : String) (literals : List String) : Prop where
  calm : isCalm (unquoted emptied) = true
  scans : ∀ rest : List Char, rest.head? ≠ some '\'' → scanFrom none (text.toList ++ rest) =
    (scanFrom none rest).map (Scan.append ⟨unquoted emptied, literals⟩)

/-- A text that does not end in a literal scans so before anything. -/
structure Settles (text emptied : String) (literals : List String) : Prop where
  calm : isCalm (unquoted emptied) = true
  scans : ∀ rest : List Char, scanFrom none (text.toList ++ rest) =
    (scanFrom none rest).map (Scan.append ⟨unquoted emptied, literals⟩)

theorem Settles.reads (text : Settles a a' literals) : Reads a a' literals :=
  ⟨text.calm, fun rest _ => text.scans rest⟩

theorem Settles.plain {text : String} (calm : isCalm text.toList = true) : Settles text text [] where
  calm := by rwa [unquoted_of_isCalm calm]
  scans := fun rest => by
    rw [unquoted_of_isCalm calm]
    exact scanFrom_unquoted (not_mem_of_isCalm calm _ (by decide)) rest

theorem Reads.quoted (text : String) : Reads (quotedText text) (quotedText "") [text] where
  calm := by decide
  scans := fun rest apart => by
    have empty : unquoted (quotedText "") = [] := by decide
    rw [empty, quotedText, String.toList_ofList, List.cons_append, List.cons_append, scanFrom, if_pos rfl,
      List.append_assoc, List.singleton_append, scanFrom_doubledQuotes [] text.toList apart,
      List.nil_append, String.ofList_toList]

theorem Settles.append_reads (first : Settles a a' literals) (second : Reads b b' literals') :
    Reads (a ++ b) (a' ++ b') (literals ++ literals') where
  calm := by
    rw [unquoted_append]
    exact isCalm_append first.calm second.calm
  scans := fun rest apart => by
    rw [String.toList_append, List.append_assoc, first.scans, second.scans rest apart, map_append_append,
      unquoted_append]
    rfl

/-- Calm text after a literal keeps it apart from what follows. -/
theorem Reads.append_plain (first : Reads a a' literals) {b : String} (nonempty : b ≠ "")
    (calm : isCalm b.toList = true) : Settles (a ++ b) (a' ++ b) literals where
  calm := by
    rw [unquoted_append]
    exact isCalm_append first.calm (Settles.plain calm).calm
  scans := fun rest => by
    have apart : (b.toList ++ rest).head? ≠ some '\'' := by
      cases chars : b.toList with
      | nil => exact absurd (String.toList_eq_nil_iff.mp chars) nonempty
      | cons c tail =>
        intro quote
        obtain rfl : c = '\'' := Option.some.inj quote
        exact not_mem_of_isCalm calm '\'' (by decide) (chars ▸ List.mem_cons_self)
    rw [String.toList_append, List.append_assoc, first.scans _ apart, (Settles.plain calm).scans,
      map_append_append, unquoted_append]
    simp [Scan.append]

theorem Reads.append_calm (first : Reads a a' literals) {b : String} (calm : isCalm b.toList = true) :
    Reads (a ++ b) (a' ++ b) literals := by
  by_cases empty : b = ""
  · simpa [empty] using first
  · exact (first.append_plain empty calm).reads

/-- Texts in a row are kept apart by their separators. -/
theorem Reads.commaSeparated {items : List α} {text emptied : α → String} {literals : α → List String}
    (each : ∀ item ∈ items, Reads (text item) (emptied item) (literals item)) :
    Reads (Text.commaSeparated (items.map text)) (Text.commaSeparated (items.map emptied))
      (items.flatMap literals) := by
  unfold Text.commaSeparated
  induction items with
  | nil => exact (Settles.plain rfl).reads
  | cons first items ih =>
    rw [List.forall_mem_cons] at each
    cases items with
    | nil => simpa [Text.joined] using each.1
    | cons second items =>
      simp only [List.map_cons, Text.joined, List.flatMap_cons] at ih ⊢
      exact (each.1.append_plain (by decide) (by decide)).append_reads (ih each.2)

theorem Reads.scan (text : Reads a a' literals) : scan a = some ⟨unquoted a', literals⟩ := by
  have whole := text.scans [] (by simp)
  rw [List.append_nil] at whole
  simpa [Sql.scan, scanFrom, Scan.append] using whole

end Tenancy.Sql
