import Nephe.Azure.Queries
import Nephe.Azure.Resources

/-!
# The texts of a query

The parameters of a query are lists of texts, which the template puts between
parentheses.  `convertStrSliceToLowercaseCommaSeparatedStr` prints such a list with
`%q`, puts a comma before every space and takes the brackets away.  The resource
graph reads literals in double quotes that are separated by commas.  Quotes, brackets
and commas come back as they were; a space inside a text gets a comma.
-/

namespace Nephe.Azure

open Library

/-! ## Printing -/

/-- A text of the ASCII characters that can be printed, of which `%q` escapes two. -/
structure PrintableText where
  text : String
  printable : ∀ c ∈ text.toList, 0x20 ≤ c.toNat ∧ c.toNat ≤ 0x7e

/-- `%q` for a text. -/
def literal (text : String) : List Char :=
  '"' :: (quoted text ++ ['"'])

/-- `%q` for a slice. -/
def quotedSlice (texts : List String) : List Char :=
  '[' :: ([' '].intercalate (texts.map literal) ++ [']'])

def isBracket (c : Char) : Bool :=
  c == '[' || c == ']'

/-- `strings.Trim(text, "[]")`. -/
def trimBrackets (text : List Char) : List Char :=
  ((text.dropWhile isBracket).reverse.dropWhile isBracket).reverse

/-- `convertStrSliceToLowercaseCommaSeparatedStr`, as the text that it returns. -/
def lowercaseCommaSeparatedStr (strSlice : List String) : String :=
  let lowerCase := (strSlice.filter fun str => 0 < str.length).map toLower
  if lowerCase.isEmpty then ""
  else
    let tokens := (quotedSlice lowerCase).splitOn ' '
    String.ofList (trimBrackets ([',', ' '].intercalate tokens))

/-! ## Reading -/

/-- Where the reader of a list is. -/
inductive Reading where
  /-- Before a literal; only before the first one the list may end. -/
  | item (first : Bool)
  /-- Inside a literal, after some of its characters. -/
  | literal (characters : List Char)
  /-- Behind a literal. -/
  | separator

/-- The character that an escape stands for. -/
def unescaped : Char → Option Char
  | '"' => some '"'
  | '\'' => some '\''
  | '\\' => some '\\'
  | 'n' => some '\n'
  | 'r' => some '\r'
  | 't' => some '\t'
  | _ => none

/-- Read a list of literals in double quotes that are separated by commas. -/
def readLiterals : Reading → List Char → Option (List String)
  | .item first, [] => if first then some [] else none
  | .item first, c :: rest =>
    if c = '"' then readLiterals (.literal []) rest
    else if c = ' ' then readLiterals (.item first) rest
    else none
  | .literal _, [] => none
  | .literal characters, '\\' :: c :: rest =>
    (unescaped c).bind fun d => readLiterals (.literal (characters ++ [d])) rest
  | .literal characters, c :: rest =>
    if c = '"' then (readLiterals .separator rest).map (String.ofList characters :: ·)
    else readLiterals (.literal (characters ++ [c])) rest
  | .separator, [] => some []
  | .separator, c :: rest =>
    if c = ',' then readLiterals (.item false) rest
    else if c = ' ' then readLiterals .separator rest
    else none

/-- The list of literals that a text stands for. -/
def literalsOf (text : String) : Option (List String) :=
  readLiterals (.item true) text.toList

/-- The characters that are printed for a text are read as the text. -/
theorem read_quoted (text rest characters : List Char) :
    readLiterals (.literal characters) (quoted (String.ofList text) ++ '"' :: rest) =
      (readLiterals .separator rest).map (String.ofList (characters ++ text) :: ·) := by
  unfold quoted
  rw [String.toList_ofList]
  induction text generalizing characters with
  | nil => simp [readLiterals]
  | cons c text induction =>
    rw [List.flatMap_cons, List.append_assoc, List.append_cons characters c text, ← induction]
    by_cases special : c = '"' ∨ c = '\\'
    · obtain rfl | rfl := special <;> simp [readLiterals, unescaped]
    · obtain ⟨notQuote, notSlash⟩ := not_or.mp special
      simp [readLiterals, notQuote, notSlash]

theorem read_literal (first : Bool) (text : String) (rest : List Char) :
    readLiterals (.item first) (literal text ++ rest) =
      (readLiterals .separator rest).map (text :: ·) := by
  simpa [literal, readLiterals] using read_quoted text.toList rest []

/-- Literals with a comma and a space between them are read one by one. -/
theorem read_literals (first : Bool) (text : String) (texts : List String) :
    readLiterals (.item first) ([',', ' '].intercalate ((text :: texts).map literal)) =
      some (text :: texts) := by
  induction texts generalizing first text with
  | nil => simpa [readLiterals] using read_literal first text []
  | cons next texts induction =>
    have rest := read_literal first text
      (',' :: ' ' :: [',', ' '].intercalate ((next :: texts).map literal))
    rw [readLiterals, if_pos rfl, readLiterals, if_neg (by decide), if_pos rfl,
      induction] at rest
    simpa [List.intercalate] using rest

/-! ## Commas for spaces -/

/-- The characters of `spaced`. -/
def commas (text : List Char) : List Char :=
  text.flatMap fun c => if c = ' ' then [',', ' '] else [c]

theorem commas_append (text rest : List Char) :
    commas (text ++ rest) = commas text ++ commas rest :=
  List.flatMap_append

/-- Splitting at the spaces and joining by commas puts a comma before every space. -/
theorem intercalate_splitOn_space (text : List Char) :
    [',', ' '].intercalate (text.splitOn ' ') = commas text := by
  induction text with
  | nil => rfl
  | cons c text induction =>
    have step : commas (c :: text) = (if c = ' ' then [',', ' '] else [c]) ++ commas text :=
      List.flatMap_cons
    rw [step, ← induction, List.splitOn_cons_eq_if_modifyHead]
    cases parts : text.splitOn ' ' with
    | nil => exact absurd parts (List.splitOn_ne_nil _ _)
    | cons part others =>
      by_cases space : c = ' '
      · simp [space, List.intercalate_cons_cons]
      · cases others <;> simp [space, List.intercalate]

/-- Inside a literal the commas go into the text. -/
theorem commas_literal (text : String) : commas (literal text) = literal (spaced text) := by
  have inside : commas (quoted text) = quoted (spaced text) := by
    rw [commas, quoted, quoted, spaced, String.toList_ofList, List.flatMap_assoc,
      List.flatMap_assoc]
    congr 1
    funext c
    by_cases special : c = '"' ∨ c = '\\'
    · obtain rfl | rfl := special <;> rfl
    · by_cases space : c = ' ' <;> simp [special, space]
  have opened (rest : List Char) : commas ('"' :: rest) = '"' :: commas rest := rfl
  rw [literal, opened, commas_append, inside]
  rfl

/-- Between literals there are commas and spaces. -/
theorem commas_intercalate (texts : List String) :
    commas ([' '].intercalate (texts.map literal)) =
      [',', ' '].intercalate ((texts.map spaced).map literal) := by
  induction texts with
  | nil => rfl
  | cons text texts induction =>
    cases texts with
    | nil => simpa using commas_literal text
    | cons next texts =>
      simp only [List.map_cons, List.intercalate_cons_cons, commas_append, commas_literal]
        at induction ⊢
      rw [induction]
      rfl

/-- A list of literals begins and ends with quotation marks. -/
theorem exists_between_quotes (text : String) (texts : List String) :
    ∃ middle, [',', ' '].intercalate ((text :: texts).map literal) =
      '"' :: (middle ++ ['"']) := by
  induction texts generalizing text with
  | nil => exact ⟨quoted text, by simp [literal]⟩
  | cons next texts induction =>
    obtain ⟨middle, same⟩ := induction next
    refine ⟨quoted text ++ '"' :: ',' :: ' ' :: '"' :: middle, ?_⟩
    rw [List.map_cons, List.map_cons, List.intercalate_cons_cons, ← List.map_cons, same]
    simp [literal]

/-- The brackets around a list are taken away, and nothing else. -/
theorem trimBrackets_literals (text : String) (texts : List String) :
    trimBrackets ('[' :: ([',', ' '].intercalate ((text :: texts).map literal) ++ [']'])) =
      [',', ' '].intercalate ((text :: texts).map literal) := by
  obtain ⟨middle, same⟩ := exists_between_quotes text texts
  rw [same]
  simp [trimBrackets, isBracket]

/-! ## What is read of what is printed -/

/-- The text for a list is read as the list that the queries are built from. -/
theorem literalsOf_lowercaseCommaSeparatedStr (strSlice : List String) :
    literalsOf (lowercaseCommaSeparatedStr strSlice) =
      some (convertStrSliceToLowercaseCommaSeparatedStr strSlice) := by
  have nested : convertStrSliceToLowercaseCommaSeparatedStr strSlice =
      ((strSlice.filter fun str => 0 < str.length).map toLower).map spaced := by
    rw [List.map_map]
    rfl
  rw [nested, lowercaseCommaSeparatedStr]
  cases (strSlice.filter fun str => 0 < str.length).map toLower with
  | nil => rfl
  | cons text texts =>
    have bracketed : commas (quotedSlice (text :: texts)) =
        '[' :: ([',', ' '].intercalate (((text :: texts).map spaced).map literal) ++ [']']) := by
      rw [← commas_intercalate]
      exact congrArg ('[' :: ·) (commas_append _ _)
    simp only [List.isEmpty_cons, Bool.false_eq_true, if_false]
    rw [intercalate_splitOn_space, bracketed, literalsOf, String.toList_ofList, List.map_cons,
      trimBrackets_literals, read_literals]

/-- A text is queried as it is exactly when it has no space. -/
theorem spaced_eq_self_iff (s : String) : spaced s = s ↔ Unspaced s := by
  refine ⟨fun same => ?_, spaced_of_unspaced⟩
  have same : commas s.toList = s.toList := by
    rw [← String.ofList_inj, String.ofList_toList]
    exact same
  unfold Unspaced
  generalize s.toList = characters at same
  induction characters with
  | nil => exact List.not_mem_nil
  | cons c rest induction =>
    by_cases space : c = ' '
    · subst space
      have heads : ',' = ' ' := (List.cons.inj same).1
      exact absurd heads (by decide)
    · rw [commas, List.flatMap_cons, if_neg space] at same
      rw [List.mem_cons, not_or]
      exact ⟨Ne.symm space, induction (List.cons.inj same).2⟩

theorem unspaced_toLower_iff (s : String) : Unspaced (toLower s) ↔ Unspaced s := by
  refine ⟨fun unspaced space => unspaced ?_, Unspaced.toLower⟩
  rw [toLower, String.toList_ofList]
  exact List.mem_map.mpr ⟨' ', space, rfl⟩

/--
Exactly for lists of texts without a space, the text of a parameter stands for the
texts that are not empty, in lower case.
-/
theorem parameter_is_faithful_iff (strSlice : List PrintableText) :
    literalsOf (lowercaseCommaSeparatedStr (strSlice.map (·.text))) =
        some (((strSlice.map (·.text)).filter fun str => 0 < str.length).map toLower) ↔
      ∀ str ∈ strSlice, ' ' ∉ str.text.toList := by
  rw [literalsOf_lowercaseCommaSeparatedStr, convertStrSliceToLowercaseCommaSeparatedStr,
    Option.some_inj, List.map_inj_left]
  simp only [spaced_eq_self_iff, unspaced_toLower_iff, List.mem_filter, List.mem_map]
  constructor
  · intro unspaced str member space
    have nonempty : 0 < str.text.length := by
      rw [← String.length_toList]
      exact List.length_pos_of_mem space
    exact unspaced str.text ⟨⟨str, member, rfl⟩, decide_eq_true nonempty⟩ space
  · rintro unspaced _ ⟨⟨str, member, rfl⟩, -⟩
    exact unspaced str member

/-- The name with a space is asked for as another name. -/
theorem parameter_with_a_space :
    lowercaseCommaSeparatedStr ["web 1"] = "\"web, 1\"" ∧
      literalsOf (lowercaseCommaSeparatedStr ["web 1"]) ≠ some ["web 1"] := by
  decide

end Nephe.Azure
