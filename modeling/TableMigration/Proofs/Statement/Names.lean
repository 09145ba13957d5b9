import TableMigration.Proofs.Php.Number
import TableMigration.Proofs.Statement.Distinct

/-!
# Names of columns in lists

The columns of an index and the column of a foreign key are elements of a list. Each element is the
name in quotes, or the name as it is if that reads as a number, and then the statement refers to the
column just if PHP writes the number back as this name (`elements?_arguments`).
-/

namespace TableMigration

namespace Php

/-! ### Lists -/

/-- The elements of a list in brackets, or the one element without them, without the spaces before
each. -/
def elements? : List Token → Option (List (List Token))
  | [] => some []
  | .mark '[' :: rest =>
    if rest.getLast? = some (.mark ']') then
      some ((rest.dropLast.splitOn (.mark ',')).map (·.dropWhile Token.isSpace))
    else none
  | element => some [element.dropWhile Token.isSpace]

/-- The character of a piece outside literals. -/
def Token.char? : Token → Option Char
  | .mark c => some c
  | _ => none

/-- The string that an element is converted to. -/
def elementText? (floatText : String → String) : List Token → Option String
  | [.text value] => some value
  | code => ((code.mapM Token.char?).bind readNumber?).map (Number.text floatText)

theorem mapM_char?_marks (s : List Char) : (s.map Token.mark).mapM Token.char? = some s := by
  induction s with
  | nil => rfl
  | cons c s ih => simp [Token.char?, ih]

theorem elementText?_marks (floatText : String → String) (s : List Char) :
    elementText? floatText (s.map .mark) = (readNumber? s).map (Number.text floatText) := by
  unfold elementText?
  split
  · rename_i shape
    have code : ∀ token ∈ s.map Token.mark, ∃ c, token = .mark c := by simp
    obtain ⟨_, same⟩ := code _ (shape ▸ List.mem_cons_self)
    cases same
  · rw [mapM_char?_marks, Option.bind_some]

theorem elements?_single {element : List Token} (nonempty : element ≠ [])
    (h : .mark '[' ∉ element) : elements? element = some [element.dropWhile Token.isSpace] := by
  unfold elements?
  split
  · exact absurd rfl nonempty
  · exact absurd List.mem_cons_self h
  · rfl

theorem elements?_bracketed (items : List Token) :
    elements? (.mark '[' :: (items ++ [.mark ']'])) =
      some ((items.splitOn (.mark ',')).map (·.dropWhile Token.isSpace)) := by
  simp [elements?]

theorem splitOn_space (rest : List Token) :
    ((Token.mark ' ' :: rest).splitOn (.mark ',')).map (·.dropWhile Token.isSpace) =
      (rest.splitOn (.mark ',')).map (·.dropWhile Token.isSpace) := by
  obtain ⟨first, others, cut⟩ : ∃ first others, rest.splitOn (.mark ',') = first :: others :=
    List.exists_cons_of_ne_nil (List.splitOnP_ne_nil _ rest)
  rw [List.splitOn_cons_eq_if_modifyHead, if_neg (by decide), cut]
  rfl

end Php

namespace Statement

/-- The element that a name is in a list of names. -/
def nameElement (name : String) : List Php.Token :=
  (namePieces name).dropWhile Php.Token.isSpace

theorem splitOn_joinedPieces {names : List String} (nonempty : names ≠ []) :
    ((joinedPieces names).splitOn (.mark ',')).map (·.dropWhile Php.Token.isSpace) =
      names.map nameElement := by
  induction names with
  | nil => exact absurd rfl nonempty
  | cons name names ih =>
    -- A comma inside a name is in a literal, and is no mark.
    have comma := not_mem_namePieces (c := ',') (by decide) name
    cases names with
    | nil =>
      rw [joinedPieces, List.splitOn_eq_singleton comma]
      rfl
    | cons next names =>
      rw [joinedPieces_cons_cons, List.splitOn_append_cons_self_of_not_mem comma,
        List.map_cons, Php.splitOn_space,
        ih (by simp)]
      rfl

/-- A list of names has the names for elements, one by one. -/
theorem elements?_argumentsPieces (names : List String) :
    Php.elements? (argumentsPieces names) = some (names.map nameElement) := by
  rw [argumentsPieces]
  split
  · rename_i several
    rw [Php.elements?_bracketed, splitOn_joinedPieces (by rintro rfl; simp at several)]
  · rename_i few
    rcases names with _ | ⟨name, _ | ⟨_, _⟩⟩
    · rfl
    · exact Php.elements?_single (namePieces_ne_nil name) (not_mem_namePieces (by decide) name)
    · simp at few

theorem nameElement_quoted {name : String} (h : ¬Numeral name.toList) :
    nameElement name = [.text name] := by
  rw [nameElement, namePieces, if_neg (h ∘ numeral_of_isNumeric)]
  rfl

theorem nameElement_numeral {name : String} (h : Numeral name.toList) :
    nameElement name = (Php.dropSpaces name.toList).map .mark := by
  rw [nameElement, namePieces, if_pos (isNumeric_of_numeral h), Php.marks, List.dropWhile_map]
  rfl

/-- Each column of a list is in quotes, or stands as it is if its name reads as a number. The
element refers to the column that the quoted name declares exactly if it is in quotes, or its name
is the decimal form of an integer, or PHP reads a float and writes it as this name. -/
theorem elements?_arguments (floatText : String → String) (names : List String) :
    Php.elements? (Php.tokens .code (arguments names).toList) = some (names.map nameElement) ∧
      ∀ c ∈ names,
        (¬Numeral c.toList → nameElement c = [.text c]) ∧
        (Numeral c.toList → nameElement c = (Php.dropSpaces c.toList).map .mark) ∧
        Php.elementText? floatText (Php.tokens .code (quote c).toList) = some c ∧
        (Php.elementText? floatText (nameElement c) = some c ↔
          ¬Numeral c.toList ∨ Php.IsInteger c ∨ Php.IsFloat floatText c) := by
  refine ⟨?_, fun c _ => ⟨nameElement_quoted, nameElement_numeral, ?_, ?_⟩⟩
  · rw [(reads_arguments names).tokens_eq, elements?_argumentsPieces]
  · rw [(Php.reads_quote c).tokens_eq]
    rfl
  · by_cases numeral : Numeral c.toList
    · rw [nameElement_numeral numeral, Php.elementText?_marks, Php.text_readNumber?_iff]
      simp [numeral]
    · rw [nameElement_quoted numeral]
      simp [numeral, Php.elementText?]

theorem elements?_arguments_orders :
    let names := ["-7", "1.5", "it's"]
    Php.elements? (Php.tokens .code (arguments names).toList) = some (names.map nameElement) ∧
      (Numeral "-7".toList ∧ nameElement "-7" = [.mark '-', .mark '7']) ∧
      (¬Numeral "it's".toList ∧ nameElement "it's" = [.text "it's"]) ∧
      ∀ c ∈ names, Php.elementText? id (nameElement c) = some c := by
  intro names
  obtain ⟨elements, kept⟩ := elements?_arguments id names
  have number : Numeral "-7".toList := numeral_of_isNumeric (by decide)
  have word : ¬Numeral "it's".toList := fun numeral =>
    absurd (isNumeric_of_numeral numeral) (by decide)
  have integer : Php.IsInteger "-7" := ⟨-7, by decide, by decide⟩
  have float : Php.IsFloat id "1.5" := ⟨false, "1.5", by decide, by decide⟩
  refine ⟨elements, ⟨number, (kept "-7" (by simp [names])).2.1 number⟩,
    ⟨word, (kept "it's" (by simp [names])).1 word⟩, fun c member => ?_⟩
  refine (kept c member).2.2.2.mpr ?_
  rcases List.mem_cons.mp member with rfl | member
  · exact .inr (.inl integer)
  rcases List.mem_pair.mp member with rfl | rfl
  · exact .inr (.inr float)
  · exact .inl word

/-- A name of digits behind a zero is not in quotes, though it is no integer in decimal, and its
statement refers to the column that its octal value names. -/
theorem octal_name_lost :
    "007" ∈ ["007"] ∧ arguments ["007"] = "007" ∧ arguments ["007"] ≠ quote "007" ∧
      (¬∃ n : Int, "007" = toString n) ∧
      ∀ floatText, (Php.elements? (Php.tokens .code (arguments ["007"]).toList)).map
        (·.map (Php.elementText? floatText)) = some [some "7"] := by
  refine ⟨by decide, by decide, by decide, ?_, fun floatText => ?_⟩
  · rintro ⟨n, same⟩
    have digits := Php.toList_toString n
    rw [← same] at digits
    split at digits
    · exact absurd (List.cons.inj digits).1 (by decide)
    · have zero : n.natAbs = 0 := Text.toString_of_zero digits.symm
      rw [zero] at digits
      exact absurd digits (by decide)
  · rfl

end Statement

end TableMigration
