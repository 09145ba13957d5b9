import TableMigration.Proofs.Php.Pieces
import TableMigration.Proofs.Statement.Number

/-!
# Default values

The values that a default can be written as, and reading one off the front of a text. A written
value reads back with its complete text (`exists_readDefault?`).
-/

namespace TableMigration.Php

/-- The argument of a call that sets a default. -/
inductive DefaultValue where
  | number (text : String) (numeric : Statement.isNumeric text = true)
  | truth (value : Bool)
  | now
  | text (value : String)
deriving DecidableEq, Repr

def DefaultValue.written : DefaultValue → String
  | .number digits _ => digits
  | .truth value => if value then "true" else "false"
  | .now => "\\DB::raw('CURRENT_TIMESTAMP')"
  | .text value => Statement.quote value

/-- The value that a word stands for: a truth value or a number. -/
def DefaultValue.ofWord? (word : String) : Option DefaultValue :=
  if word = "true" then some (.truth true)
  else if word = "false" then some (.truth false)
  else if numeric : Statement.isNumeric word = true then some (.number word numeric)
  else none

def take? (code : String) (s : List Char) : Option (List Char) :=
  code.toList.isPrefixOf? s

/-- Reads a default value off the front of a text: a literal, the current time, or a word up to the
parenthesis that closes its call. -/
def readDefault? (s : List Char) : Option (DefaultValue × List Char) :=
  match readLiteral? s with
  | some (value, rest) => some (.text value, rest)
  | none =>
    match take? "\\DB::raw('CURRENT_TIMESTAMP')" s with
    | some rest => some (.now, rest)
    | none =>
      (DefaultValue.ofWord? (String.ofList (s.takeWhile (· != ')')))).map fun value =>
        (value, s.dropWhile (· != ')'))

theorem take?_append (code : String) (rest : List Char) :
    take? code (code.toList ++ rest) = some rest :=
  isPrefixOf?_append code.toList rest

theorem take?_call (method : String) (inner : List Char) :
    take? (method ++ "(") (method.toList ++ '(' :: inner) = some inner := by
  have call : method.toList ++ '(' :: inner = (method ++ "(").toList ++ inner := by simp
  rw [call, take?_append]

theorem take?_call_of_ne {method other : String} (hm : '(' ∉ method.toList)
    (ho : '(' ∉ other.toList) (h : method ≠ other) (inner : List Char) :
    take? (method ++ "(") (other.toList ++ '(' :: inner) = none := by
  rw [Option.eq_none_iff_forall_ne_some]
  intro rest found
  have front := List.append_eq_of_isPrefixOf?_eq_some found
  rw [String.toList_append, List.append_assoc] at front
  exact h (String.toList_inj.mp (append_mark_inj hm ho front).1)

/-! ### Literals and calls -/

theorem readLiteral?_of_ne {c : Char} (h : c ≠ '\'') (rest : List Char) :
    readLiteral? (c :: rest) = none := by
  unfold readLiteral?
  split
  · rename_i same
    exact absurd (List.cons.inj same).1 h
  · rfl

theorem readDefault?_text (value : String) (rest : List Char) :
    readDefault? ((Statement.quote value).toList ++ rest) = some (.text value, rest) := by
  rw [readDefault?, readLiteral?_quote]

theorem readDefault?_now (rest : List Char) :
    readDefault? ("\\DB::raw('CURRENT_TIMESTAMP')".toList ++ rest) = some (.now, rest) := by
  have code : readLiteral? ("\\DB::raw('CURRENT_TIMESTAMP')".toList ++ rest) = none := rfl
  rw [readDefault?, code, take?_append]

/-! ### Words -/

theorem ofWord?_truth (value : Bool) :
    DefaultValue.ofWord? (DefaultValue.truth value).written = some (.truth value) := by
  cases value <;> simp [DefaultValue.written, DefaultValue.ofWord?]

theorem ofWord?_number {text : String} (h : Statement.isNumeric text = true) :
    DefaultValue.ofWord? text = some (.number text h) := by
  have letter : 't' ∉ text.toList ∧ 'l' ∉ text.toList :=
    ⟨Statement.not_mem_of_isNumeric h (by decide), Statement.not_mem_of_isNumeric h (by decide)⟩
  have notTrue : text ≠ "true" := by
    rintro rfl
    exact letter.1 (by decide)
  have notFalse : text ≠ "false" := by
    rintro rfl
    exact letter.2 (by decide)
  rw [DefaultValue.ofWord?, if_neg notTrue, if_neg notFalse, dif_pos h]

theorem readDefault?_word {word : String} (quote : '\'' ∉ word.toList) (slash : '\\' ∉ word.toList)
    (close : ')' ∉ word.toList) (rest : List Char) :
    readDefault? (word.toList ++ ')' :: rest) =
      (DefaultValue.ofWord? word).map fun value => (value, ')' :: rest) := by
  -- Its first character tells a word from a literal and from the current time.
  obtain ⟨c, front, shape, other⟩ : ∃ c front, word.toList ++ ')' :: rest = c :: front ∧
      c ≠ '\'' ∧ c ≠ '\\' := by
    cases chars : word.toList with
    | nil => exact ⟨')', rest, rfl, by decide⟩
    | cons c front =>
      rw [chars] at quote slash
      exact ⟨c, _, rfl, fun same => quote (same ▸ List.mem_cons_self),
        fun same => slash (same ▸ List.mem_cons_self)⟩
  have literal : readLiteral? (word.toList ++ ')' :: rest) = none := by
    rw [shape, readLiteral?_of_ne other.1]
  have call : take? "\\DB::raw('CURRENT_TIMESTAMP')" (word.toList ++ ')' :: rest) = none := by
    rw [take?, shape, show "\\DB::raw('CURRENT_TIMESTAMP')".toList =
      '\\' :: "DB::raw('CURRENT_TIMESTAMP')".toList from rfl, List.isPrefixOf?,
      if_neg (by simpa using other.2.symm)]
  rw [readDefault?, literal, call]
  simp only [takeWhile_append_mark close, dropWhile_append_mark close, String.ofList_toList]

theorem readDefault?_truth (value : Bool) (rest : List Char) :
    readDefault? ((DefaultValue.truth value).written.toList ++ ')' :: rest) =
      some (.truth value, ')' :: rest) := by
  rw [readDefault?_word, ofWord?_truth]
  · rfl
  all_goals cases value <;> decide

theorem readDefault?_number {text : String} (h : Statement.isNumeric text = true)
    (rest : List Char) :
    readDefault? (text.toList ++ ')' :: rest) = some (.number text h, ')' :: rest) := by
  rw [readDefault?_word (Statement.not_mem_of_isNumeric h (by decide))
    (Statement.not_mem_of_isNumeric h (by decide)) (Statement.not_mem_of_isNumeric h (by decide)),
    ofWord?_number h]
  rfl

/-- A written value reads back whole, up to the parenthesis that closes its call. -/
theorem readDefault?_written (value : DefaultValue) (rest : List Char) :
    readDefault? (value.written.toList ++ ')' :: rest) = some (value, ')' :: rest) := by
  cases value with
  | number digits numeric => exact readDefault?_number numeric rest
  | truth value => exact readDefault?_truth value rest
  | now => exact readDefault?_now _
  | text value => exact readDefault?_text value _

/-! ### Defaults of columns -/

/-- A method that is not for numbers writes every default as a value. -/
theorem exists_written {method : String} (h : Statement.isNumericMethod method = false)
    (default : String) :
    ∃ value : DefaultValue, value.written = Statement.defaultArgument method default ∧
      ∀ text, value = .text text → text = Text.trimmed default := by
  rw [Statement.defaultArgument, if_neg (by simp [h])]
  split
  · split
    · exact ⟨.truth false, rfl, by simp⟩
    · exact ⟨.truth true, rfl, by simp⟩
  · split
    · exact ⟨.now, rfl, by simp⟩
    · exact ⟨.text (Text.trimmed default), rfl, fun _ same => (DefaultValue.text.inj same).symm⟩

theorem exists_readDefault? {method default : String}
    (numeric : Statement.isNumericMethod method = true → Statement.isNumeric default = true)
    (rest : List Char) :
    ∃ value,
      readDefault? ((Statement.defaultArgument method default).toList ++ ')' :: rest) =
        some (value, ')' :: rest) ∧
      value.written = Statement.defaultArgument method default ∧
      ∀ text, value = .text text → text = Text.trimmed default := by
  cases kind : Statement.isNumericMethod method with
  | true =>
    rw [Statement.defaultArgument, if_pos kind]
    exact ⟨.number default (numeric kind), readDefault?_number (numeric kind) rest, rfl, by simp⟩
  | false =>
    obtain ⟨value, written, literal⟩ := exists_written kind default
    exact ⟨value, written ▸ readDefault?_written value rest, written, literal⟩

end TableMigration.Php
