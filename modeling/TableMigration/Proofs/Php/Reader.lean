import TableMigration.Proofs.Php.Literal
import TableMigration.Statement

/-!
# Reading statements

How PHP reads a written statement: single-quoted literals by their own rules, every other character
for itself. `tokens_quote` says that a literal reads as the text that `quote` was given.
-/

namespace TableMigration.Php

/-- A piece of a statement. -/
inductive Token where
  /-- A single-quoted literal, by its value. -/
  | text (value : String)
  /-- A character outside literals. -/
  | mark (c : Char)
  /-- A literal that the statement does not close. -/
  | unclosed
deriving DecidableEq, Repr

/-- Where a reading stands, with what has been read of a literal that is open. -/
inductive Reading where
  | code
  | literal (value : List Char)
  /-- In a literal, just after a backslash. -/
  | escape (value : List Char)

/-- The pieces of a text. In a literal a backslash escapes a quote or a backslash, and stands for
itself before any other character. -/
def tokens : Reading → List Char → List Token
  | .code, [] => []
  | .code, c :: rest =>
    if c = '\'' then tokens (.literal []) rest else .mark c :: tokens .code rest
  | .literal _, [] => [.unclosed]
  | .literal value, c :: rest =>
    if c = '\\' then tokens (.escape value) rest
    else if c = '\'' then .text (String.ofList value) :: tokens .code rest
    else tokens (.literal (value ++ [c])) rest
  | .escape _, [] => [.unclosed]
  | .escape value, c :: rest =>
    if c = '\\' ∨ c = '\'' then tokens (.literal (value ++ [c])) rest
    else tokens (.literal (value ++ ['\\', c])) rest

theorem tokens_code {code : List Char} (h : '\'' ∉ code) (rest : List Char) :
    tokens .code (code ++ rest) = code.map .mark ++ tokens .code rest := by
  induction code with
  | nil => rfl
  | cons c code ih =>
    have hc : c ≠ '\'' := fun same => h (same ▸ List.mem_cons_self)
    rw [List.cons_append, tokens, if_neg hc, ih fun member => h (List.mem_cons_of_mem _ member)]
    rfl

theorem tokens_of_closeLiteral? {s value rest : List Char}
    (h : closeLiteral? s = some (value, rest)) (before : List Char) :
    tokens (.literal before) s = .text (String.ofList (before ++ value)) :: tokens .code rest := by
  induction s using closeLiteral?.induct generalizing value before with
  | case1 => simp [closeLiteral?] at h
  | case2 s =>
    rw [closeLiteral?_end] at h
    obtain ⟨rfl, rfl⟩ := Prod.mk.inj (Option.some.inj h)
    simp [tokens]
  | case3 => rw [closeLiteral?.eq_def] at h; simp at h
  | case4 c s _ ih =>
    rw [closeLiteral?_escape] at h
    obtain ⟨⟨value, _⟩, later, same⟩ := Option.map_eq_some_iff.mp h
    obtain ⟨rfl, rfl⟩ := Prod.mk.inj same
    rw [tokens, if_pos rfl, tokens, ih later, ih later]
    split <;> simp
  | case5 c s quote backslash ih =>
    rw [closeLiteral?_plain quote backslash] at h
    obtain ⟨⟨value, _⟩, later, same⟩ := Option.map_eq_some_iff.mp h
    obtain ⟨rfl, rfl⟩ := Prod.mk.inj same
    rw [tokens, if_neg backslash, if_neg quote, ih later]
    simp

theorem tokens_of_readLiteral? {s rest : List Char} {value : String}
    (h : readLiteral? s = some (value, rest)) : tokens .code s = .text value :: tokens .code rest := by
  unfold readLiteral? at h
  split at h
  · obtain ⟨⟨read, _⟩, closed, same⟩ := Option.map_eq_some_iff.mp h
    obtain ⟨rfl, rfl⟩ := Prod.mk.inj same
    rw [tokens, if_pos rfl, tokens_of_closeLiteral? closed]
    rfl
  · cases h

theorem tokens_quote (s : String) (rest : List Char) :
    tokens .code ((Statement.quote s).toList ++ rest) = .text s :: tokens .code rest :=
  tokens_of_readLiteral? (readLiteral?_quote s rest)

/-! ### Calls -/

def Token.isSpace : Token → Bool
  | .mark c => c == ' ' || c == '\t' || c == '\n' || c == '\r'
  | _ => false

/-- The pieces of a statement that count. -/
def read (statement : List Char) : List Token :=
  (tokens .code statement).filter (!·.isSpace)

theorem read_code {code : List Char} (h : '\'' ∉ code) (rest : List Char) :
    read (code ++ rest) = (code.map Token.mark).filter (!·.isSpace) ++ read rest := by
  rw [read, tokens_code h, List.filter_append, read]

theorem read_quote (s : String) (rest : List Char) :
    read ((Statement.quote s).toList ++ rest) = .text s :: read rest := by
  rw [read, tokens_quote]
  rfl

/-- Reads a piece of code without literals off the front. -/
def expect? (code : String) (tokens : List Token) : Option (List Token) :=
  (code.toList.map Token.mark).isPrefixOf? tokens

/-- Reads the literals of a bracketed list, after its bracket, and what follows the list. -/
def items? : List Token → Option (List String × List Token)
  | .mark ']' :: rest => some ([], rest)
  | .text value :: .mark ']' :: rest => some ([value], rest)
  | .text value :: .mark ',' :: rest =>
    (items? rest).map fun read => (value :: read.1, read.2)
  | _ => none

/-- The arguments of a statement that calls `enum` with a literal and a list of literals. -/
def enumArguments? (statement : String) : Option (String × List String) := do
  match ← expect? "$table->enum(" (read statement.toList) with
  | .text name :: .mark ',' :: .mark '[' :: rest =>
    match ← items? rest with
    | (values, .mark ')' :: _) => some (name, values)
    | _ => none
  | _ => none

theorem isPrefixOf?_append {α : Type} [BEq α] [LawfulBEq α] (front rest : List α) :
    front.isPrefixOf? (front ++ rest) = some rest :=
  List.isPrefixOf?_eq_some_iff_append_eq.mpr rfl

/-- A list of quoted texts reads as the texts. -/
theorem items?_quotes {values : List String} (h : values ≠ []) (rest : List Char) :
    items? (read ((", ".intercalate (values.map Statement.quote)).toList ++ ']' :: rest)) =
      some (values, read rest) := by
  induction values with
  | nil => exact absurd rfl h
  | cons value values ih =>
    cases values with
    | nil =>
      rw [List.map_singleton, String.intercalate_singleton, read_quote,
        show ']' :: rest = "]".toList ++ rest from rfl, read_code (by decide)]
      rfl
    | cons next values =>
      rw [List.map_cons, String.intercalate_cons_of_ne_nil (by simp), String.toList_append,
        String.toList_append, List.append_assoc, List.append_assoc, read_quote,
        read_code (by decide),
        show (", ".toList.map Token.mark).filter (!·.isSpace) = [.mark ','] by decide,
        List.singleton_append, items?, ih (by simp)]
      rfl

end TableMigration.Php
