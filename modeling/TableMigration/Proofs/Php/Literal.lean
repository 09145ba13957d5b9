import Mathlib.Data.List.Infix
import TableMigration.Statement.Literal

/-!
# Literals

Reading one single-quoted literal by PHP's rules, and what follows it. `readLiteral?_quote` gives a
quoted text back whatever follows, and `readLiteral?_between_iff` says which texts can stand between
two quotes as they are.
-/

namespace TableMigration.Php

/-- Reads on to the quote that ends a literal. A backslash escapes a quote or a backslash, and
stands for itself before any other character. -/
def closeLiteral? : List Char → Option (List Char × List Char)
  | [] => none
  | c :: rest =>
    if c = '\'' then some ([], rest)
    else if c = '\\' then
      match rest with
      | [] => none
      | d :: rest =>
        (closeLiteral? rest).map fun read =>
          ((if d = '\\' ∨ d = '\'' then [d] else ['\\', d]) ++ read.1, read.2)
    else (closeLiteral? rest).map fun read => (c :: read.1, read.2)

/-- Reads a literal off the front of a text: its value, and what follows it. -/
def readLiteral? : List Char → Option (String × List Char)
  | '\'' :: rest => (closeLiteral? rest).map fun read => (String.ofList read.1, read.2)
  | _ => none

theorem closeLiteral?_end (rest : List Char) : closeLiteral? ('\'' :: rest) = some ([], rest) := by
  rw [closeLiteral?.eq_def]
  rfl

theorem closeLiteral?_escape (c : Char) (rest : List Char) :
    closeLiteral? ('\\' :: c :: rest) =
      (closeLiteral? rest).map fun read =>
        ((if c = '\\' ∨ c = '\'' then [c] else ['\\', c]) ++ read.1, read.2) := by
  rw [closeLiteral?.eq_def]
  rfl

theorem closeLiteral?_plain {c : Char} (quote : c ≠ '\'') (backslash : c ≠ '\\')
    (rest : List Char) :
    closeLiteral? (c :: rest) = (closeLiteral? rest).map fun read => (c :: read.1, read.2) := by
  rw [closeLiteral?.eq_def]
  simp only [if_neg quote, if_neg backslash]

/-! ### Quoted texts -/

theorem closeLiteral?_quoteChars (s rest : List Char) :
    closeLiteral? (s.flatMap Statement.quoteChar ++ '\'' :: rest) = some (s, rest) := by
  induction s with
  | nil => exact closeLiteral?_end rest
  | cons c s ih =>
    rw [List.flatMap_cons, List.append_assoc, Statement.quoteChar]
    by_cases backslash : c = '\\'
    · subst backslash
      simp [closeLiteral?_escape, ih]
    by_cases quote : c = '\''
    · subst quote
      simp [closeLiteral?_escape, ih]
    rw [if_neg backslash, if_neg quote, List.singleton_append, closeLiteral?_plain quote backslash,
      ih]
    rfl

/-- A literal reads as the text that was quoted, whatever follows it. -/
theorem readLiteral?_quote (s : String) (rest : List Char) :
    readLiteral? ((Statement.quote s).toList ++ rest) = some (s, rest) := by
  have opened : (Statement.quote s).toList ++ rest =
      '\'' :: (s.toList.flatMap Statement.quoteChar ++ '\'' :: rest) := by
    simp [Statement.quote]
  rw [opened, readLiteral?, closeLiteral?_quoteChars, Option.map_some, String.ofList_toList]

/-! ### Texts between quotes -/

/-- A text that stands for itself between quotes: without a quote, without two backslashes in a row,
and without a backslash at its end. -/
structure Verbatim (s : List Char) : Prop where
  noQuote : '\'' ∉ s
  noPair : ¬['\\', '\\'] <:+: s
  noEnd : s.getLast? ≠ some '\\'

theorem verbatim_nil : Verbatim [] := by
  constructor <;> simp

theorem verbatim_cons {c : Char} {s : List Char} (quote : c ≠ '\'') (backslash : c ≠ '\\') :
    Verbatim (c :: s) ↔ Verbatim s := by
  have pair : ['\\', '\\'] <:+: c :: s ↔ ['\\', '\\'] <:+: s := by
    simp [List.infix_cons_iff, backslash.symm]
  have last : (c :: s).getLast? = some '\\' ↔ s.getLast? = some '\\' := by
    cases s <;> simp [List.getLast?_cons_cons, backslash]
  constructor
  · rintro ⟨noQuote, noPair, noEnd⟩
    exact ⟨by simpa [quote.symm] using noQuote, by rwa [← pair], by rwa [Ne, ← last]⟩
  · rintro ⟨noQuote, noPair, noEnd⟩
    exact ⟨by simpa [quote.symm] using noQuote, by rwa [pair], by rwa [Ne, last]⟩

theorem verbatim_backslash_cons {c : Char} {s : List Char} :
    Verbatim ('\\' :: c :: s) ↔ c ≠ '\'' ∧ c ≠ '\\' ∧ Verbatim s := by
  by_cases quote : c = '\''
  · subst quote
    simpa using fun h : Verbatim _ => h.noQuote (by simp)
  by_cases backslash : c = '\\'
  · subst backslash
    simpa using fun h : Verbatim _ => h.noPair (List.prefix_append ['\\', '\\'] s).isInfix
  have pair : ['\\', '\\'] <:+: '\\' :: c :: s ↔ ['\\', '\\'] <:+: c :: s := by
    simp [List.infix_cons_iff, Ne.symm backslash]
  have whole : Verbatim ('\\' :: c :: s) ↔ Verbatim (c :: s) := by
    constructor
    · rintro ⟨noQuote, noPair, noEnd⟩
      exact ⟨by simpa using noQuote, by rwa [← pair], by simpa using noEnd⟩
    · rintro ⟨noQuote, noPair, noEnd⟩
      exact ⟨by simpa using noQuote, by rwa [pair], by simpa using noEnd⟩
  rw [whole, verbatim_cons quote backslash]
  simp [quote, backslash]

theorem closeLiteral?_verbatim {s : List Char} (h : Verbatim s) (rest : List Char) :
    closeLiteral? (s ++ '\'' :: rest) = some (s, rest) := by
  induction s using closeLiteral?.induct with
  | case1 => exact closeLiteral?_end rest
  | case2 s => exact absurd List.mem_cons_self h.noQuote
  | case3 => exact absurd rfl h.noEnd
  | case4 c s _ ih =>
    obtain ⟨quote, backslash, later⟩ := verbatim_backslash_cons.mp h
    rw [List.cons_append, List.cons_append, closeLiteral?_escape, ih later]
    simp [quote, backslash]
  | case5 c s quote backslash ih =>
    rw [List.cons_append, closeLiteral?_plain quote backslash,
      ih ((verbatim_cons quote backslash).mp h)]
    rfl

theorem replicate_append_backslash (n : Nat) (s : List Char) :
    List.replicate n '\\' ++ '\\' :: s = '\\' :: (List.replicate n '\\' ++ s) := by
  rw [← List.cons_append, ← List.replicate_succ, List.replicate_succ', List.append_assoc]
  rfl

/-- Reading puts no backslash in front of a text: an escape only takes one away. -/
theorem value_ne_of_closeLiteral? {s value rest after : List Char}
    (h : closeLiteral? (s ++ '\'' :: rest) = some (value, after)) (n : Nat) :
    value ≠ List.replicate (n + 1) '\\' ++ s := by
  rw [List.replicate_succ, List.cons_append]
  -- The backslashes in front grow by one with each pair that the text starts with.
  induction s using closeLiteral?.induct generalizing value n with
  | case1 =>
    rw [List.nil_append, closeLiteral?_end] at h
    obtain ⟨rfl, -⟩ := Prod.mk.inj (Option.some.inj h)
    simp
  | case2 s =>
    rw [List.cons_append, closeLiteral?_end] at h
    obtain ⟨rfl, -⟩ := Prod.mk.inj (Option.some.inj h)
    simp
  | case3 =>
    rw [List.singleton_append, closeLiteral?_escape] at h
    obtain ⟨_, -, same⟩ := Option.map_eq_some_iff.mp h
    obtain ⟨rfl, -⟩ := Prod.mk.inj same
    simp
  | case4 c s _ ih =>
    rw [List.cons_append, List.cons_append, closeLiteral?_escape] at h
    obtain ⟨⟨value, _⟩, later, same⟩ := Option.map_eq_some_iff.mp h
    obtain ⟨rfl, rfl⟩ := Prod.mk.inj same
    rw [replicate_append_backslash]
    by_cases backslash : c = '\\'
    · subst backslash
      have fewer := ih later (n + 1)
      rw [replicate_append_backslash]
      simpa [List.replicate_succ] using fewer
    by_cases quote : c = '\''
    · simp [quote]
    · simp [quote, backslash]
  | case5 c s quote backslash _ =>
    rw [List.cons_append, closeLiteral?_plain quote backslash] at h
    obtain ⟨_, -, same⟩ := Option.map_eq_some_iff.mp h
    obtain ⟨rfl, -⟩ := Prod.mk.inj same
    simp [backslash]

theorem verbatim_of_closeLiteral? {s rest after : List Char}
    (h : closeLiteral? (s ++ '\'' :: rest) = some (s, after)) : Verbatim s := by
  induction s using closeLiteral?.induct with
  | case1 => exact verbatim_nil
  | case2 s => simp [closeLiteral?_end] at h
  | case3 => simp [closeLiteral?_escape] at h
  | case4 c s _ ih =>
    rw [List.cons_append, List.cons_append, closeLiteral?_escape] at h
    obtain ⟨⟨value, _⟩, later, same⟩ := Option.map_eq_some_iff.mp h
    by_cases quote : c = '\''
    · simp [quote] at same
    by_cases backslash : c = '\\'
    · subst backslash
      have longer : value = List.replicate 1 '\\' ++ s := by simpa using (Prod.mk.inj same).1
      exact absurd longer (value_ne_of_closeLiteral? later 0)
    obtain ⟨rfl, rfl⟩ : value = s ∧ _ = after := by simpa [quote, backslash] using same
    exact verbatim_backslash_cons.mpr ⟨quote, backslash, ih later⟩
  | case5 c s quote backslash ih =>
    rw [List.cons_append, closeLiteral?_plain quote backslash] at h
    obtain ⟨⟨value, _⟩, later, same⟩ := Option.map_eq_some_iff.mp h
    obtain ⟨rfl, rfl⟩ : value = s ∧ _ = after := by simpa using same
    exact (verbatim_cons quote backslash).mpr (ih later)

/-- Between quotes a text reads as itself exactly when it stands for itself there. -/
theorem readLiteral?_between_iff (s : String) (rest : List Char) :
    (readLiteral? ('\'' :: (s.toList ++ '\'' :: rest))).map (·.1) = some s ↔
      Verbatim s.toList := by
  rw [readLiteral?, Option.map_map]
  constructor
  · intro h
    obtain ⟨⟨value, after⟩, read, same⟩ := Option.map_eq_some_iff.mp h
    obtain rfl : value = s.toList := by rw [← same]; simp
    exact verbatim_of_closeLiteral? read
  · intro h
    rw [closeLiteral?_verbatim h]
    simp

end TableMigration.Php
