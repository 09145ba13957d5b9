import TableMigration.Proofs.Php.Reader
import TableMigration.Proofs.Statement.Calls

/-!
# Texts by their pieces

A text that closes its literals reads as the same pieces wherever it stands. `Reads.append` puts
such texts together, and `Reads.unique` tells two of them apart by their pieces.
-/

namespace TableMigration.Php

/-! ### Up to a mark -/

section

variable {α : Type} [BEq α] [LawfulBEq α] {mark : α} {s t : List α}

theorem takeWhile_append_mark (h : mark ∉ s) (rest : List α) :
    (s ++ mark :: rest).takeWhile (· != mark) = s := by
  have before : ∀ a ∈ s, (a != mark) = true := by
    intro a member
    rw [bne_iff_ne]
    rintro rfl
    exact h member
  rw [List.takeWhile_append_of_pos before, List.takeWhile_cons_of_neg (by simp), List.append_nil]

theorem dropWhile_append_mark (h : mark ∉ s) (rest : List α) :
    (s ++ mark :: rest).dropWhile (· != mark) = mark :: rest := by
  have split := List.takeWhile_append_dropWhile (p := (· != mark)) (l := s ++ mark :: rest)
  rw [takeWhile_append_mark h] at split
  exact List.append_cancel_left split

/-- A list falls apart at its first mark in one way. -/
theorem append_mark_inj (hs : mark ∉ s) (ht : mark ∉ t) {after rest : List α}
    (h : s ++ mark :: after = t ++ mark :: rest) : s = t ∧ after = rest := by
  have front : s = t := by rw [← takeWhile_append_mark hs after, h, takeWhile_append_mark ht]
  subst front
  exact ⟨rfl, (List.cons.inj (List.append_cancel_left h)).2⟩

end

/-! ### Pieces -/

/-- Every character of a text for itself. -/
def marks (s : String) : List Token :=
  s.toList.map .mark

theorem mem_marks {c : Char} {s : String} : Token.mark c ∈ marks s ↔ c ∈ s.toList := by
  simp [marks]

theorem text_not_mem_marks (value s : String) : Token.text value ∉ marks s := by
  simp [marks]

theorem marks_inj {s t : String} : marks s = marks t ↔ s = t := by
  constructor
  · intro same
    have injective : Function.Injective Token.mark := fun _ _ => Token.mark.inj
    exact String.toList_inj.mp (List.map_injective_iff.mpr injective same)
  · exact congrArg marks

/-- The text reads as these pieces wherever it stands outside literals. -/
def Reads (text : String) (pieces : List Token) : Prop :=
  ∀ rest, tokens .code (text.toList ++ rest) = pieces ++ tokens .code rest

theorem reads_code {code : String} (h : '\'' ∉ code.toList) : Reads code (marks code) :=
  tokens_code h

theorem reads_quote (s : String) : Reads (Statement.quote s) [.text s] :=
  tokens_quote s

theorem Reads.append {s t : String} {front back : List Token} (hs : Reads s front)
    (ht : Reads t back) : Reads (s ++ t) (front ++ back) := by
  intro rest
  rw [String.toList_append, List.append_assoc, hs, ht, List.append_assoc]

theorem Reads.tokens_eq {text : String} {pieces : List Token} (h : Reads text pieces) :
    tokens .code text.toList = pieces := by
  have whole := h []
  rwa [List.append_nil, tokens, List.append_nil] at whole

theorem Reads.unique {text : String} {pieces others : List Token} (h : Reads text pieces)
    (h' : Reads text others) : pieces = others :=
  h.tokens_eq.symm.trans h'.tokens_eq

/-- A call in a chain, by the pieces of its argument. -/
def callPieces (method : String) (argument : List Token) : List Token :=
  marks "->" ++ (marks method ++ .mark '(' :: (argument ++ [.mark ')']))

theorem callPieces_append_inj {method : String} {argument other rest after : List Token}
    (h : callPieces method argument ++ rest = callPieces method other ++ after) :
    argument ++ .mark ')' :: rest = other ++ .mark ')' :: after := by
  simp only [callPieces, List.append_assoc, List.cons_append] at h
  have inner := List.append_cancel_left (List.append_cancel_left h)
  exact (List.cons.inj inner).2

theorem callPieces_text_inj {method value other : String} {rest after : List Token}
    (h : callPieces method [.text value] ++ rest = callPieces method [.text other] ++ after) :
    value = other ∧ rest = after := by
  have argument := callPieces_append_inj h
  simpa using argument

theorem reads_chain_nil : Reads (Statement.chain []) [.mark ';'] :=
  reads_code (by decide)

theorem Reads.chain {method argument : String} {calls : List Statement.Call}
    {pieces later : List Token} (h : Reads argument pieces) (code : '\'' ∉ method.toList)
    (rest : Reads (Statement.chain calls) later) :
    Reads (Statement.chain (⟨method, argument⟩ :: calls)) (callPieces method pieces ++ later) := by
  have arrow : Reads "->" (marks "->") := reads_code (by decide)
  have opening : Reads "(" [.mark '('] := reads_code (by decide)
  have closing : Reads ")" [.mark ')'] := reads_code (by decide)
  have call := (((arrow.append (reads_code code)).append opening).append h).append closing
  have whole := call.append rest
  simp only [List.append_assoc, List.singleton_append] at whole
  simp only [callPieces, List.append_assoc, List.cons_append]
  exact whole

end TableMigration.Php
