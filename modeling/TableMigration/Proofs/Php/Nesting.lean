import TableMigration.Proofs.Php.Default

/-!
# Whole statements

A text is one statement if its parentheses and brackets pair up outside literals, nothing but its
end is a semicolon there, and a call that sets a default has one value. A chain of calls is one
whenever each argument stays inside its call (`isStatement_chain`).
-/

namespace TableMigration.Php

/-! ### Nesting -/

/-- The mark that closes what a mark opens. -/
def closing? (c : Char) : Option Char :=
  if c = '(' then some ')' else if c = '[' then some ']' else none

/-- The closing marks that are still due after these pieces, the next one first. -/
def nest? : List Char → List Token → Option (List Char)
  | due, [] => some due
  | due, .text _ :: rest => nest? due rest
  | _, .unclosed :: _ => none
  | due, .mark c :: rest =>
    match closing? c with
    | some d => nest? (d :: due) rest
    | none =>
      if c = ')' ∨ c = ']' then
        if due.head? = some c then nest? due.tail rest else none
      else nest? due rest

/-- The parentheses and brackets pair up, and every literal is closed. -/
def Balanced (pieces : List Token) : Prop :=
  nest? [] pieces = some []

instance (pieces : List Token) : Decidable (Balanced pieces) :=
  inferInstanceAs (Decidable (_ = _))

/-- The pieces leave the closing marks that are due as they were. -/
def Level (pieces : List Token) : Prop :=
  ∀ due rest, nest? due (pieces ++ rest) = nest? due rest

theorem Level.balanced {pieces : List Token} (h : Level pieces) : Balanced pieces := by
  have whole := h [] []
  rwa [List.append_nil] at whole

theorem level_nil : Level [] :=
  fun _ _ => rfl

theorem Level.append {front back : List Token} (hf : Level front) (hb : Level back) :
    Level (front ++ back) := by
  intro due rest
  rw [List.append_assoc, hf, hb]

theorem level_flatMap {α : Type} {f : α → List Token} {l : List α} (h : ∀ a ∈ l, Level (f a)) :
    Level (l.flatMap f) := by
  induction l with
  | nil => exact level_nil
  | cons a l ih =>
    obtain ⟨first, later⟩ := List.forall_mem_cons.mp h
    exact first.append (ih later)

theorem level_text (value : String) : Level [.text value] :=
  fun _ _ => rfl

theorem level_texts (texts : List String) : Level (texts.map .text) := by
  rw [List.map_eq_flatMap]
  exact level_flatMap fun value _ => level_text value

/-- The marks that shape a statement. -/
def specialMarks : List Char :=
  ['(', ')', '[', ']', ';', '>', '\'']

/-- A mark that opens, closes or ends nothing. -/
def isPlain (c : Char) : Bool :=
  !specialMarks.contains c

theorem isPlain_of_others {p : Char → Bool} (others : specialMarks.any p = false) {c : Char}
    (h : p c = true) : isPlain c = true := by
  by_contra special
  rw [isPlain, Bool.not_eq_true', Bool.not_eq_false, List.contains_iff_mem] at special
  exact absurd h (List.any_eq_false.mp others c special)

theorem ne_of_isPlain {c : Char} (h : isPlain c = true) {mark : Char}
    (other : isPlain mark = false) : c ≠ mark := by
  rintro rfl
  rw [h] at other
  cases other

theorem level_mark {c : Char} (opens : closing? c = none) (closes : ¬(c = ')' ∨ c = ']')) :
    Level [.mark c] := by
  intro due rest
  rw [List.singleton_append, nest?, opens]
  exact if_neg closes

theorem level_plain {c : Char} (h : isPlain c = true) : Level [.mark c] := by
  have others : ∀ {mark : Char}, isPlain mark = false → c ≠ mark := ne_of_isPlain h
  refine level_mark ?_ (not_or.mpr ⟨others (by decide), others (by decide)⟩)
  rw [closing?, if_neg (others (by decide)), if_neg (others (by decide))]

theorem level_marks {s : String} (h : s.toList.all isPlain = true) : Level (marks s) := by
  rw [marks, List.map_eq_flatMap]
  exact level_flatMap fun c member => level_plain (List.all_eq_true.mp h c member)

theorem Level.wrap {pieces : List Token} (h : Level pieces) {c d : Char} (pair : closing? c = some d) :
    Level (.mark c :: (pieces ++ [.mark d])) := by
  intro due rest
  have closes : closing? d = none ∧ (d = ')' ∨ d = ']') := by
    unfold closing? at pair
    split at pair
    · rw [← Option.some.inj pair]
      decide
    · split at pair
      · rw [← Option.some.inj pair]
        decide
      · cases pair
  rw [List.cons_append, nest?, pair, List.append_assoc]
  show nest? (d :: due) _ = _
  rw [h, List.singleton_append, nest?, closes.1]
  simp [closes.2]

/-! ### Arguments -/

/-- A text that can be the argument of a call: it closes its literals and pairs up its brackets,
and outside literals it has neither the end of a statement nor the arrow of a call. -/
structure Enclosed (text : String) : Prop where
  reads : Reads text (tokens .code text.toList)
  level : Level (tokens .code text.toList)
  noEnd : .mark ';' ∉ tokens .code text.toList
  noArrow : .mark '>' ∉ tokens .code text.toList

theorem Reads.enclosed {text : String} {pieces : List Token} (h : Reads text pieces)
    (level : Level pieces) (noEnd : .mark ';' ∉ pieces) (noArrow : .mark '>' ∉ pieces) :
    Enclosed text := by
  have same := h.tokens_eq
  constructor <;> rwa [same]

theorem Enclosed.append {s t : String} (hs : Enclosed s) (ht : Enclosed t) : Enclosed (s ++ t) :=
  (hs.reads.append ht.reads).enclosed (hs.level.append ht.level)
    (by simpa using ⟨hs.noEnd, ht.noEnd⟩) (by simpa using ⟨hs.noArrow, ht.noArrow⟩)

theorem enclosed_quote (s : String) : Enclosed (Statement.quote s) :=
  (reads_quote s).enclosed (level_text s) (by simp) (by simp)

theorem enclosed_plain {s : String} (h : s.toList.all isPlain = true) : Enclosed s := by
  have absent : ∀ {c : Char}, isPlain c = false → c ∉ s.toList :=
    fun mark member => ne_of_isPlain (List.all_eq_true.mp h _ member) mark rfl
  have noMark : ∀ {c : Char}, isPlain c = false → .mark c ∉ marks s :=
    fun mark member => absent mark (mem_marks.mp member)
  exact (reads_code (absent (by decide))).enclosed (level_marks h) (noMark (by decide))
    (noMark (by decide))

theorem isPlain_of_isNumberChar {c : Char} (h : Statement.isNumberChar c = true) :
    isPlain c = true :=
  isPlain_of_others (by decide) h

theorem enclosed_number {text : String} (h : Statement.isNumeric text = true) : Enclosed text :=
  enclosed_plain <| List.all_eq_true.mpr fun c member =>
    isPlain_of_isNumberChar (Statement.isNumberChar_of_isNumeric h c member)

theorem enclosed_blanks {s : List Char} (h : ∀ c ∈ s, Text.isBlank c = true) :
    Enclosed (String.ofList s) := by
  refine enclosed_plain (List.all_eq_true.mpr fun c member => ?_)
  rw [String.toList_ofList] at member
  exact isPlain_of_isNumberChar (by simp [Statement.isNumberChar, h c member])

theorem Enclosed.intercalate {items : List String} (h : ∀ item ∈ items, Enclosed item) :
    Enclosed (", ".intercalate items) := by
  induction items with
  | nil => exact enclosed_plain rfl
  | cons item items ih =>
    obtain ⟨first, later⟩ := List.forall_mem_cons.mp h
    cases items with
    | nil => simpa using first
    | cons next items =>
      have comma : Enclosed ", " := enclosed_plain (by decide)
      rw [String.intercalate_cons_of_ne_nil (List.cons_ne_nil next items)]
      exact (first.append comma).append (ih later)

theorem Enclosed.bracketed {items : List String} (h : ∀ item ∈ items, Enclosed item) :
    Enclosed (Statement.bracketed items) := by
  have opening : Reads "[" [.mark '['] := reads_code (by decide)
  have closing : Reads "]" [.mark ']'] := reads_code (by decide)
  have inside := intercalate h
  exact ((opening.append inside.reads).append closing).enclosed (inside.level.wrap rfl)
    (by simpa using inside.noEnd) (by simpa using inside.noArrow)

theorem DefaultValue.enclosed (value : DefaultValue) : Enclosed value.written := by
  cases value with
  | number digits numeric => exact enclosed_number numeric
  | truth value => cases value <;> exact enclosed_plain (by decide)
  | now =>
    have pieces : Reads DefaultValue.now.written
        (marks "\\DB::raw" ++ (.mark '(' :: ([.text "CURRENT_TIMESTAMP"] ++ [.mark ')']))) :=
      fun rest => rfl
    have name : Level (marks "\\DB::raw") := level_marks (by decide)
    exact pieces.enclosed (name.append ((level_text _).wrap rfl)) (by decide) (by decide)
  | text value => exact enclosed_quote value

/-! ### Statements -/

/-- One statement: the brackets pair up, the only end of a statement is the last piece, and what a
default is set to is one value. -/
structure IsStatement (text : String) : Prop where
  balanced : Balanced (tokens .code text.toList)
  ended : ∃ front, tokens .code text.toList = front ++ [.mark ';'] ∧ .mark ';' ∉ front
  default : ∀ before after, tokens .code text.toList = before ++ (marks "->default(" ++ after) →
    ∃ (value : DefaultValue) (rest : List Token),
      after = tokens .code value.written.toList ++ .mark ')' :: rest

/-- A call that can stand in a chain: a word, an argument that stays inside the call, and one value
for a default. -/
structure Fits (call : Statement.Call) : Prop where
  word : call.method.toList.all Char.isAlpha = true
  argument : Enclosed call.argument
  default : call.method = "default" → ∃ value : DefaultValue, value.written = call.argument

theorem Fits.plain {call : Statement.Call} (h : Fits call) : call.method.toList.all isPlain = true :=
  List.all_eq_true.mpr fun c member =>
    isPlain_of_others (by decide) (List.all_eq_true.mp h.word c member)

theorem Fits.not_mem {call : Statement.Call} (h : Fits call) {c : Char} (special : isPlain c = false) :
    c ∉ call.method.toList :=
  fun member => ne_of_isPlain (List.all_eq_true.mp h.plain c member) special rfl

def piecesOf (call : Statement.Call) : List Token :=
  callPieces call.method (tokens .code call.argument.toList)

def chainPieces (calls : List Statement.Call) : List Token :=
  calls.flatMap piecesOf ++ [.mark ';']

theorem reads_chain {calls : List Statement.Call} (h : ∀ call ∈ calls, Fits call) :
    Reads (Statement.chain calls) (chainPieces calls) := by
  induction calls with
  | nil => exact reads_chain_nil
  | cons call calls ih =>
    obtain ⟨first, later⟩ := List.forall_mem_cons.mp h
    have chain := first.argument.reads.chain (first.not_mem (by decide)) (ih later)
    rw [chainPieces, List.flatMap_cons, List.append_assoc]
    exact chain

theorem Fits.level {call : Statement.Call} (h : Fits call) : Level (piecesOf call) := by
  have arrow : Level (marks "->") :=
    (level_plain (c := '-') (by decide)).append (level_mark (c := '>') rfl (by decide))
  exact arrow.append ((level_marks h.plain).append (h.argument.level.wrap rfl))

theorem Fits.noEnd {call : Statement.Call} (h : Fits call) : .mark ';' ∉ piecesOf call := by
  have name : .mark ';' ∉ marks call.method :=
    fun member => h.not_mem (by decide) (mem_marks.mp member)
  have arrow : .mark ';' ∉ marks "->" := by decide
  simp [piecesOf, callPieces, name, arrow, h.argument.noEnd]

/-- The only calls in a chain are its own. -/
theorem call_of_arrow {calls : List Statement.Call} (h : ∀ call ∈ calls, Fits call)
    {front before after : List Token} (noArrow : .mark '>' ∉ front)
    (shape : front ++ chainPieces calls = before ++ (marks "->" ++ after)) :
    ∃ call ∈ calls, ∃ rest,
      after = marks call.method ++
        .mark '(' :: (tokens .code call.argument.toList ++ .mark ')' :: rest) := by
  have arrow : marks "->" = [.mark '-', .mark '>'] := rfl
  rw [arrow] at shape
  -- The front holds no arrow: it is the table, or what the call passed last has after its arrow.
  induction calls generalizing front before with
  | nil =>
    have outside : .mark '>' ∉ front ++ chainPieces [] := by simpa [chainPieces] using noArrow
    rw [shape] at outside
    simp at outside
  | cons call calls ih =>
    obtain ⟨first, later⟩ := List.forall_mem_cons.mp h
    have opened : front ++ chainPieces (call :: calls) =
        (front ++ [.mark '-']) ++ .mark '>' :: (marks call.method ++ .mark '(' ::
          (tokens .code call.argument.toList ++ .mark ')' :: chainPieces calls)) := by
      simp [chainPieces, piecesOf, callPieces, arrow]
    have noArrow' : .mark '>' ∉ front ++ [.mark '-'] := by simpa using noArrow
    by_cases earlier : .mark '>' ∈ before
    · obtain ⟨s, t, rfl, fresh⟩ := List.eq_append_cons_of_mem earlier
      rw [opened, List.append_assoc s, List.cons_append] at shape
      obtain ⟨-, rest⟩ := append_mark_inj noArrow' fresh shape
      have inside : .mark '>' ∉ marks call.method ++ .mark '(' ::
          (tokens .code call.argument.toList ++ [.mark ')']) := by
        have name : .mark '>' ∉ marks call.method :=
          fun member => first.not_mem (by decide) (mem_marks.mp member)
        simp [name, first.argument.noArrow]
      obtain ⟨found, member, shape⟩ := ih later inside (by simpa using rest)
      exact ⟨found, List.mem_cons_of_mem _ member, shape⟩
    · have split : before ++ ([.mark '-', .mark '>'] ++ after) =
          (before ++ [.mark '-']) ++ .mark '>' :: after := by simp
      rw [opened, split] at shape
      obtain ⟨-, rest⟩ := append_mark_inj noArrow' (by simpa using earlier) shape
      exact ⟨call, List.mem_cons_self, chainPieces calls, rest.symm⟩

/-- A chain of calls that fit is one statement. -/
theorem isStatement_chain {calls : List Statement.Call} (h : ∀ call ∈ calls, Fits call) :
    IsStatement ("$table" ++ Statement.chain calls) := by
  have table : Reads "$table" (marks "$table") := reads_code (by decide)
  have pieces := (table.append (reads_chain h)).tokens_eq
  refine ⟨?_, ?_, ?_⟩
  all_goals rw [pieces]
  · have front : Level (marks "$table") := level_marks (by decide)
    have stop : Level [.mark ';'] := level_mark rfl (by decide)
    have inside := level_flatMap fun call member => (h call member).level
    exact (front.append (inside.append stop)).balanced
  · refine ⟨marks "$table" ++ calls.flatMap piecesOf, by simp [chainPieces], ?_⟩
    have front : .mark ';' ∉ marks "$table" := by decide
    have calls : .mark ';' ∉ calls.flatMap piecesOf := by
      intro member
      obtain ⟨call, found, inside⟩ := List.mem_flatMap.mp member
      exact (h call found).noEnd inside
    simp [front, calls]
  · intro before after shape
    have opening : marks "->default(" = marks "->" ++ (marks "default" ++ [.mark '(']) := rfl
    rw [opening, List.append_assoc] at shape
    have noArrow : .mark '>' ∉ marks "$table" := by decide
    obtain ⟨call, member, rest, argument⟩ := call_of_arrow h noArrow shape
    have fits := h call member
    rw [List.append_assoc] at argument
    obtain ⟨name, inside⟩ := append_mark_inj (by decide)
      (fun member => fits.not_mem (by decide) (mem_marks.mp member)) argument
    obtain ⟨value, written⟩ := fits.default (marks_inj.mp name).symm
    exact ⟨value, rest, by rw [written]; exact inside⟩

end TableMigration.Php
