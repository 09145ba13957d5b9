import Mathlib.Data.List.Forall2
import TableMigration.Document.Reader
import TableMigration.Proofs.Document.Quoting
import TableMigration.Proofs.Text.Decimal

/-!
# Lines of a document

How blank lines, comments, headers and entries read in front of the lines after them
(`Reads.comment`, `Reads.header`, `Reads.entry`), for entries that hold a quoted text, a truth value
or a number in decimal.
-/

namespace TableMigration.Document

/-! ### Numbers -/

theorem valueOf_toString (n : Nat) : valueOf 10 (toString n).toList = n := by
  have same : ∀ digits : List Char, (∀ c ∈ digits, c.isDigit = true) →
      valueOf 10 digits = Dump.decimalValue digits := by
    intro digits all
    refine List.foldl_ext _ _ _ fun value c member => ?_
    simp [hexDigit?, all c member]
  rw [same _ fun _ => Text.isDigit_of_mem_toString, Dump.decimalValue_toString]

section

variable {digits : List Char} (all : ∀ c ∈ digits, c.isDigit = true) (rest : List Char)
include all

theorem takeDigits_line :
    takeDigits Char.isDigit (digits ++ '\n' :: rest) = (digits, '\n' :: rest) := by
  induction digits with
  | nil => rfl
  | cons c digits ih =>
    rw [List.forall_mem_cons] at all
    rw [List.cons_append, takeDigits, if_pos all.1, ih all.2]

theorem head_of_digits {c : Char} (h : (digits ++ '\n' :: rest).head? = some c) :
    c.isDigit = true ∨ c = '\n' := by
  cases digits with
  | nil => exact .inr (Option.some.inj h).symm
  | cons d digits =>
    obtain rfl := Option.some.inj h
    exact .inl (all _ List.mem_cons_self)

theorem dropChar?_of_digits {mark : Char} (h : mark.isDigit = false ∧ mark ≠ '\n') :
    dropChar? mark (digits ++ '\n' :: rest) = none := by
  rcases shape : digits ++ '\n' :: rest with - | ⟨c, others⟩
  · rfl
  · refine if_neg ?_
    rintro rfl
    rcases head_of_digits all rest (by rw [shape]; rfl) with digit | same
    · rw [h.1] at digit
      cases digit
    · exact h.2 same

/-- A field of a moment takes no more than the digits of the line, and no mark follows. -/
theorem dropChar?_of_readField {n low high value : Nat} {after : List Char} {mark : Char}
    (field : readField n low high (digits ++ '\n' :: rest) = some (value, after))
    (h : mark.isDigit = false ∧ mark ≠ '\n') : dropChar? mark after = none := by
  rw [readField] at field
  split at field
  · rename_i fits
    obtain ⟨-, rfl⟩ := Prod.mk.inj (Option.some.inj field)
    have within : n ≤ digits.length := by
      by_contra longer
      have member : '\n' ∈ (digits ++ '\n' :: rest).take n := by
        refine List.mem_take_iff_getElem.mpr ⟨digits.length, ?_, ?_⟩
        · simp only [List.length_append, List.length_cons]
          omega
        · simp
      exact absurd (List.all_eq_true.mp fits.2.1 _ member) (by decide)
    rw [List.drop_append_of_le_length within]
    exact dropChar?_of_digits (fun c member => all c (List.mem_of_mem_drop member)) rest h
  · cases field

theorem readMoment_of_digits : readMoment (digits ++ '\n' :: rest) = none := by
  have noDate : skipDate? (digits ++ '\n' :: rest) = none := by
    rcases field : readField 4 0 9999 (digits ++ '\n' :: rest) with - | ⟨year, after⟩
    · simp [skipDate?, field]
    · have none : dropChar? '-' after = none := dropChar?_of_readField all rest field (by decide)
      simp [skipDate?, field, none]
  have noTime : skipTime? (digits ++ '\n' :: rest) = none := by
    rcases field : readField 2 0 23 (digits ++ '\n' :: rest) with - | ⟨hour, after⟩
    · simp [skipTime?, field]
    · have none : dropChar? ':' after = none := dropChar?_of_readField all rest field (by decide)
      simp [skipTime?, field, none]
  rw [readMoment, noDate, noTime]
  rfl

end

theorem readDecimal_of_whole {s whole rest : List Char} (unsigned : takeSign s = (false, s))
    (ordinary : readSpecial s = none) (digits : readWhole s = some (whole, rest))
    (noPoint : readPoint rest = none) (noExponent : readExponent rest = none) :
    readDecimal s = (integer? (valueOf 10 whole)).map (·, rest) := by
  rw [readDecimal, unsigned]
  simp [ordinary, digits, noPoint, noExponent, Option.map_eq_bind]

theorem ne_of_test {α : Type} {test : α → Bool} {a b : α} (yes : test a = true)
    (no : test b = false) : a ≠ b :=
  ne_of_apply_ne test (by simp [yes, no])

section

variable {c : Char} (digit : c.isDigit = true)
include digit

theorem takeSign_of_digit (s : List Char) : takeSign (c :: s) = (false, c :: s) := by
  unfold takeSign
  split
  · exact absurd (List.cons.inj ‹_›).1 (ne_of_test digit (by decide))
  · exact absurd (List.cons.inj ‹_›).1 (ne_of_test digit (by decide))
  · rfl

theorem readSpecial_of_digit (s : List Char) : readSpecial (c :: s) = none := by
  unfold readSpecial
  split
  · exact absurd (List.cons.inj ‹_›).1 (ne_of_test digit (by decide))
  · exact absurd (List.cons.inj ‹_›).1 (ne_of_test digit (by decide))
  · rfl

end

section

variable {c : Char} {others : List Char} (all : ∀ d ∈ c :: others, d.isDigit = true)
  (rest : List Char)
include all

/-- Digits without a prefix for another base are read in decimal. -/
theorem readNumber_eq_readDecimal :
    readNumber (c :: others ++ '\n' :: rest) = readDecimal (c :: others ++ '\n' :: rest) := by
  have second : ∀ {d tail}, d.isDigit = false ∧ d ≠ '\n' →
      c :: others ++ '\n' :: rest ≠ '0' :: d :: tail := by
    rintro d tail ⟨noDigit, noBreak⟩ same
    have head : (others ++ '\n' :: rest).head? = some d := congrArg (·.tail.head?) same
    rcases head_of_digits (List.forall_mem_cons.mp all).2 rest head with digit | same
    · exact ne_of_test digit noDigit rfl
    · exact noBreak same
  unfold readNumber
  split
  · exact absurd ‹_› (second (by decide))
  · exact absurd ‹_› (second (by decide))
  · exact absurd ‹_› (second (by decide))
  · rfl

theorem readWhole_of_digits (zero : c = '0' → others = []) :
    readWhole (c :: others ++ '\n' :: rest) = some (c :: others, '\n' :: rest) := by
  unfold readWhole
  split
  · rename_i tail same
    obtain ⟨rfl, rfl⟩ := List.cons.inj same
    rw [zero rfl]
    rfl
  · rw [List.cons_append, readDigits, if_pos (all c List.mem_cons_self), ← List.cons_append,
      takeDigits_line all]

/-- Digits at the front of a line are an integer, if no zero leads them and it fits in 64 bits. -/
theorem readNumber_of_digits {n : Nat} (zero : c = '0' → others = [])
    (value : valueOf 10 (c :: others) = n) (bounded : n < 0x8000000000000000) :
    readNumber (c :: others ++ '\n' :: rest) = some (.integer n, '\n' :: rest) := by
  have first := all c List.mem_cons_self
  have unsigned : takeSign (c :: others ++ '\n' :: rest) = _ := takeSign_of_digit first _
  have ordinary : readSpecial (c :: others ++ '\n' :: rest) = none := readSpecial_of_digit first _
  have noExponent : readExponent ('\n' :: rest) = none := by
    rw [readExponent, if_neg (by decide)]
  have fits : integer? n = some (.integer n) := by
    rw [integer?, if_pos]
    omega
  rw [readNumber_eq_readDecimal all, readDecimal_of_whole unsigned ordinary
    (readWhole_of_digits all rest zero) rfl noExponent, value, fits]
  rfl

end

/-- A number in decimal reads back, if it fits in 64 bits with a sign. -/
theorem readNumber_toString {n : Nat} (bounded : n < 0x8000000000000000) (rest : List Char) :
    readNumber ((toString n).toList ++ '\n' :: rest) = some (.integer n, '\n' :: rest) := by
  obtain ⟨c, others, shape⟩ := List.exists_cons_of_ne_nil (Text.toString_ne_nil n)
  have zero : c = '0' → others = [] := by
    rintro rfl
    have alone : '0' :: others = ['0'] := by
      rw [← shape, Text.toString_of_zero shape]
      rfl
    exact (List.cons.inj alone).2
  rw [shape]
  refine readNumber_of_digits (fun d member => ?_) rest zero ?_ bounded
  · exact Text.isDigit_of_mem_toString (by rwa [shape])
  · rw [← shape, valueOf_toString]

/-! ### Keys -/

/-- A key without quotes. -/
def IsBareKey (name : List Char) : Prop :=
  name ≠ [] ∧ ∀ c ∈ name, isBareKeyChar c = true

instance (name : List Char) : Decidable (IsBareKey name) :=
  decidable_of_iff (name ≠ [] ∧ name.all isBareKeyChar = true) (and_congr_right' List.all_eq_true)

/-- A character that ends a key without quotes: neither a dot nor a blank. -/
def EndsKey (c : Char) : Prop :=
  isBareKeyChar c = false ∧ isSpace c = false ∧ c ≠ '.'

theorem skipSpace_of_ne {c : Char} (h : isSpace c = false) (rest : List Char) :
    skipSpace (c :: rest) = c :: rest := by
  rw [skipSpace, List.dropWhile_cons, h]
  rfl

theorem isBareKeyChar_of_isSpace {c : Char} (h : isSpace c = true) : isBareKeyChar c = false := by
  rcases (by simpa [isSpace] using h : c = ' ' ∨ c = '\t') with rfl | rfl <;> decide

theorem IsBareKey.append_ne {name : List Char} (bare : IsBareKey name) {d : Char}
    (h : isBareKeyChar d = false) (s others : List Char) : name ++ s ≠ d :: others := by
  intro same
  obtain ⟨first, tail, rfl⟩ := List.exists_cons_of_ne_nil bare.1
  obtain ⟨rfl, -⟩ := List.cons.inj same
  rw [bare.2 _ List.mem_cons_self] at h
  cases h

theorem readKey_bare {name rest : List Char} {c : Char} (bare : IsBareKey name)
    (stop : isBareKeyChar c = false) :
    readKey (name ++ c :: rest) = some (String.ofList name, c :: rest) := by
  have all := bare.2
  have taken : (name ++ c :: rest).takeWhile isBareKeyChar = name := by
    rw [List.takeWhile_append_of_pos all, List.takeWhile_cons, stop]
    exact List.append_nil name
  have left : (name ++ c :: rest).dropWhile isBareKeyChar = c :: rest := by
    rw [List.dropWhile_append_of_pos all, List.dropWhile_cons, stop]
    rfl
  unfold readKey
  split
  · exact absurd ‹_› (bare.append_ne (by decide) _ _)
  · exact absurd ‹_› (bare.append_ne (by decide) _ _)
  · rw [taken, left, if_neg (by simpa using bare.1)]

theorem readDottedKey_bare {name blanks rest : List Char} {c : Char} (bare : IsBareKey name)
    (spaces : ∀ d ∈ blanks, isSpace d = true) (stop : EndsKey c) :
    readDottedKey (name ++ (blanks ++ c :: rest)) = some (([], String.ofList name), c :: rest) := by
  obtain ⟨stopBare, stopSpace, stopDot⟩ := stop
  have start : skipSpace (name ++ (blanks ++ c :: rest)) = name ++ (blanks ++ c :: rest) := by
    obtain ⟨d, others, rfl⟩ := List.exists_cons_of_ne_nil bare.1
    refine skipSpace_of_ne ?_ _
    by_contra space
    have := isBareKeyChar_of_isSpace (Bool.not_eq_false _ ▸ space)
    rw [bare.2 d List.mem_cons_self] at this
    cases this
  have behind : skipSpace (blanks ++ c :: rest) = c :: rest := by
    rw [skipSpace, List.dropWhile_append_of_pos spaces]
    exact skipSpace_of_ne stopSpace rest
  have key : readKey (name ++ (blanks ++ c :: rest)) =
      some (String.ofList name, blanks ++ c :: rest) := by
    cases blanks with
    | nil => exact readKey_bare bare stopBare
    | cons blank blanks =>
      exact readKey_bare bare (isBareKeyChar_of_isSpace (spaces _ List.mem_cons_self))
  have steps : readSteps ((name ++ (blanks ++ c :: rest)).length + 1)
      (name ++ (blanks ++ c :: rest)) = some ([String.ofList name], c :: rest) := by
    rw [readSteps, start, key]
    simp only [Option.bind_eq_bind, Option.bind_some, behind]
    split
    · rename_i dot
      exact absurd (List.cons.inj dot).1 stopDot
    · rfl
  rw [readDottedKey, steps]
  rfl

/-! ### Lines -/

/-- A text is made up of these lines, whatever the fuel. -/
def Reads (s : List Char) (lines : List Line) : Prop :=
  ∀ fuel, s.length < fuel → readLines fuel s = some lines

theorem Reads.nil : Reads [] [] := by
  rintro (_ | fuel) h
  · cases h
  · rfl

variable {rest : List Char} {lines : List Line}

/-- What is passed over between lines does not count. -/
theorem Reads.gap {s : List Char} (h : Reads rest lines) (longer : rest.length ≤ s.length)
    (skipped : skipGap false s = skipGap false rest) : Reads s lines := by
  rintro (_ | fuel) enough
  · cases enough
  · have same := h (fuel + 1) (by omega)
    rw [readLines] at same ⊢
    rwa [skipped]

theorem Reads.blank (h : Reads rest lines) : Reads ('\n' :: rest) lines :=
  h.gap (Nat.le_succ _) rfl

theorem Reads.comment {text : List Char} (plain : ∀ c ∈ text, isTextChar c = true)
    (h : Reads rest lines) : Reads ('#' :: text ++ '\n' :: rest) lines := by
  refine h.gap (by simp; omega) ?_
  have inside : skipGap true (text ++ '\n' :: rest) = skipGap false rest := by
    induction text with
    | nil => rfl
    | cons c text ih =>
      rw [List.forall_mem_cons] at plain
      rw [List.cons_append, skipGap, if_pos rfl, if_pos plain.1, ih plain.2]
      · exact ne_of_test plain.1 (by decide)
      · exact fun _ same => absurd same (ne_of_test plain.1 (by decide))
  exact inside

theorem Reads.line {s : List Char} {line : Line} (start : skipGap false s = s) (nonempty : s ≠ [])
    (shorter : rest.length < s.length) (read : readLine s = some (line, '\n' :: rest))
    (h : Reads rest lines) : Reads s (line :: lines) := by
  rintro (_ | fuel) enough
  · cases enough
  · rw [readLines, start]
    split
    · exact absurd rfl nonempty
    · have later := h fuel (by omega)
      have lineEnd : skipLineEnd? ('\n' :: rest) = some rest := rfl
      simp [read, lineEnd, later]

theorem skipGap_of_isBareKeyChar {c : Char} (h : isBareKeyChar c = true) (s : List Char) :
    skipGap false (c :: s) = c :: s := by
  have noSpace : ¬isSpace c = true := fun space =>
    ne_of_test h (isBareKeyChar_of_isSpace space) rfl
  rw [skipGap, if_neg Bool.false_ne_true, if_neg noSpace, if_neg (ne_of_test h (by decide))]
  · exact ne_of_test h (by decide)
  · exact fun _ same => absurd same (ne_of_test h (by decide))

theorem Reads.header {name : List Char} (bare : IsBareKey name) (h : Reads rest lines) :
    Reads ('[' :: name ++ ']' :: '\n' :: rest) (.header [] (String.ofList name) :: lines) := by
  refine h.line rfl (List.cons_ne_nil _ _) (by simp; omega) ?_
  have key : readDottedKey (name ++ ([] ++ ']' :: '\n' :: rest)) = _ :=
    readDottedKey_bare bare (by simp) ⟨by decide, by decide, by decide⟩
  rw [List.nil_append] at key
  rw [List.cons_append, readLine, readHeader, key]
  · rfl
  · exact fun others same => bare.append_ne (by decide) _ _ same

/-- A value that opens neither an array nor a table, written before the end of a line. -/
structure Shows (shown : List Char) (value : Value) : Prop where
  nonempty : shown ≠ []
  start : ∀ c ∈ shown.head?, c ∉ [' ', '\t', '[', '\x7b']
  reads : ∀ rest, readScalar (shown ++ '\n' :: rest) = some (value, '\n' :: rest)

theorem readScalar_of_ne {c : Char} (yes : c ≠ 't') (no : c ≠ 'f') (s : List Char) :
    readScalar (c :: s) =
      if c = '"' ∨ c = '\'' then (readText (c :: s)).map fun (text, rest) => (.string text, rest)
      else (readMoment (c :: s)).or (readNumber (c :: s)) := by
  unfold readScalar
  split
  · exact absurd (List.cons.inj ‹_›).1 yes
  · exact absurd (List.cons.inj ‹_›).1 no
  · obtain ⟨rfl, rfl⟩ := List.cons.inj ‹_›
    rfl
  · cases ‹c :: s = []›

theorem Shows.text (s : List Char) : Shows (quoteChars s) (.string (String.ofList s)) := by
  obtain ⟨before, body, after, shape, -, -, quote⟩ := isInQuotes_quoteChars s
  obtain ⟨q, tail, whole, isQuote⟩ : ∃ q tail, quoteChars s = q :: tail ∧ (q = '"' ∨ q = '\'') := by
    cases before with
    | nil => simp at quote
    | cons q before => exact ⟨q, _, shape, by simpa using quote⟩
  refine ⟨by simp [whole], ?_, fun rest => ?_⟩
  · rw [whole]
    rintro c ⟨⟩
    rcases isQuote with rfl | rfl <;> decide
  · have reads := readText_quoteChars s rest
    rw [whole] at reads ⊢
    have apart : ∀ {d : Char}, d ≠ '"' → d ≠ '\'' → q ≠ d := by
      rintro d noQuote noApostrophe rfl
      exact isQuote.elim noQuote noApostrophe
    rw [List.cons_append] at reads ⊢
    rw [readScalar_of_ne (apart (by decide) (by decide)) (apart (by decide) (by decide)),
      if_pos isQuote, reads]
    rfl

theorem Shows.flag (b : Bool) : Shows (if b then "true" else "false").toList (.boolean b) := by
  cases b
  · exact ⟨by decide, by simp, fun _ => rfl⟩
  · exact ⟨by decide, by simp, fun _ => rfl⟩

theorem Shows.number {n : Nat} (bounded : n < 0x8000000000000000) :
    Shows (toString n).toList (.integer n) := by
  have digits : ∀ c ∈ (toString n).toList, c.isDigit = true := fun _ => Text.isDigit_of_mem_toString
  refine ⟨Text.toString_ne_nil n, fun c first opening => ?_, fun rest => ?_⟩
  · have noDigit : ∀ c ∈ [' ', '\t', '[', '\x7b'], c.isDigit = false := by simp
    have digit := digits c (List.mem_of_mem_head? first)
    rw [noDigit c opening] at digit
    cases digit
  · have number := readNumber_toString bounded rest
    have noMoment := readMoment_of_digits digits rest
    obtain ⟨c, others, shape⟩ := List.exists_cons_of_ne_nil (Text.toString_ne_nil n)
    have digit : c.isDigit = true := digits c (by rw [shape]; exact List.mem_cons_self)
    rw [shape, List.cons_append] at number noMoment ⊢
    rw [readScalar_of_ne (ne_of_test digit (by decide)) (ne_of_test digit (by decide)), if_neg,
      noMoment, number]
    · rfl
    · exact fun quote => quote.elim (ne_of_test digit (by decide)) (ne_of_test digit (by decide))

theorem Shows.readValue {shown : List Char} {value : Value} (shows : Shows shown value) :
    readValue (depthLimit - 1) (skipSpace (' ' :: (shown ++ '\n' :: rest))) =
      some (value, '\n' :: rest) := by
  obtain ⟨c, tail, rfl⟩ := List.exists_cons_of_ne_nil shows.nonempty
  obtain ⟨blank, tab, bracket, brace⟩ : c ≠ ' ' ∧ c ≠ '\t' ∧ c ≠ '[' ∧ c ≠ '\x7b' := by
    simpa using shows.start c rfl
  have behind : skipSpace (' ' :: (c :: tail ++ '\n' :: rest)) = c :: tail ++ '\n' :: rest :=
    skipSpace_of_ne (c := c) (by simp [isSpace, blank, tab]) _
  rw [behind]
  change Document.readValue (_ + 1) _ = _
  unfold Document.readValue
  split
  · exact absurd (List.cons.inj ‹_›).1 bracket
  · exact absurd (List.cons.inj ‹_›).1 brace
  · exact shows.reads rest

theorem Reads.entry {name shown : List Char} {value : Value} (bare : IsBareKey name)
    (shows : Shows shown value) (h : Reads rest lines) :
    Reads (name ++ ' ' :: '=' :: ' ' :: (shown ++ '\n' :: rest))
      (.entry [] (String.ofList name) value :: lines) := by
  obtain ⟨first, others, shape⟩ := List.exists_cons_of_ne_nil bare.1
  have start : skipGap false (name ++ ' ' :: '=' :: ' ' :: (shown ++ '\n' :: rest)) =
      name ++ ' ' :: '=' :: ' ' :: (shown ++ '\n' :: rest) := by
    rw [shape]
    exact skipGap_of_isBareKeyChar (bare.2 first (by rw [shape]; exact List.mem_cons_self)) _
  have key : readDottedKey (name ++ ([' '] ++ '=' :: ' ' :: (shown ++ '\n' :: rest))) = _ :=
    readDottedKey_bare bare (by simp [isSpace]) ⟨by decide, by decide, by decide⟩
  refine h.line start ?_ ?_ ?_
  · simp
  · simp
    omega
  · unfold readLine
    split
    · exact absurd ‹_› (bare.append_ne (by decide) _ _)
    · exact absurd ‹_› (bare.append_ne (by decide) _ _)
    · rw [List.singleton_append] at key
      simp [readAssignment, key, shows.readValue]

/-- A line that adds these lines to what is read, whatever follows. -/
def ReadsLine (line : List Char) (found : List Line) : Prop :=
  ∀ rest lines, Reads rest lines → Reads (line ++ '\n' :: rest) (found ++ lines)

namespace ReadsLine

theorem blank : ReadsLine [] [] := fun _ _ h => h.blank

theorem comment {text : List Char} (plain : ∀ c ∈ text, isTextChar c = true) :
    ReadsLine ('#' :: text) [] :=
  fun _ _ h => h.comment plain

theorem header {name : List Char} (bare : IsBareKey name) :
    ReadsLine ('[' :: name ++ [']']) [.header [] (String.ofList name)] := fun _ _ h => by
  simpa using h.header bare

theorem entry {name shown : List Char} {value : Value} (bare : IsBareKey name)
    (shows : Shows shown value) :
    ReadsLine (name ++ ' ' :: '=' :: ' ' :: shown) [.entry [] (String.ofList name) value] :=
  fun _ _ h => by simpa using h.entry bare shows

end ReadsLine

theorem Reads.ofLines {texts : List (List Char)} {found : List (List Line)}
    (h : List.Forall₂ ReadsLine texts found) : Reads (texts.flatMap (· ++ ['\n'])) found.flatten := by
  induction h with
  | nil => exact .nil
  | cons first _ ih =>
    rw [List.flatMap_cons, List.append_assoc, List.flatten_cons]
    exact first _ _ ih

end TableMigration.Document
