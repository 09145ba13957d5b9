import TableMigration.Document.Quoted
import TableMigration.Document.Text
import TableMigration.Proofs.Text.Casing
import TableMigration.Proofs.Text.Replace

/-!
# Quoted texts

A text that was quoted reads back, in whatever quotes it was put (`readText_quoteChars`).
-/

namespace TableMigration.Document

/-! ### Reading on -/

/-- The state behind some characters, none of which could close the text, and what they add. -/
def TextState.after? (quotes : Quotes) : TextState → List Char → Option (TextState × List Char)
  | state, [] => some (state, [])
  | state, c :: rest =>
    if state.mayClose ∧ c = quotes.mark then none
    else
      (state.next quotes c).bind fun (state, added) =>
        (state.after? quotes rest).map fun (state, more) => (state, added ++ more)

variable {quotes : Quotes}

theorem closing?_of_ne {c : Char} (h : c ≠ quotes.mark) (rest : List Char) :
    closing? quotes (c :: rest) = none := by
  unfold closing?
  split
  · dsimp only
    split
    · rename_i shape
      obtain ⟨rfl, -⟩ := List.cons.inj shape
      exact if_neg fun marks => h marks.1
    · rfl
  · exact if_neg h

theorem readTextFrom_next {state state' : TextState} {c : Char} {added rest : List Char}
    (open' : state.mayClose = true → closing? quotes (c :: rest) = none)
    (next : state.next quotes c = some (state', added)) :
    readTextFrom quotes state (c :: rest) =
      (readTextFrom quotes state' rest).map fun (text, rest) => (added ++ text, rest) := by
  have unclosed : (if state.mayClose then closing? quotes (c :: rest) else none) = none := by
    split
    · exact open' ‹_›
    · rfl
  rw [readTextFrom, unclosed, next]

theorem readTextFrom_after {state state' : TextState} {chars added : List Char}
    (h : state.after? quotes chars = some (state', added)) (rest : List Char) :
    readTextFrom quotes state (chars ++ rest) =
      (readTextFrom quotes state' rest).map fun (text, rest) => (added ++ text, rest) := by
  induction chars generalizing state added with
  | nil =>
    obtain ⟨rfl, rfl⟩ := Prod.mk.inj (Option.some.inj h)
    simp
  | cons c chars ih =>
    rw [TextState.after?] at h
    split at h
    · cases h
    · rename_i unclosed
      obtain ⟨⟨middle, first⟩, next, h⟩ := Option.bind_eq_some_iff.mp h
      obtain ⟨⟨last, more⟩, reached, same⟩ := Option.map_eq_some_iff.mp h
      obtain ⟨rfl, rfl⟩ := Prod.mk.inj same
      have open' : state.mayClose = true → closing? quotes (c :: (chars ++ rest)) = none :=
        fun may => closing?_of_ne (fun mark => unclosed ⟨may, mark⟩) _
      rw [List.cons_append, readTextFrom_next open' next, ih reached, Option.map_map]
      congr 1
      funext pair
      simp

/-! ### Characters between double quotes -/

/-- How a character other than a double quote is shown between double quotes. -/
def shown (multiline : Bool) (c : Char) : List Char :=
  if c = '\x08' then ['\\', 'b']
  else if c = '\t' then ['\\', 't']
  else if c = '\n' then if multiline then ['\n'] else ['\\', 'n']
  else if c = '\x0c' then ['\\', 'f']
  else if c = '\r' then ['\\', 'r']
  else if c = '\\' then ['\\', '\\']
  else if needsCode c then codeEscape c
  else [c]

theorem escapeFrom_cons {c : Char} (h : c ≠ '"') (multiline : Bool) (limit run : Nat)
    (rest : List Char) :
    escapeFrom multiline limit run (c :: rest) =
      shown multiline c ++ escapeFrom multiline limit 0 rest := by
  rw [escapeFrom, if_neg h]
  rfl

theorem shown_of_wide {c : Char} (h : 128 ≤ c.toNat) (multiline : Bool) :
    shown multiline c = [c] := by
  have apart : ∀ d : Char, d.toNat < 128 → c ≠ d := fun d small same => by
    rw [same] at h
    omega
  have plain : needsCode c = false := by
    simp only [needsCode, Bool.and_eq_false_iff, Bool.or_eq_false_iff, decide_eq_false_iff_not,
      beq_eq_false_iff_ne]
    exact .inr ⟨by omega, by omega⟩
  simp [shown, apart, plain]

theorem after?_shown {c : Char} (h : c ≠ '"') (multiline : Bool) :
    TextState.text.after? ⟨'"', multiline⟩ (shown multiline c) = some (.text, [c]) := by
  by_cases ascii : c.toNat < 128
  · have all : ∀ n < 128, ∀ multiline, Char.ofNat n ≠ '"' →
        TextState.text.after? ⟨'"', multiline⟩ (shown multiline (Char.ofNat n)) =
          some (.text, [Char.ofNat n]) := by
      decide +kernel
    exact Text.forall_ascii (P := fun c => ∀ multiline, c ≠ '"' →
      TextState.text.after? ⟨'"', multiline⟩ (shown multiline c) = some (.text, [c]))
      all ascii multiline h
  · have apart : ∀ d : Char, d.toNat < 128 → c ≠ d := fun d small same => ascii (same ▸ small)
    have plain : isTextChar c = true := by
      simp only [isTextChar, Bool.or_eq_true, Bool.and_eq_true, decide_eq_true_eq, bne_iff_ne]
      exact .inr ⟨by omega, by omega⟩
    rw [shown_of_wide (by omega)]
    simp [TextState.after?, TextState.next, apart, plain]

/-- What is shown is the character itself, or a backslash and characters other than a brace. -/
theorem shown_cases (multiline : Bool) (c : Char) :
    (shown multiline c = [c] ∧ c ≠ '\r') ∨
      ∃ piece, shown multiline c = '\\' :: piece ∧ '\x7b' ∉ piece := by
  by_cases ascii : c.toNat < 128
  · have all : ∀ n < 128, ∀ multiline,
        (shown multiline (Char.ofNat n) = [Char.ofNat n] ∧ Char.ofNat n ≠ '\r') ∨
          (shown multiline (Char.ofNat n)).head? = some '\\' ∧
            '\x7b' ∉ (shown multiline (Char.ofNat n)).tail := by
      decide +kernel
    have cases' := Text.forall_ascii (P := fun c => ∀ multiline,
      (shown multiline c = [c] ∧ c ≠ '\r') ∨
        (shown multiline c).head? = some '\\' ∧ '\x7b' ∉ (shown multiline c).tail) all ascii multiline
    refine cases'.imp_right fun ⟨first, others⟩ => ?_
    obtain ⟨piece, shape⟩ := List.head?_eq_some_iff.mp first
    exact ⟨piece, shape, by rwa [shape] at others⟩
  · refine .inl ⟨shown_of_wide (by omega) multiline, ?_⟩
    rintro rfl
    exact ascii (by decide)

theorem readTextFrom_escaped (run : Nat) (s rest : List Char) :
    readTextFrom ⟨'"', false⟩ .text (escapeFrom false 0 run s ++ '"' :: rest) = some (s, rest) := by
  induction s generalizing run with
  | nil => rfl
  | cons c s ih =>
    by_cases quote : c = '"'
    · subst quote
      have escape : TextState.text.after? ⟨'"', false⟩ ['\\', '"'] = some (.text, ['"']) := by decide
      rw [escapeFrom, if_pos rfl, if_pos (Nat.zero_le _)]
      have reads := readTextFrom_after escape (escapeFrom false 0 0 s ++ '"' :: rest)
      rw [ih] at reads
      exact reads
    · rw [escapeFrom_cons quote, List.append_assoc, readTextFrom_after (after?_shown quote false), ih]
      rfl

/-! ### Texts of several lines -/

/-- Characters that show a text between threefold quotes, `run` of which came just before. Never do
three stand together. -/
inductive ShowsBlock (q : Char) : Nat → List Char → List Char → Prop
  | nil (run : Nat) : ShowsBlock q run [] []
  | mark {run : Nat} {s chars : List Char} : run < 2 → ShowsBlock q (run + 1) s chars →
      ShowsBlock q run (q :: s) (q :: chars)
  | piece {run : Nat} {c first : Char} {piece s chars : List Char} : first ≠ q →
      TextState.text.after? ⟨q, true⟩ (first :: piece) = some (.text, [c]) →
      ShowsBlock q 0 s chars → ShowsBlock q run (c :: s) (first :: piece ++ chars)

/-- Behind a quote, either the text is over soon or the next two characters are not both quotes. -/
theorem ShowsBlock.first_two {q : Char} {run : Nat} {s chars : List Char}
    (h : ShowsBlock q (run + 1) s chars) (rest : List Char) :
    (s = [] ∧ chars = []) ∨ (s = [q] ∧ chars = [q]) ∨
      ∀ others, chars ++ q :: q :: q :: rest ≠ q :: q :: others := by
  cases h with
  | nil => exact .inl ⟨rfl, rfl⟩
  | piece apart _ _ => exact .inr (.inr fun others same => apart (List.cons.inj same).1)
  | mark small inner =>
    cases inner with
    | nil => exact .inr (.inl ⟨rfl, rfl⟩)
    | mark more _ => omega
    | piece apart _ _ =>
      exact .inr (.inr fun others same => apart (List.cons.inj (List.cons.inj same).2).1)

theorem closing?_marks {q : Char} {rest : List Char} (h : rest.head? ≠ some q) :
    closing? ⟨q, true⟩ (q :: q :: q :: rest) = some ([], rest) ∧
      closing? ⟨q, true⟩ (q :: q :: q :: q :: rest) = some ([q], rest) ∧
      closing? ⟨q, true⟩ (q :: q :: q :: q :: q :: rest) = some ([q, q], rest) := by
  cases rest with
  | nil => simp [closing?]
  | cons c rest =>
    have apart : c ≠ q := by simpa using h
    simp [closing?, apart]

/-- A text between threefold quotes is read up to the quotes that close it. -/
theorem ShowsBlock.read {q : Char} {run : Nat} {s chars rest : List Char}
    (h : ShowsBlock q run s chars) (plain : TextState.text.next ⟨q, true⟩ q = some (.text, [q]))
    (apart : rest.head? ≠ some q) :
    readTextFrom ⟨q, true⟩ .text (chars ++ q :: q :: q :: rest) = some (s, rest) := by
  obtain ⟨none, one, two⟩ := closing?_marks apart
  induction h with
  | nil run => simp [readTextFrom, TextState.mayClose, none]
  | piece _ reads _ ih =>
    rw [List.append_assoc, readTextFrom_after reads, ih]
    rfl
  | @mark _ s chars _ inner ih =>
    rcases inner.first_two rest with ⟨rfl, rfl⟩ | ⟨rfl, rfl⟩ | more
    · simp [readTextFrom, TextState.mayClose, one]
    · simp [readTextFrom, TextState.mayClose, two]
    · -- Further quotes follow, but never three of them: the text goes on.
      have unclosed : closing? ⟨q, true⟩ (q :: (chars ++ q :: q :: q :: rest)) = Option.none := by
        unfold closing?
        rw [if_pos rfl]
        dsimp only
        split
        · rename_i shape
          refine if_neg fun ⟨_, second, third⟩ => ?_
          obtain ⟨-, tail⟩ := List.cons.inj shape
          exact more _ (tail.trans (by rw [second, third]))
        · rfl
      rw [List.cons_append, readTextFrom_next (fun _ => unclosed) plain, ih]
      rfl

theorem showsBlock_escaped {run : Nat} (h : run ≤ 2) (s : List Char) :
    ShowsBlock '"' run s (escapeFrom true 2 run s) := by
  induction s generalizing run with
  | nil => exact .nil run
  | cons c s ih =>
    -- A third quote in a row gets an escape, and any other character ends the run.
    by_cases quote : c = '"'
    · subst quote
      rw [escapeFrom, if_pos rfl]
      split
      · exact @ShowsBlock.piece _ _ '"' '\\' ['"'] _ _ (by decide) (by decide) (ih (Nat.zero_le 2))
      · exact .mark (by omega) (ih (by omega))
    · rw [escapeFrom_cons quote]
      have reads := after?_shown quote true
      rcases shown_cases true c with ⟨shape, -⟩ | ⟨piece, shape, -⟩
      · rw [shape] at reads ⊢
        exact .piece quote reads (ih (Nat.zero_le 2))
      · rw [shape] at reads ⊢
        exact .piece (by decide) reads (ih (Nat.zero_le 2))

theorem next_of_not_needsCode {c : Char} (h : needsCode c = false) (multiline : Bool)
    (oneLine : multiline = false → c ≠ '\n') :
    TextState.text.next ⟨'\'', multiline⟩ c = some (.text, [c]) := by
  by_cases newline : c = '\n'
  · subst newline
    cases multiline with
    | false => exact absurd rfl (oneLine rfl)
    | true => rfl
  · have return' : c ≠ '\r' := by
      rintro rfl
      cases h
    have plain : isTextChar c = true := by
      simp only [needsCode, Bool.and_eq_false_iff, bne_eq_false_iff_eq, newline, or_false,
        Bool.or_eq_false_iff, decide_eq_false_iff_not, beq_eq_false_iff_ne] at h
      simp only [isTextChar, Bool.or_eq_true, Bool.and_eq_true, decide_eq_true_eq, bne_iff_ne,
        beq_iff_eq]
      exact h.imp_right fun ⟨low, delete⟩ => ⟨by omega, delete⟩
    simp [TextState.next, newline, return', plain]

theorem le_longestRun (mark : Char) (run : Nat) (s : List Char) : run ≤ longestRun mark run s := by
  induction s generalizing run with
  | nil => exact Nat.le_refl run
  | cons c s ih =>
    rw [longestRun]
    split
    · exact Nat.le_trans (Nat.le_succ run) (ih (run + 1))
    · exact Nat.le_max_left _ _

theorem longestRun_pos {mark : Char} {s : List Char} (h : mark ∈ s) (run : Nat) :
    0 < longestRun mark run s := by
  induction s generalizing run with
  | nil => cases h
  | cons c s ih =>
    rw [longestRun]
    split
    · exact Nat.lt_of_lt_of_le (Nat.succ_pos run) (le_longestRun mark (run + 1) s)
    · rename_i other
      have later := (List.mem_cons.mp h).resolve_left fun same => other same.symm
      exact Nat.lt_of_lt_of_le (ih later 0) (Nat.le_max_right _ _)

theorem showsBlock_plain {run : Nat} {s : List Char} (h : longestRun '\'' run s ≤ 2)
    (plain : ∀ c ∈ s, needsCode c = false) : ShowsBlock '\'' run s s := by
  induction s generalizing run with
  | nil => exact .nil run
  | cons c s ih =>
    have later : ∀ d ∈ s, needsCode d = false := fun d member => plain d (List.mem_cons_of_mem _ member)
    rw [longestRun] at h
    split at h
    · rename_i quote
      subst quote
      exact .mark (Nat.lt_of_succ_le (Nat.le_trans (le_longestRun _ _ s) h)) (ih h later)
    · rename_i other
      have next := next_of_not_needsCode (plain c List.mem_cons_self) true nofun
      have reads : TextState.text.after? ⟨'\'', true⟩ [c] = some (.text, [c]) := by
        simp [TextState.after?, other, next]
      exact .piece other reads (ih (by omega) later)

/-! ### Quotes around a text -/

theorem readText_of_line {q : Char} (h : q = '"' ∨ q = '\'') {s : List Char}
    (single : ∀ others, s ≠ q :: q :: others) : readText (q :: s) = readLineText q s := by
  rcases h with rfl | rfl
  all_goals
    unfold readText
    split <;> simp_all

theorem readText_of_block {q : Char} (h : q = '"' ∨ q = '\'') (s : List Char) :
    readText (q :: q :: q :: s) = readBlockText q s := by
  rcases h with rfl | rfl <;> rfl

theorem dropLineEnd?_eq_none {c : Char} (newline : c ≠ '\n') (return' : c ≠ '\r')
    (rest : List Char) : dropLineEnd? (c :: rest) = none := by
  unfold dropLineEnd?
  split <;> simp_all

theorem readText_escaped (s rest : List Char) :
    readText ('"' :: (escapeFrom false 0 0 s ++ '"' :: '\n' :: rest)) =
      some (String.ofList s, '\n' :: rest) := by
  rw [readText_of_line (.inl rfl), readLineText, readTextFrom_escaped]
  · rfl
  · intro others same
    cases s with
    | nil => cases same
    | cons c s =>
      by_cases quote : c = '"'
      · subst quote
        cases same
      · rw [escapeFrom_cons quote] at same
        rcases shown_cases false c with ⟨shape, -⟩ | ⟨piece, shape, -⟩
        · rw [shape] at same
          exact quote (List.cons.inj same).1
        · rw [shape] at same
          cases same

theorem readText_plain {s : List Char} (plain : ∀ c ∈ s, needsCode c = false)
    (oneLine : '\n' ∉ s) (noMark : '\'' ∉ s) (nonempty : s ≠ []) (rest : List Char) :
    readText ('\'' :: (s ++ '\'' :: '\n' :: rest)) = some (String.ofList s, '\n' :: rest) := by
  have reads : ∀ s : List Char, (∀ c ∈ s, needsCode c = false) → '\n' ∉ s → '\'' ∉ s →
      readTextFrom ⟨'\'', false⟩ .text (s ++ '\'' :: '\n' :: rest) = some (s, '\n' :: rest) := by
    intro s plain oneLine noMark
    induction s with
    | nil => rfl
    | cons c s ih =>
      rw [List.forall_mem_cons] at plain
      rw [List.mem_cons, not_or] at oneLine noMark
      have next := next_of_not_needsCode plain.1 false fun _ => Ne.symm oneLine.1
      rw [List.cons_append, readTextFrom_next (fun _ => closing?_of_ne (Ne.symm noMark.1) _) next,
        ih plain.2 oneLine.2 noMark.2]
      rfl
  rw [readText_of_line (.inr rfl), readLineText, reads s plain oneLine noMark]
  · rfl
  · intro others same
    obtain ⟨c, s, rfl⟩ := List.exists_cons_of_ne_nil nonempty
    exact noMark (List.mem_cons.mpr (.inl (List.cons.inj same).1.symm))

theorem readText_block {q : Char} (h : q = '"' ∨ q = '\'') {s chars rest : List Char}
    (shows : ShowsBlock q 0 s chars)
    (start : '\n' ∉ s → ∀ c ∈ chars.head?, c ≠ '\n' ∧ c ≠ '\r') :
    readText (q :: q :: q :: (opening s ++ (chars ++ q :: q :: q :: '\n' :: rest))) =
      some (String.ofList s, '\n' :: rest) := by
  have plain : TextState.text.next ⟨q, true⟩ q = some (.text, [q]) := by
    rcases h with rfl | rfl <;> rfl
  have apart : ('\n' :: rest).head? ≠ some q := by
    rcases h with rfl | rfl <;> simp
  have opened : (dropLineEnd? (opening s ++ (chars ++ q :: q :: q :: '\n' :: rest))).getD
      (opening s ++ (chars ++ q :: q :: q :: '\n' :: rest)) = chars ++ q :: q :: q :: '\n' :: rest := by
    by_cases several : '\n' ∈ s
    · rw [opening, if_pos (by simpa using several)]
      rfl
    · rw [opening, if_neg (by simpa using several), List.nil_append]
      cases chars with
      | nil => rcases h with rfl | rfl <;> rfl
      | cons c chars =>
        obtain ⟨newline, return'⟩ := start several c (by simp)
        rw [List.cons_append, dropLineEnd?_eq_none newline return']
        rfl
  rw [readText_of_block h, readBlockText, opened, shows.read plain apart]
  rfl

theorem start_escaped {s : List Char} (oneLine : '\n' ∉ s) :
    ∀ c ∈ (escapeFrom true 2 0 s).head?, c ≠ '\n' ∧ c ≠ '\r' := by
  intro first member
  cases s with
  | nil => cases member
  | cons c s =>
    by_cases quote : c = '"'
    · subst quote
      cases member
      decide
    · rw [escapeFrom_cons quote] at member
      rcases shown_cases true c with ⟨shape, noReturn⟩ | ⟨piece, shape, -⟩
      · rw [shape] at member
        cases member
        exact ⟨fun same => oneLine (same ▸ List.mem_cons_self), noReturn⟩
      · rw [shape] at member
        cases member
        decide

/-- A quoted text reads back. -/
theorem readText_quoteChars (s rest : List Char) :
    readText (quoteChars s ++ '\n' :: rest) = some (String.ofList s, '\n' :: rest) := by
  have line : readText (lineQuotes ++ escapeFrom false 0 0 s ++ lineQuotes ++ '\n' :: rest) =
      some (String.ofList s, '\n' :: rest) := by
    simpa [lineQuotes] using readText_escaped s rest
  have block : readText (blockQuotes ++ opening s ++ escapeFrom true 2 0 s ++ blockQuotes ++
      '\n' :: rest) = some (String.ofList s, '\n' :: rest) := by
    simpa [blockQuotes] using
      readText_block (.inl rfl) (showsBlock_escaped (Nat.zero_le 2) s) start_escaped
  have uncoded : s.any needsCode = false → ∀ c ∈ s, needsCode c = false := by simp
  have newline : s.contains '\n' = false → '\n' ∉ s := by simp
  unfold quoteChars
  dsimp only
  split
  · exact line
  split
  · rename_i notLine conditions
    simp only [Bool.and_eq_true, Bool.not_eq_true', beq_iff_eq] at notLine conditions
    obtain ⟨⟨plain, noMark⟩, oneLine⟩ := conditions
    have nonempty : s ≠ [] := by
      rintro rfl
      exact notLine (by decide)
    simpa using readText_plain (uncoded plain) (newline oneLine)
      (fun member => absurd noMark (Nat.ne_of_gt (longestRun_pos member 0))) nonempty rest
  split
  · exact block
  split
  · rename_i conditions
    simp only [Bool.and_eq_true, Bool.not_eq_true', decide_eq_true_eq] at conditions
    have start : '\n' ∉ s → ∀ c ∈ s.head?, c ≠ '\n' ∧ c ≠ '\r' := by
      intro oneLine c first
      have member := List.mem_of_mem_head? first
      refine ⟨fun same => oneLine (same ▸ member), fun same => ?_⟩
      exact absurd (uncoded conditions.1 c member) (by rw [same]; decide)
    simpa [blockApostrophes] using
      readText_block (.inr rfl) (showsBlock_plain conditions.2 (uncoded conditions.1)) start
  split
  · exact block
  · exact line

/-! ### Patterns in quotes

A pattern of other characters than quotes, backslashes and line feeds that starts with a brace is
in the quoted text only if it is in the text. -/

theorem prefix_of_escapeFrom {pattern s : List Char} {multiline : Bool} {limit run : Nat}
    (foreign : '\\' ∉ pattern) (h : pattern <+: escapeFrom multiline limit run s) :
    pattern <+: s := by
  induction s generalizing pattern run with
  | nil => exact h
  | cons c s ih =>
    cases pattern with
    | nil => exact List.nil_prefix
    | cons d pattern =>
      rw [List.mem_cons, not_or] at foreign
      by_cases quote : c = '"'
      · subst quote
        rw [escapeFrom, if_pos rfl] at h
        split at h
        · exact absurd (List.cons_prefix_cons.mp h).1.symm foreign.1
        · obtain ⟨rfl, later⟩ := List.cons_prefix_cons.mp h
          exact List.cons_prefix_cons.mpr ⟨rfl, ih foreign.2 later⟩
      · rw [escapeFrom_cons quote] at h
        rcases shown_cases multiline c with ⟨shape, -⟩ | ⟨piece, shape, -⟩
        · rw [shape] at h
          obtain ⟨rfl, later⟩ := List.cons_prefix_cons.mp h
          exact List.cons_prefix_cons.mpr ⟨rfl, ih foreign.2 later⟩
        · rw [shape] at h
          exact absurd (List.cons_prefix_cons.mp h).1.symm foreign.1

theorem infix_of_append_braceless {a b tail : List Char} (h : '\x7b' ∉ a)
    (inside : '\x7b' :: tail <:+: a ++ b) : '\x7b' :: tail <:+: b := by
  induction a with
  | nil => exact inside
  | cons c a ih =>
    rw [List.mem_cons, not_or] at h
    refine ih h.2 ((List.infix_cons_iff.mp inside).resolve_left fun front => ?_)
    exact h.1 (List.cons_prefix_cons.mp front).1

theorem infix_of_escapeFrom {s tail : List Char} {multiline : Bool} {limit run : Nat}
    (foreign : '\\' ∉ '\x7b' :: tail)
    (h : '\x7b' :: tail <:+: escapeFrom multiline limit run s) : '\x7b' :: tail <:+: s := by
  induction s generalizing run with
  | nil => exact h
  | cons c s ih =>
    -- What an escape adds has no brace, so the mark cannot start in it.
    by_cases quote : c = '"'
    · subst quote
      rw [escapeFrom, if_pos rfl] at h
      split at h
      · exact List.infix_cons (ih (infix_of_append_braceless (a := ['\\', '"']) (by decide) h))
      · exact List.infix_cons (ih (infix_of_append_braceless (a := ['"']) (by decide) h))
    · rw [escapeFrom_cons quote] at h
      rcases shown_cases multiline c with ⟨shape, -⟩ | ⟨piece, shape, braceless⟩
      · rw [shape] at h
        rcases List.infix_cons_iff.mp h with front | later
        · obtain ⟨rfl, behind⟩ := List.cons_prefix_cons.mp front
          have apart : '\\' ∉ tail := fun member => foreign (List.mem_cons_of_mem _ member)
          exact (List.cons_prefix_cons.mpr ⟨rfl, prefix_of_escapeFrom apart behind⟩).isInfix
        · exact List.infix_cons (ih later)
      · rw [shape] at h
        refine List.infix_cons (ih (infix_of_append_braceless (a := '\\' :: piece) ?_ h))
        exact fun member => (List.mem_cons.mp member).elim (by decide) braceless

/-- The second text is the first, as it is or with escapes, between quotes. -/
def IsInQuotes (s quoted : List Char) : Prop :=
  ∃ before body after : List Char, quoted = before ++ (body ++ after) ∧
    (body = s ∨ ∃ multiline limit, body = escapeFrom multiline limit 0 s) ∧
    (∀ c ∈ before ++ after, c ∈ ['"', '\'', '\n']) ∧
    (before.head? = some '"' ∨ before.head? = some '\'')

theorem isInQuotes_quoteChars (s : List Char) : IsInQuotes s (quoteChars s) := by
  have opened : opening s = [] ∨ opening s = ['\n'] := by
    rw [opening]
    split
    · exact .inr rfl
    · exact .inl rfl
  have line : IsInQuotes s (lineQuotes ++ escapeFrom false 0 0 s ++ lineQuotes) :=
    ⟨lineQuotes, _, lineQuotes, List.append_assoc _ _ _, .inr ⟨false, 0, rfl⟩, by simp [lineQuotes],
      .inl rfl⟩
  have block : IsInQuotes s (blockQuotes ++ opening s ++ escapeFrom true 2 0 s ++ blockQuotes) := by
    refine ⟨blockQuotes ++ opening s, _, blockQuotes, List.append_assoc _ _ _, .inr ⟨true, 2, rfl⟩, ?_,
      .inl rfl⟩
    rcases opened with none | one
    · simp [none, blockQuotes]
    · simp [one, blockQuotes]
  unfold quoteChars
  dsimp only
  split
  · exact line
  split
  · exact ⟨['\''], s, ['\''], List.append_assoc _ _ _, .inl rfl, by simp, .inr rfl⟩
  split
  · exact block
  split
  · refine ⟨blockApostrophes ++ opening s, s, blockApostrophes, List.append_assoc _ _ _, .inl rfl, ?_,
      .inr rfl⟩
    rcases opened with none | one
    · simp [none, blockApostrophes]
    · simp [one, blockApostrophes]
  split
  · exact block
  · exact line

theorem infix_of_quoteChars {s tail : List Char}
    (foreign : ∀ c ∈ ['\\', '"', '\'', '\n'], c ∉ '\x7b' :: tail)
    (h : '\x7b' :: tail <:+: quoteChars s) : '\x7b' :: tail <:+: s := by
  obtain ⟨before, body, after, shape, shows, quotes, -⟩ := isInQuotes_quoteChars s
  have apart : ∀ c ∈ before ++ after, c ∉ '\x7b' :: tail := fun c member =>
    foreign c (List.mem_cons_of_mem _ (quotes c member))
  rw [shape] at h
  have inside := Text.infix_of_surrounded (List.cons_ne_nil _ _)
    (fun c member => apart c (List.mem_append_left _ member))
    (fun c member => apart c (List.mem_append_right _ member)) h
  rcases shows with rfl | ⟨multiline, limit, rfl⟩
  · exact inside
  · exact infix_of_escapeFrom (foreign _ List.mem_cons_self) inside

end TableMigration.Document
