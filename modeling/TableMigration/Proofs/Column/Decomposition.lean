import TableMigration.Proofs.Column.Arguments
import TableMigration.Proofs.Column.Whole

/-!
# Type texts taken apart

Which type texts are cut up, and into which parts. `ofText?_decomposes` says it in terms of the
strings in a text and of the places outside them; the scans of a type text do not occur in it.
-/

namespace TableMigration

/-! ### Strings in a text -/

/-- A text whose strings are all closed, so it ends outside strings. -/
inductive WholeStrings : List Char → Prop where
  | nil : WholeStrings []
  | plain {c : Char} {rest : List Char} (quote : c ≠ '\'') (later : WholeStrings rest) :
      WholeStrings (c :: rest)
  | string {body rest : List Char} (inside : StringBody body) (later : WholeStrings rest) :
      WholeStrings ('\'' :: (body ++ '\'' :: rest))

theorem StringBody.after {body : List Char} (h : StringBody body) :
    Quoting.inside.after body = .inside := by
  induction h with
  | nil => rfl
  | plain quote backslash _ ih =>
    rw [Quoting.after_cons, Quoting.next, if_neg backslash, if_neg quote, ih]
  | doubled _ ih => exact ih
  | escaped c _ ih => exact ih

theorem WholeStrings.after {s : List Char} (h : WholeStrings s) :
    Quoting.outside.after s = .outside := by
  induction h with
  | nil => rfl
  | plain quote _ ih => rw [Quoting.after_cons, Quoting.next, if_neg quote, ih]
  | string inside _ ih =>
    rw [Quoting.after_cons, Quoting.next, if_pos rfl, Quoting.after_append, inside.after]
    exact ih

/-- A scan that ends outside strings has read the end of the string that it started in, if it
started in one, and whole strings after it. -/
theorem wholeStrings_of_after (s : List Char) :
    (Quoting.outside.after s = .outside → WholeStrings s) ∧
      (Quoting.inside.after s = .outside →
        ∃ body rest, s = body ++ '\'' :: rest ∧ StringBody body ∧ WholeStrings rest) ∧
      (Quoting.escaped.after s = .outside →
        ∃ c body rest, s = c :: (body ++ '\'' :: rest) ∧ StringBody body ∧ WholeStrings rest) := by
  -- Each state of a scan leads into the others, so the three are followed together.
  induction s with
  | nil => exact ⟨fun _ => .nil, nofun, nofun⟩
  | cons c s ih =>
    obtain ⟨outside, inside, escaped⟩ := ih
    refine ⟨fun h => ?_, fun h => ?_, fun h => ?_⟩
    · rw [Quoting.after_cons, Quoting.next] at h
      split at h
      · rename_i quote
        obtain ⟨body, rest, rfl, string, later⟩ := inside h
        exact quote ▸ .string string later
      · exact .plain ‹_› (outside h)
    · rw [Quoting.after_cons, Quoting.next] at h
      split at h
      · rename_i backslash
        obtain ⟨d, body, rest, rfl, string, later⟩ := escaped h
        exact ⟨c :: d :: body, rest, rfl, backslash ▸ .escaped d string, later⟩
      · rename_i backslash
        split at h
        · rename_i quote
          exact ⟨[], s, by rw [quote]; rfl, .nil, outside h⟩
        · rename_i quote
          obtain ⟨body, rest, rfl, string, later⟩ := inside h
          exact ⟨c :: body, rest, rfl, .plain quote backslash string, later⟩
    · obtain ⟨body, rest, rfl, string, later⟩ := inside h
      exact ⟨c, body, rest, rfl, string, later⟩

theorem wholeStrings_iff {s : List Char} :
    WholeStrings s ↔ Quoting.outside.after s = .outside :=
  ⟨WholeStrings.after, (wholeStrings_of_after s).1⟩

instance (s : List Char) : Decidable (WholeStrings s) :=
  decidable_of_iff _ wholeStrings_iff.symm

/-! ### Places outside strings -/

/-- The places in a text at which the mark stands outside strings. -/
def placesOutside (mark : Char) (s : List Char) : List Nat :=
  (List.range s.length).filter fun i => s[i]? = some mark ∧ WholeStrings (s.take i)

namespace Quoting

/-- The places of the mark outside strings for a scan that is on its way. -/
def places (mark : Char) (quoting : Quoting) (s : List Char) : List Nat :=
  (List.range s.length).filter fun i => s[i]? = some mark ∧ quoting.after (s.take i) = .outside

variable {mark : Char} {quoting : Quoting} {s : List Char}

theorem places_cons (c : Char) :
    quoting.places mark (c :: s) =
      (if quoting = .outside ∧ c = mark then [0] else []) ++
        ((quoting.next c).places mark s).map (· + 1) := by
  have later : (fun i => decide ((c :: s)[i]? = some mark ∧
      quoting.after ((c :: s).take i) = .outside)) ∘ Nat.succ =
        fun i => decide (s[i]? = some mark ∧ (quoting.next c).after (s.take i) = .outside) := by
    funext i
    rw [Function.comp_apply, List.getElem?_cons_succ, List.take_succ_cons, after_cons]
  rw [places, List.length_cons, List.range_succ_eq_map, List.filter_cons, List.filter_map, later]
  by_cases here : quoting = .outside ∧ c = mark
  · simp [here.1, here.2, places]
  · have absent : ¬(c = mark ∧ quoting = .outside) := fun both => here ⟨both.2, both.1⟩
    simp [here, absent, places]

theorem places_eq_nil_iff : quoting.places mark s = [] ↔ quoting.Hides mark s := by
  induction s generalizing quoting with
  | nil => exact iff_of_true rfl trivial
  | cons c s ih =>
    rw [places_cons, List.append_eq_nil_iff, List.map_eq_nil_iff, ih, Hides]
    simp

theorem length_places_append (t : List Char) :
    (quoting.places mark (s ++ t)).length =
      (quoting.places mark s).length + ((quoting.after s).places mark t).length := by
  induction s generalizing quoting with
  | nil => exact (Nat.zero_add _).symm
  | cons c s ih =>
    rw [List.cons_append, places_cons, places_cons, List.length_append, List.length_append,
      List.length_map, List.length_map, ih, after_cons, Nat.add_assoc]

end Quoting

theorem placesOutside_eq (mark : Char) (s : List Char) :
    placesOutside mark s = Quoting.outside.places mark s := by
  simp only [placesOutside, wholeStrings_iff, Quoting.places]

example : placesOutside ',' "'a,b',c".toList = [5] := by decide

theorem placesOutside_eq_nil_iff {mark : Char} {s : List Char} :
    placesOutside mark s = [] ↔ Quoting.outside.Hides mark s := by
  rw [placesOutside_eq, Quoting.places_eq_nil_iff]

theorem splitAtClose?_eq_none_iff {quoting : Quoting} {s : List Char} :
    splitAtClose? quoting s = none ↔ quoting.Hides ')' s := by
  induction s generalizing quoting with
  | nil => exact iff_of_true rfl trivial
  | cons c s ih =>
    rw [splitAtClose?, Quoting.Hides]
    split
    · rename_i close
      simp [close.1, close.2]
    · rename_i inner
      simp [ih, inner]

theorem closes_iff {body : List Char} :
    Quoting.outside.Closes body ↔ WholeStrings body ∧ placesOutside ')' body = [] := by
  rw [wholeStrings_iff, placesOutside_eq_nil_iff]
  exact ⟨fun closes => ⟨closes.ends, closes.hides⟩, fun h => ⟨h.1, h.2⟩⟩

/-! ### Lists between commas -/

/-- The pieces of a body between its commas outside strings. -/
structure CutAtCommas (body : List Char) (pieces : List (List Char)) : Prop where
  joined : [','].intercalate pieces = body
  starts : ∀ before piece after, pieces = before ++ piece :: after →
    WholeStrings (before.flatMap (· ++ [','])) ∧
      ∃ rest, body = before.flatMap (· ++ [',']) ++ (piece ++ rest)
  ends : ∀ piece ∈ pieces, WholeStrings piece
  uncut : ∀ piece ∈ pieces, placesOutside ',' piece = []
  count : pieces.length = (placesOutside ',' body).length + 1

theorem intercalate_comma_append (before : List (List Char)) (piece : List Char)
    (after : List (List Char)) :
    [','].intercalate (before ++ piece :: after) =
      before.flatMap (· ++ [',']) ++ [','].intercalate (piece :: after) := by
  induction before with
  | nil => rfl
  | cons first before ih =>
    obtain ⟨next, rest, shape⟩ : ∃ next rest, before ++ piece :: after = next :: rest :=
      List.exists_cons_of_ne_nil (by simp)
    rw [shape] at ih
    rw [List.cons_append, shape, List.intercalate_cons_cons, ih, List.flatMap_cons]
    simp

theorem exists_intercalate_comma (piece : List Char) (after : List (List Char)) :
    ∃ rest, [','].intercalate (piece :: after) = piece ++ rest := by
  cases after with
  | nil => exact ⟨[], by simp⟩
  | cons next after => exact ⟨_, (List.intercalate_cons_cons ..).trans (List.append_assoc ..)⟩

theorem wholeStrings_flatMap_comma {before : List (List Char)}
    (whole : ∀ piece ∈ before, WholeStrings piece) :
    WholeStrings (before.flatMap (· ++ [','])) := by
  induction before with
  | nil => exact .nil
  | cons first before ih =>
    rw [List.forall_mem_cons] at whole
    rw [List.flatMap_cons, wholeStrings_iff, Quoting.after_append, Quoting.after_append,
      whole.1.after]
    exact (ih whole.2).after

theorem splitCommas_intercalate {pieces : List (List Char)} (nonempty : pieces ≠ [])
    (ends : ∀ piece ∈ pieces, WholeStrings piece)
    (uncut : ∀ piece ∈ pieces, placesOutside ',' piece = []) :
    splitCommas .outside ([','].intercalate pieces) = pieces := by
  induction pieces with
  | nil => exact absurd rfl nonempty
  | cons piece rest ih =>
    rw [List.forall_mem_cons] at ends uncut
    have commas := placesOutside_eq_nil_iff.mp uncut.1
    cases rest with
    | nil => rw [List.intercalate_singleton, splitCommas_single commas]
    | cons next rest =>
      rw [List.intercalate_cons_cons, List.append_assoc, List.singleton_append,
        splitCommas_append_comma commas ends.1.after,
        ih (List.cons_ne_nil next rest) ends.2 uncut.2]

theorem length_placesOutside_intercalate {pieces : List (List Char)} (nonempty : pieces ≠ [])
    (ends : ∀ piece ∈ pieces, WholeStrings piece)
    (uncut : ∀ piece ∈ pieces, placesOutside ',' piece = []) :
    pieces.length = (placesOutside ',' ([','].intercalate pieces)).length + 1 := by
  induction pieces with
  | nil => exact absurd rfl nonempty
  | cons piece rest ih =>
    rw [List.forall_mem_cons] at ends uncut
    cases rest with
    | nil => rw [List.intercalate_singleton, uncut.1]; rfl
    | cons next rest =>
      have later := ih (List.cons_ne_nil next rest) ends.2 uncut.2
      have here : Quoting.outside.places ',' piece = [] := placesOutside_eq .. ▸ uncut.1
      rw [placesOutside_eq] at later
      rw [List.intercalate_cons_cons, List.append_assoc, List.singleton_append, placesOutside_eq,
        Quoting.length_places_append, here, ends.1.after, Quoting.places_cons, List.length_append,
        List.length_map, List.length_cons, later, if_pos ⟨rfl, rfl⟩]
      show _ = 0 + (1 + (Quoting.outside.places ',' _).length) + 1
      omega

/-- The scan for commas finds the pieces of a body, and they are its only ones. -/
theorem cutAtCommas_iff {body : List Char} (closes : Quoting.outside.Closes body)
    {pieces : List (List Char)} : CutAtCommas body pieces ↔ splitCommas .outside body = pieces := by
  constructor
  · intro cut
    have nonempty : pieces ≠ [] := List.ne_nil_of_length_eq_add_one cut.count
    rw [← cut.joined, splitCommas_intercalate nonempty cut.ends cut.uncut]
  · rintro rfl
    obtain ⟨first, others, cut, joined, separates, all⟩ := Quoting.exists_splitCommas closes
    rw [cut]
    have every : ∀ piece ∈ first :: others, Quoting.outside.Separates piece :=
      List.forall_mem_cons.mpr ⟨separates, all⟩
    have ends : ∀ piece ∈ first :: others, WholeStrings piece := fun piece member =>
      wholeStrings_iff.mpr (every piece member).ends
    have uncut : ∀ piece ∈ first :: others, placesOutside ',' piece = [] := fun piece member =>
      placesOutside_eq_nil_iff.mpr (every piece member).commas
    -- There is one comma less than there are pieces, so none of them is inside a piece.
    have count := length_placesOutside_intercalate (List.cons_ne_nil first others) ends uncut
    refine ⟨joined, fun before piece after shape => ?_, ends, uncut, joined ▸ count⟩
    rw [shape] at ends joined
    obtain ⟨rest, later⟩ := exists_intercalate_comma piece after
    have sooner := wholeStrings_flatMap_comma fun piece member =>
      ends piece (List.mem_append_left _ member)
    exact ⟨sooner, rest, by rw [← joined, intercalate_comma_append, later]⟩

/-! ### Arguments -/

/-- The arguments that stand in a body: none, the body as it stands, or the pieces between its
commas without the blanks around them. -/
inductive ColumnArgs.StandIn (body : List Char) : ColumnArgs → Prop where
  | none (blank : ∀ c ∈ body, Text.isBlank c = true) : StandIn body .none
  | scalar (written : ∃ c ∈ body, Text.isBlank c = false) (comma : ',' ∉ body) :
      StandIn body (.scalar (String.ofList body))
  | list (comma : ',' ∈ body) {pieces : List (List Char)} (cut : CutAtCommas body pieces)
      (blanks : ∀ piece ∈ pieces, ∃ before after, piece = before ++ (Text.trim piece ++ after) ∧
        ∀ c ∈ before ++ after, Text.isBlank c = true) :
      StandIn body (.list (pieces.map fun piece => String.ofList (Text.trim piece)))

theorem ColumnArgs.standIn_iff {body : List Char} (closes : Quoting.outside.Closes body)
    {args : ColumnArgs} : args.StandIn body ↔ args = ofBody body := by
  have trimmed : (Text.trim body).isEmpty = true ↔ ∀ c ∈ body, Text.isBlank c = true := by
    rw [List.isEmpty_iff, Text.trim_eq_nil_iff]
  constructor
  · intro stand
    rw [ofBody]
    cases stand with
    | none blank => rw [if_pos (trimmed.mpr blank)]
    | scalar written comma =>
      obtain ⟨c, member, mark⟩ := written
      have nonblank : ¬(Text.trim body).isEmpty = true := fun blank => by
        rw [trimmed.mp blank c member] at mark
        cases mark
      rw [if_neg nonblank, if_pos (by simpa using comma)]
    | list comma cut =>
      have nonblank : ¬(Text.trim body).isEmpty = true := fun blank =>
        absurd (trimmed.mp blank _ comma) (by decide)
      rw [if_neg nonblank, if_neg (by simpa using comma), (cutAtCommas_iff closes).mp cut]
  · rintro rfl
    unfold ofBody
    split
    · exact .none (trimmed.mp ‹_›)
    rename_i written
    split
    · rename_i single
      refine .scalar ?_ (by simpa using single)
      simpa [trimmed] using written
    · rename_i several
      refine .list (by simpa using several) ((cutAtCommas_iff closes).mpr rfl) fun piece _ => ?_
      obtain ⟨before, after, shape, front, back⟩ := Text.exists_trim piece
      exact ⟨before, after, shape, List.forall_mem_append.mpr ⟨front, back⟩⟩

/-! ### Whole texts -/

/-- What follows the word of a type text: a body in parentheses before a tail, or a tail alone. -/
inductive AfterWord : (body tail rest : List Char) → Prop where
  | bare {tail : List Char} (apart : ∀ c ∈ tail.head?, Text.isWordChar c = false ∧ c ≠ '(') :
      AfterWord [] tail tail
  | called {body tail : List Char} (strings : WholeStrings body)
      (close : placesOutside ')' body = []) : AfterWord body tail ('(' :: (body ++ ')' :: tail))

/-- The parts are those of a text without blanks around it. -/
def TypeParts.Decomposes (text : List Char) (parts : TypeParts) : Prop :=
  '\n' ∉ text ∧ ∃ word body tail rest,
    text = word ++ rest ∧ word ≠ [] ∧ (∀ c ∈ word, Text.isWordChar c = true) ∧
    AfterWord body tail rest ∧
    parts.base = String.ofList word ∧ parts.args.StandIn body ∧
    parts.modifiers =
      if ∀ c ∈ tail, Text.isBlank c = true then none else some (String.ofList (Text.trim tail))

theorem AfterWord.closes {body tail rest : List Char} (h : AfterWord body tail rest) :
    Quoting.outside.Closes body := by
  cases h with
  | bare => exact Quoting.closes_plain (by simp) (by simp)
  | called strings close => exact closes_iff.mpr ⟨strings, close⟩

theorem AfterWord.stops {body tail rest : List Char} (h : AfterWord body tail rest) :
    ∀ c ∈ rest.head?, Text.isWordChar c = false := by
  cases h with
  | bare apart => exact fun c first => (apart c first).1
  | called => exact parenthesis_stops _

theorem modifiersOf_eq (tail : List Char) :
    modifiersOf tail =
      if ∀ c ∈ tail, Text.isBlank c = true then none
      else some (String.ofList (Text.trim tail)) := by
  simp only [modifiersOf, List.isEmpty_iff, Text.trim_eq_nil_iff]

namespace TypeParts

variable {text : String} {parts : TypeParts}

theorem decomposes_of_ofText? (found : ofText? text = some parts) :
    parts.Decomposes (Text.trim text.toList) := by
  rw [ofText?] at found
  split at found
  · cases found
  rename_i accepted
  rw [Bool.not_eq_true, Bool.or_eq_false_iff, List.isEmpty_eq_false_iff] at accepted
  refine ⟨by simpa using accepted.2, (Text.trim text.toList).takeWhile Text.isWordChar, ?_⟩
  have letters : ∀ c ∈ (Text.trim text.toList).takeWhile Text.isWordChar,
      Text.isWordChar c = true := fun c member => List.mem_takeWhile_imp member
  have whole : Text.trim text.toList = (Text.trim text.toList).takeWhile Text.isWordChar ++
      (Text.trim text.toList).dropWhile Text.isWordChar := List.takeWhile_append_dropWhile.symm
  split at found
  · rename_i inner shape
    obtain ⟨⟨body, tail⟩, cut, rfl⟩ := Option.map_eq_some_iff.mp found
    have closes := Quoting.closes_of_splitAtClose? cut
    obtain ⟨strings, close⟩ := closes_iff.mp closes
    rw [shape, eq_of_splitAtClose? cut] at whole
    exact ⟨body, tail, _, whole, accepted.1, letters, .called strings close, rfl,
      (ColumnArgs.standIn_iff closes).mpr rfl, modifiersOf_eq tail⟩
  · rename_i bare
    rw [← Option.some.inj found]
    have apart : ∀ c ∈ ((Text.trim text.toList).dropWhile Text.isWordChar).head?,
        Text.isWordChar c = false ∧ c ≠ '(' := by
      intro c first
      obtain ⟨tail, shape⟩ := List.head?_eq_some_iff.mp first
      have stops := List.head?_dropWhile_not Text.isWordChar (Text.trim text.toList)
      rw [first] at stops
      exact ⟨by simpa using stops, fun opens => bare tail (opens ▸ shape)⟩
    exact ⟨[], _, _, whole, accepted.1, letters, .bare apart, rfl, .none (by simp),
      modifiersOf_eq _⟩

theorem ofText?_of_decomposes (h : parts.Decomposes (Text.trim text.toList)) :
    ofText? text = some parts := by
  obtain ⟨line, word, body, tail, rest, shape, nonempty, letters, after, base, args, modifiers⟩ := h
  rw [ColumnArgs.standIn_iff after.closes] at args
  rw [← modifiersOf_eq] at modifiers
  have whole : parts = ⟨String.ofList word, .ofBody body, modifiersOf tail⟩ := by
    rw [← base, ← args, ← modifiers]
  obtain ⟨taken, dropped⟩ := span_word letters after.stops
  rw [shape] at line
  have accepted : ¬(word.isEmpty || (word ++ rest).contains '\n') = true := by
    simp [nonempty, line]
  rw [ofText?, shape, taken, dropped, if_neg accepted, whole]
  cases after with
  | bare apart =>
    split
    · exact ((apart '(' rfl).2 rfl).elim
    · rfl
  | called strings close =>
    show (splitAtClose? .outside (body ++ ')' :: tail)).map _ = _
    rw [splitAtClose?_eq (closes_iff.mpr ⟨strings, close⟩)]
    rfl

theorem closed_of_decomposes (h : parts.Decomposes (Text.trim text.toList)) {first inner : List Char}
    (opened : Text.trim text.toList = first ++ '(' :: inner)
    (all : ∀ c ∈ first, Text.isWordChar c = true) : placesOutside ')' inner ≠ [] := by
  obtain ⟨line, word, body, tail, rest, shape, nonempty, letters, after, -⟩ := h
  obtain rfl : '(' :: inner = rest := by
    rw [← (span_word letters after.stops).2, ← shape, opened,
      (span_word all (parenthesis_stops inner)).2]
  cases after with
  | bare apart => exact ((apart '(' rfl).2 rfl).elim
  | called strings close =>
    rw [Ne, placesOutside_eq_nil_iff, ← splitAtClose?_eq_none_iff,
      splitAtClose?_eq (closes_iff.mpr ⟨strings, close⟩)]
    exact Option.some_ne_none _

theorem isSome_ofText?_of_closed
    (begins : ∃ c ∈ (Text.trim text.toList).head?, Text.isWordChar c = true)
    (line : '\n' ∉ Text.trim text.toList)
    (closed : ∀ word inner, Text.trim text.toList = word ++ '(' :: inner →
      (∀ c ∈ word, Text.isWordChar c = true) → placesOutside ')' inner ≠ []) :
    (ofText? text).isSome = true := by
  have nonempty : (Text.trim text.toList).takeWhile Text.isWordChar ≠ [] := by
    obtain ⟨c, first, letter⟩ := begins
    obtain ⟨tail, shape⟩ := List.head?_eq_some_iff.mp first
    rw [shape, List.takeWhile_cons_of_pos letter]
    exact List.cons_ne_nil _ _
  rw [ofText?, if_neg (by simp [nonempty, line])]
  dsimp only
  split
  · rename_i inner shape
    have whole : Text.trim text.toList =
        (Text.trim text.toList).takeWhile Text.isWordChar ++ '(' :: inner :=
      shape ▸ List.takeWhile_append_dropWhile.symm
    have close := closed _ inner whole fun c member => List.mem_takeWhile_imp member
    rw [Ne, placesOutside_eq_nil_iff, ← splitAtClose?_eq_none_iff] at close
    rw [Option.isSome_map]
    exact Option.isSome_iff_ne_none.mpr close
  · rfl

theorem isSome_ofText?_iff (text : String) :
    (ofText? text).isSome = true ↔
      (∃ c ∈ (Text.trim text.toList).head?, Text.isWordChar c = true) ∧
      '\n' ∉ Text.trim text.toList ∧
      ∀ word inner, Text.trim text.toList = word ++ '(' :: inner →
        (∀ c ∈ word, Text.isWordChar c = true) → placesOutside ')' inner ≠ [] := by
  constructor
  · intro found
    obtain ⟨parts, found⟩ := Option.isSome_iff_exists.mp found
    have decomposes := decomposes_of_ofText? found
    refine ⟨?_, decomposes.1, fun _ _ => closed_of_decomposes decomposes⟩
    obtain ⟨-, word, _, _, _, shape, nonempty, letters, -⟩ := decomposes
    obtain ⟨c, word, rfl⟩ := List.exists_cons_of_ne_nil nonempty
    exact ⟨c, by rw [shape]; rfl, letters c List.mem_cons_self⟩
  · rintro ⟨begins, line, closed⟩
    exact isSome_ofText?_of_closed begins line closed

/-- A type text is cut up if it begins with a word, stands on one line, and closes the parenthesis
after its word if there is one. Its parts are then those that it is put together from. -/
theorem ofText?_decomposes (text : String) :
    ((ofText? text).isSome = true ↔
      (∃ c ∈ (Text.trim text.toList).head?, Text.isWordChar c = true) ∧
      '\n' ∉ Text.trim text.toList ∧
      ∀ word inner, Text.trim text.toList = word ++ '(' :: inner →
        (∀ c ∈ word, Text.isWordChar c = true) → placesOutside ')' inner ≠ []) ∧
    ∀ parts, ofText? text = some parts ↔ parts.Decomposes (Text.trim text.toList) :=
  ⟨isSome_ofText?_iff text, fun _ => ⟨decomposes_of_ofText?, ofText?_of_decomposes⟩⟩

end TypeParts

end TableMigration
