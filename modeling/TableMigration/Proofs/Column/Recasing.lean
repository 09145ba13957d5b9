import TableMigration.Proofs.Column.Dispatch
import TableMigration.Proofs.Text.Recasing

/-!
# Types in another case

A type text falls into the same parts in any case, so its base type and its sign do not depend on
the case. Its method does where a keyword of an integer is concerned: keywords are looked for in
lower case only (`ofText_sameLetters`).
-/

namespace TableMigration

/-! ### Cutting up a text in another case -/

def ColumnArgs.fold : ColumnArgs → ColumnArgs
  | .none => .none
  | .scalar value => .scalar (Text.fold value)
  | .list values => .list (values.map Text.fold)

def TypeParts.fold (parts : TypeParts) : TypeParts where
  base := Text.fold parts.base
  args := parts.args.fold
  modifiers := parts.modifiers.map Text.fold

theorem Quoting.next_toLower (quoting : Quoting) (c : Char) :
    quoting.next c.toLower = quoting.next c := by
  have quote : c.toLower = '\'' ↔ c = '\'' := Text.toLower_eq_iff (by decide)
  have backslash : c.toLower = '\\' ↔ c = '\\' := Text.toLower_eq_iff (by decide)
  cases quoting with
  | outside => simp only [next, quote]
  | inside => simp only [next, quote, backslash]
  | escaped => rfl

theorem splitAtClose?_map (quoting : Quoting) (s : List Char) :
    splitAtClose? quoting (s.map Char.toLower) =
      (splitAtClose? quoting s).map (Prod.map (List.map Char.toLower) (List.map Char.toLower)) := by
  induction s generalizing quoting with
  | nil => rfl
  | cons c rest ih =>
    have close : c.toLower = ')' ↔ c = ')' := Text.toLower_eq_iff (by decide)
    simp only [List.map_cons, splitAtClose?, Quoting.next_toLower, ih, close]
    split
    · rfl
    · rw [Option.map_map, Option.map_map]
      rfl

theorem splitCommas_map (quoting : Quoting) (s : List Char) :
    splitCommas quoting (s.map Char.toLower) =
      (splitCommas quoting s).map (List.map Char.toLower) := by
  induction s generalizing quoting with
  | nil => rfl
  | cons c rest ih =>
    have comma : c.toLower = ',' ↔ c = ',' := Text.toLower_eq_iff (by decide)
    simp only [List.map_cons, splitCommas, Quoting.next_toLower, ih, comma]
    split
    · rfl
    · cases splitCommas (quoting.next c) rest <;> rfl

theorem ofBody_map (body : List Char) :
    ColumnArgs.ofBody (body.map Char.toLower) = (ColumnArgs.ofBody body).fold := by
  have comma : ',' ∈ body.map Char.toLower ↔ ',' ∈ body := by
    have mark : ∀ c : Char, c.toLower = ',' ↔ c = ',' := fun c => Text.toLower_eq_iff (by decide)
    simp [mark]
  unfold ColumnArgs.ofBody
  rw [Text.trim_map Text.isBlank_toLower, List.isEmpty_map]
  simp only [Bool.not_eq_true', ← Bool.not_eq_true, List.contains_iff_mem, comma]
  split
  · rfl
  · split
    · rw [ColumnArgs.fold, Text.fold_ofList]
    · rw [splitCommas_map, ColumnArgs.fold, List.map_map, List.map_map]
      refine congrArg ColumnArgs.list (List.map_congr_left fun piece _ => ?_)
      rw [Function.comp_apply, Function.comp_apply, Text.trim_map Text.isBlank_toLower,
        Text.fold_ofList]

theorem modifiersOf_map (rest : List Char) :
    modifiersOf (rest.map Char.toLower) = (modifiersOf rest).map Text.fold := by
  rw [modifiersOf, modifiersOf, Text.trim_map Text.isBlank_toLower, List.isEmpty_map]
  split
  · rfl
  · rw [Option.map_some, Text.fold_ofList]

/-- A type text in lower case has the parts of the text, in lower case. -/
theorem TypeParts.ofText?_fold (text : String) :
    ofText? (Text.fold text) = (ofText? text).map fold := by
  have line : '\n' ∈ (Text.trim text.toList).map Char.toLower ↔ '\n' ∈ Text.trim text.toList := by
    have mark : ∀ c : Char, c.toLower = '\n' ↔ c = '\n' := fun c => Text.toLower_eq_iff (by decide)
    simp [mark]
  have letter : Text.isWordChar ∘ Char.toLower = Text.isWordChar := funext Text.isWordChar_toLower
  unfold ofText?
  rw [Text.toList_fold, Text.trim_map Text.isBlank_toLower]
  simp only [List.takeWhile_map, List.dropWhile_map, letter, List.isEmpty_map, Bool.or_eq_true,
    List.contains_iff_mem, line]
  split
  · rfl
  generalize (Text.trim text.toList).dropWhile Text.isWordChar = rest
  cases rest with
  | nil => simp [fold, ColumnArgs.fold, Text.fold_ofList, ← modifiersOf_map]
  | cons c inner =>
    have opens : c.toLower = '(' ↔ c = '(' := Text.toLower_eq_iff (by decide)
    by_cases opened : c = '('
    · subst opened
      show (splitAtClose? .outside (inner.map Char.toLower)).map _ =
        ((splitAtClose? .outside inner).map _).map fold
      rw [splitAtClose?_map, Option.map_map, Option.map_map]
      refine congrArg (Option.map · _) (funext fun halves => ?_)
      simp [fold, Text.fold_ofList, ofBody_map, modifiersOf_map]
    · rw [List.map_cons]
      split
      · rename_i same
        exact absurd (opens.mp (List.cons.inj same).1) opened
      · split
        · rename_i same
          exact absurd (List.cons.inj same).1 opened
        · simp [fold, ColumnArgs.fold, Text.fold_ofList, ← modifiersOf_map]

/-! ### Keywords -/

/-- The notes of a column have it counted up. -/
def SaysCounting (extra : String) : Prop :=
  "auto_increment".toList <:+: extra.toList

theorem contains_counting_iff {extra : String} :
    Text.contains extra "auto_increment" = true ↔ SaysCounting extra :=
  Text.contains_iff

instance (extra : String) : Decidable (SaysCounting extra) :=
  decidable_of_iff _ contains_counting_iff

namespace TypeParts

/-- A modifier takes the sign of an integer. -/
def SaysUnsigned (parts : TypeParts) : Prop :=
  ∃ modifiers ∈ parts.modifiers, "unsigned".toList <:+: modifiers.toList

theorem contains_unsigned_iff {parts : TypeParts} :
    parts.modifiers.any (Text.contains · "unsigned") = true ↔ parts.SaysUnsigned := by
  simp only [SaysUnsigned, Option.any_eq_true, Text.contains_iff]
  rfl

instance (parts : TypeParts) : Decidable parts.SaysUnsigned :=
  decidable_of_iff _ contains_unsigned_iff

def IsInteger (parts : TypeParts) : Prop :=
  Text.lower parts.base ∈ BaseType.integerNames ∧ ¬ResolvedType.IsBoolean parts

end TypeParts

namespace ResolvedType

theorem methods_distinct {base : BaseType} {methods : BaseType.IntegerMethods}
    (found : base.integerMethods? = some methods) :
    methods.counting ≠ methods.unsigned ∧ methods.counting ≠ methods.plain ∧
      methods.unsigned ≠ methods.plain := by
  have table : ∀ entry ∈ BaseType.integerTable, entry.2.counting ≠ entry.2.unsigned ∧
      entry.2.counting ≠ entry.2.plain ∧ entry.2.unsigned ≠ entry.2.plain := by
    decide
  exact table (base, methods) (BaseType.integerMethods?_eq_some_iff.mp found)

theorem integerMethod_eq_iff {base : BaseType} {methods : BaseType.IntegerMethods}
    (found : base.integerMethods? = some methods) {parts other : TypeParts} {extra notes : String} :
    integerMethod methods parts.modifiers extra = integerMethod methods other.modifiers notes ↔
      (SaysCounting extra ↔ SaysCounting notes) ∧
        (¬SaysCounting extra → (parts.SaysUnsigned ↔ other.SaysUnsigned)) := by
  obtain ⟨first, second, third⟩ := methods_distinct found
  unfold integerMethod
  simp only [contains_counting_iff, TypeParts.contains_unsigned_iff]
  by_cases one : SaysCounting extra <;> by_cases two : SaysCounting notes <;>
    by_cases three : parts.SaysUnsigned <;> by_cases four : other.SaysUnsigned <;>
      simp [one, two, three, four, first, second, third, first.symm, second.symm, third.symm]

/-! ### Resolving a type in another case -/

theorem isBoolean_fold {parts : TypeParts} : IsBoolean parts.fold ↔ IsBoolean parts := by
  have one : ∀ c : Char, c.toLower = '1' ↔ c = '1' := fun c => Text.toLower_eq_iff (by decide)
  have width : isBooleanWidth parts.args.fold = isBooleanWidth parts.args := by
    cases parts.args with
    | scalar value =>
      rw [Bool.eq_iff_iff]
      simp only [ColumnArgs.fold, isBooleanWidth, Text.toList_fold, beq_iff_eq,
        Text.trim_map Text.isBlank_toLower, List.map_eq_singleton_iff, one]
      simp
    | _ => rfl
  rw [IsBoolean, IsBoolean, TypeParts.fold, Text.lower_fold, width]

variable {parts other : TypeParts} (same : parts.fold = other.fold)
include same

theorem lower_base_eq : Text.lower parts.base = Text.lower other.base := by
  have letters : Text.SameLetters parts.base other.base := congrArg TypeParts.base same
  exact letters.lower_eq

theorem ofName_base_eq : BaseType.ofName parts.base = BaseType.ofName other.base := by
  rw [BaseType.ofName, lower_base_eq same, BaseType.ofName]

theorem isBoolean_iff : IsBoolean parts ↔ IsBoolean other := by
  rw [← isBoolean_fold, same, isBoolean_fold]

theorem unsigned_ofParts_eq (extra notes : String) :
    (ofParts parts extra).unsigned = (ofParts other notes).unsigned := by
  by_cases boolean : IsBoolean parts
  · rw [ofParts_boolean boolean, ofParts_boolean ((isBoolean_iff same).mp boolean)]
  · rw [unsigned_ofParts boolean, unsigned_ofParts (mt (isBoolean_iff same).mpr boolean)]

theorem method_ofParts_eq_iff (extra notes : String) :
    (ofParts parts extra).method = (ofParts other notes).method ↔
      (parts.IsInteger → (SaysCounting extra ↔ SaysCounting notes) ∧
        (¬SaysCounting extra → (parts.SaysUnsigned ↔ other.SaysUnsigned))) := by
  have name := ofName_base_eq same
  by_cases boolean : IsBoolean parts
  · rw [ofParts_boolean boolean, ofParts_boolean ((isBoolean_iff same).mp boolean)]
    exact iff_of_true rfl fun integer => absurd boolean integer.2
  have wide : ¬IsBoolean other := mt (isBoolean_iff same).mpr boolean
  rcases BaseType.kinds parts.base with ⟨methods, integer⟩ | ⟨method, noInteger, fixed⟩ | unsupported
  · have listed : parts.IsInteger :=
      ⟨BaseType.isSome_integerMethods?_iff.mp (by rw [integer]; rfl), boolean⟩
    rw [ofParts_integer boolean integer, ofParts_integer wide (name ▸ integer)]
    simp only [listed, true_imp_iff, integerMethod_eq_iff integer]
  · rw [ofParts_fixed noInteger fixed, ofParts_fixed (name ▸ noInteger) (name ▸ fixed)]
    refine iff_of_true rfl ?_
    intro integer
    have some := BaseType.isSome_integerMethods?_iff.mpr integer.1
    rw [noInteger] at some
    cases some
  · have base := lower_base_eq same
    rw [ofParts_unsupported unsupported, ofParts_unsupported (base ▸ unsupported), base]
    refine iff_of_true rfl ?_
    intro integer
    exact absurd (BaseType.mem_supported_of_integer _ integer.1) unsupported

omit same

/-- Types that differ in the case of letters have the same base type and the same sign, whatever
their notes. They have the same method unless they are integers of which one has a keyword in lower
case that decides about it, and the other does not. -/
theorem ofText_sameLetters {text other : String} (types : Text.SameLetters text other)
    (extra notes : String) :
    (ofText text extra).base = (ofText other notes).base ∧
      (ofText text extra).unsigned = (ofText other notes).unsigned ∧
      ((ofText text extra).method = (ofText other notes).method ↔
        ∀ parts ∈ TypeParts.ofText? text, ∀ parts' ∈ TypeParts.ofText? other, parts.IsInteger →
          (SaysCounting extra ↔ SaysCounting notes) ∧
            (¬SaysCounting extra → (parts.SaysUnsigned ↔ parts'.SaysUnsigned))) := by
  have cut : (TypeParts.ofText? text).map TypeParts.fold =
      (TypeParts.ofText? other).map TypeParts.fold := by
    rw [← TypeParts.ofText?_fold, ← TypeParts.ofText?_fold, types]
  unfold ofText
  cases first : TypeParts.ofText? text with
  | none =>
    rw [first, Option.map_none, eq_comm, Option.map_eq_none_iff] at cut
    simp [cut, types.trimmed.lower_eq]
  | some parts =>
    rw [first, Option.map_some, eq_comm, Option.map_eq_some_iff] at cut
    obtain ⟨parts', second, same⟩ := cut
    rw [second]
    dsimp only
    rw [base_ofParts, base_ofParts, ofName_base_eq same.symm]
    refine ⟨rfl, unsigned_ofParts_eq same.symm extra notes, ?_⟩
    rw [method_ofParts_eq_iff same.symm]
    simp

theorem ofText_sameLetters_bigint :
    Text.SameLetters "BigInt(20) unsigned ZEROFILL" "bigint(20) unsigned zerofill" ∧
      (ofText "BigInt(20) unsigned ZEROFILL" "ON UPDATE").method =
        (ofText "bigint(20) unsigned zerofill" "on update").method := by
  have types : Text.SameLetters "BigInt(20) unsigned ZEROFILL" "bigint(20) unsigned zerofill" := by
    decide
  have upper : TypeParts.ofText? "BigInt(20) unsigned ZEROFILL" =
      some ⟨"BigInt", .scalar "20", some "unsigned ZEROFILL"⟩ := by decide +kernel
  have lower : TypeParts.ofText? "bigint(20) unsigned zerofill" =
      some ⟨"bigint", .scalar "20", some "unsigned zerofill"⟩ := by decide +kernel
  refine ⟨types, (ofText_sameLetters types "ON UPDATE" "on update").2.2.mpr ?_⟩
  intro parts found parts' found' _
  obtain rfl := Option.some.inj (upper.symm.trans found)
  obtain rfl := Option.some.inj (lower.symm.trans found')
  decide +kernel

/-- The keyword `unsigned` is not found in upper case, although the type is. -/
theorem method_upperCase_ne :
    Text.SameLetters "INT(10) UNSIGNED" "int(10) unsigned" ∧ Text.SameLetters "" "" ∧
      (ofText "INT(10) UNSIGNED" "").method = "integer" ∧
      (ofText "int(10) unsigned" "").method = "unsignedInteger" := by
  decide +kernel

end ResolvedType

end TableMigration
