import TableMigration.Proofs.Column.Counting
import TableMigration.Proofs.Column.Decomposition

/-!
# What decides the method of a type

Of the arguments of a type only a width of one counts, which makes a `tinyint` a boolean. So two
types that differ between their parentheses are declared alike but for that
(`ofText_calledType`).
-/

namespace TableMigration

/-- What can stand between the parentheses of a type: one line of whole strings, in which no
parenthesis outside strings closes. -/
structure ArgumentBody (body : List Char) : Prop where
  line : '\n' ∉ body
  strings : WholeStrings body
  close : placesOutside ')' body = []

def calledType (word body tail : List Char) : String :=
  String.ofList (word ++ '(' :: (body ++ ')' :: tail))

theorem ofText?_calledType {word body tail : List Char} (nonempty : word ≠ [])
    (letters : ∀ c ∈ word, Text.isWordChar c = true) (h : ArgumentBody body) (line : '\n' ∉ tail) :
    TypeParts.ofText? (calledType word body tail) =
      some ⟨String.ofList word, .ofBody body, modifiersOf tail⟩ :=
  TypeParts.ofText?_closed nonempty letters h.line line (closes_iff.mpr ⟨h.strings, h.close⟩)

/-! ### Base types -/

namespace BaseType

theorem ofName_unsupported {name : String} (h : Text.lower name ∉ supported.map (·.1)) :
    ofName name = .unknown (Text.lower name) := by
  have absent : supported.lookup (Text.lower name) = none := by
    rw [List.lookup_eq_none_iff]
    intro entry member
    rw [bne_iff_ne]
    intro same
    exact h (same ▸ List.mem_map_of_mem member)
  rw [ofName, absent]
  rfl

theorem supported_injective :
    ∀ entry ∈ supported, ∀ other ∈ supported, entry.2 = other.2 ↔ entry.1 = other.1 := by
  decide

theorem ofName_eq_iff {name : String} {entry : String × BaseType} (member : entry ∈ supported) :
    ofName name = entry.2 ↔ Text.lower name = entry.1 := by
  by_cases known : Text.lower name ∈ supported.map (·.1)
  · obtain ⟨other, listed, named⟩ := List.mem_map.mp known
    rw [ofName_supported listed named, ← named]
    exact supported_injective other listed entry member
  · rw [ofName_unsupported known]
    refine iff_of_false ?_ ?_
    · intro same
      have integer : entry.2.integerMethods? = none := by rw [← same]; rfl
      exact fixed_supported entry member integer (by rw [← same]; rfl)
    · intro named
      exact known (named ▸ List.mem_map_of_mem member)

theorem ofName_eq_tinyInt_iff {name : String} :
    ofName name = .tinyInt ↔ Text.lower name = "tinyint" :=
  ofName_eq_iff (show ("tinyint", .tinyInt) ∈ supported by decide)

theorem ofName_eq_date_iff {name : String} : ofName name = .date ↔ Text.lower name = "date" :=
  ofName_eq_iff (show ("date", .date) ∈ supported by decide)

theorem mem_supported_of_integer : ∀ name ∈ integerNames, name ∈ supported.map (·.1) := by
  decide

theorem isSome_integerMethods?_iff {name : String} :
    (ofName name).integerMethods?.isSome = true ↔ Text.lower name ∈ integerNames := by
  by_cases known : Text.lower name ∈ supported.map (·.1)
  · obtain ⟨entry, member, named⟩ := List.mem_map.mp known
    rw [ofName_supported member named, ← named]
    exact integer_supported entry member
  · rw [ofName_unsupported known]
    exact iff_of_false nofun (mt (mem_supported_of_integer _) known)

theorem ne_nil_of_supported {word : List Char}
    (known : Text.lower (String.ofList word) ∈ supported.map (·.1)) : word ≠ [] := by
  rintro rfl
  exact absurd known (by decide)

/-- The names of the types that take no arguments along. -/
def bareNames : List String :=
  "date" :: integerNames

/-- A type is one for integers, has one other method, or is not supported. -/
theorem kinds (name : String) :
    (∃ methods, (ofName name).integerMethods? = some methods) ∨
      (∃ method, (ofName name).integerMethods? = none ∧ (ofName name).fixedMethod? = some method) ∨
      Text.lower name ∉ supported.map (·.1) := by
  by_cases supported : Text.lower name ∈ supported.map (·.1)
  · obtain ⟨entry, member, named⟩ := List.mem_map.mp supported
    rw [ofName_supported member named]
    cases integer : entry.2.integerMethods? with
    | some methods => exact .inl ⟨methods, rfl⟩
    | none =>
      obtain ⟨method, fixed⟩ :=
        Option.ne_none_iff_exists'.mp (fixed_supported entry member integer)
      exact .inr (.inl ⟨method, rfl, fixed⟩)
  · exact .inr (.inr supported)

end BaseType

/-! ### Resolving by kind -/

namespace ResolvedType

/-- The width makes the type a boolean. -/
def IsBoolean (parts : TypeParts) : Prop :=
  Text.lower parts.base = "tinyint" ∧ isBooleanWidth parts.args = true

theorem isBooleanWidth_ofBody {body : List Char} :
    isBooleanWidth (.ofBody body) = true ↔ Text.trim body = ['1'] := by
  rw [ColumnArgs.ofBody]
  split
  · rename_i blank
    rw [List.isEmpty_iff] at blank
    simp [isBooleanWidth, blank]
  · split
    · simp [isBooleanWidth]
    · rename_i several
      have comma : ',' ∈ body := by simpa using several
      refine iff_of_false (by simp [isBooleanWidth]) ?_
      intro one
      rw [← Text.mem_trim_iff (by decide), one] at comma
      exact absurd comma (by decide)

variable {parts : TypeParts}

theorem ofParts_boolean (h : IsBoolean parts) (extra : String) :
    ofParts parts extra = ⟨.tinyInt, "boolean", .none, some false⟩ := by
  have tiny := BaseType.ofName_eq_tinyInt_iff.mpr h.1
  unfold ofParts
  dsimp only
  rw [if_pos ⟨tiny, h.2⟩, tiny]

theorem ofParts_integer (wide : ¬IsBoolean parts) {methods : BaseType.IntegerMethods}
    (integer : (BaseType.ofName parts.base).integerMethods? = some methods) (extra : String) :
    ofParts parts extra =
      ⟨.ofName parts.base, integerMethod methods parts.modifiers extra, .none, none⟩ := by
  have width : ¬(BaseType.ofName parts.base = .tinyInt ∧ isBooleanWidth parts.args = true) := by
    rw [BaseType.ofName_eq_tinyInt_iff]
    exact wide
  unfold ofParts
  dsimp only
  rw [if_neg width, integer]

theorem ofParts_fixed {method : String}
    (noInteger : (BaseType.ofName parts.base).integerMethods? = none)
    (fixed : (BaseType.ofName parts.base).fixedMethod? = some method) (extra : String) :
    ofParts parts extra =
      ⟨.ofName parts.base, method,
        if BaseType.ofName parts.base = .date then .none else parts.args, none⟩ := by
  have width : ¬(BaseType.ofName parts.base = .tinyInt ∧ isBooleanWidth parts.args = true) := by
    rintro ⟨tiny, -⟩
    rw [tiny] at fixed
    cases fixed
  unfold ofParts
  dsimp only
  rw [if_neg width, noInteger, fixed]

theorem ofParts_unsupported (h : Text.lower parts.base ∉ BaseType.supported.map (·.1))
    (extra : String) : ofParts parts extra = ofUnknown (Text.lower parts.base) := by
  unfold ofParts
  simp only [BaseType.ofName_unsupported h, BaseType.integerMethods?,
    BaseType.integerMethod?, Option.map_none, BaseType.fixedMethod?]
  rw [if_neg (by simp)]

theorem base_ofParts (parts : TypeParts) (extra : String) :
    (ofParts parts extra).base = BaseType.ofName parts.base := by
  by_cases boolean : IsBoolean parts
  · rw [ofParts_boolean boolean, BaseType.ofName_eq_tinyInt_iff.mpr boolean.1]
  rcases BaseType.kinds parts.base with ⟨methods, integer⟩ | ⟨method, noInteger, fixed⟩ | unsupported
  · rw [ofParts_integer boolean integer]
  · rw [ofParts_fixed noInteger fixed]
  · rw [ofParts_unsupported unsupported, BaseType.ofName_unsupported unsupported]
    rfl

theorem unsigned_ofParts (wide : ¬IsBoolean parts) (extra : String) :
    (ofParts parts extra).unsigned = none := by
  rcases BaseType.kinds parts.base with ⟨methods, integer⟩ | ⟨method, noInteger, fixed⟩ | unsupported
  · rw [ofParts_integer wide integer]
  · rw [ofParts_fixed noInteger fixed]
  · rw [ofParts_unsupported unsupported]
    rfl

theorem args_ofParts (supported : Text.lower parts.base ∈ BaseType.supported.map (·.1))
    (extra : String) :
    (ofParts parts extra).args =
      if Text.lower parts.base ∈ BaseType.bareNames then .none else parts.args := by
  by_cases boolean : IsBoolean parts
  · have bare : Text.lower parts.base ∈ BaseType.bareNames := by
      rw [boolean.1]
      decide
    rw [ofParts_boolean boolean, if_pos bare]
  -- Integers and dates take no arguments along, all other supported types do.
  rcases BaseType.kinds parts.base with ⟨methods, integer⟩ | ⟨method, noInteger, fixed⟩ | unknown
  · have listed := BaseType.isSome_integerMethods?_iff.mp (Option.isSome_of_eq_some integer)
    have bare : Text.lower parts.base ∈ BaseType.bareNames := List.mem_cons_of_mem _ listed
    rw [ofParts_integer boolean integer, if_pos bare]
  · have unlisted : Text.lower parts.base ∉ BaseType.integerNames := by
      rw [← BaseType.isSome_integerMethods?_iff, noInteger]
      exact Bool.false_ne_true
    rw [ofParts_fixed noInteger fixed]
    simp only [BaseType.bareNames, List.mem_cons, unlisted, or_false, BaseType.ofName_eq_date_iff]
  · exact absurd supported unknown

/-- But for booleans, the arguments of a type do not count for its method. -/
theorem method_ofParts_congr {other : TypeParts} (base : other.base = parts.base)
    (modifiers : other.modifiers = parts.modifiers) (wide : ¬IsBoolean parts)
    (wide' : ¬IsBoolean other) (extra : String) :
    (ofParts parts extra).method = (ofParts other extra).method := by
  rcases BaseType.kinds parts.base with ⟨methods, integer⟩ | ⟨method, noInteger, fixed⟩ | unsupported
  · rw [ofParts_integer wide integer, ofParts_integer wide' (base ▸ integer), modifiers]
  · rw [ofParts_fixed noInteger fixed, ofParts_fixed (base ▸ noInteger) (base ▸ fixed)]
  · rw [ofParts_unsupported unsupported, ofParts_unsupported (base ▸ unsupported), base]

theorem method_ne_boolean (wide : ¬IsBoolean parts) (tiny : Text.lower parts.base = "tinyint")
    (extra : String) : (ofParts parts extra).method ≠ "boolean" := by
  have integer : (BaseType.ofName parts.base).integerMethods? =
      some ⟨"tinyInteger", "unsignedTinyInteger", "tinyIncrements"⟩ := by
    rw [BaseType.ofName_eq_tinyInt_iff.mpr tiny, BaseType.integerMethods?_eq_some_iff]
    decide
  rw [ofParts_integer wide integer]
  intro same
  have listed := integerMethod_mem ⟨"tinyInteger", "unsignedTinyInteger", "tinyIncrements"⟩
    parts.modifiers extra
  rw [show integerMethod _ _ _ = "boolean" from same] at listed
  exact absurd listed (by decide)

/-- Two types that differ in their arguments are declared alike when both are booleans or neither
is. -/
theorem ofParts_alike_iff (parts other : TypeParts) (base : other.base = parts.base)
    (modifiers : other.modifiers = parts.modifiers) (extra : String) :
    ((ofParts parts extra).method = (ofParts other extra).method ↔
        (IsBoolean parts ↔ IsBoolean other)) ∧
      ((ofParts parts extra).unsigned = (ofParts other extra).unsigned ↔
        (IsBoolean parts ↔ IsBoolean other)) := by
  by_cases one : IsBoolean parts <;> by_cases two : IsBoolean other
  · simp [one, two, ofParts_boolean]
  · have apart := method_ne_boolean two (base ▸ one.1) extra
    simp [one, two, ofParts_boolean one, unsigned_ofParts two, apart.symm]
  · have apart := method_ne_boolean one (base ▸ two.1) extra
    simp [one, two, ofParts_boolean two, unsigned_ofParts one, apart]
  · have same := method_ofParts_congr base modifiers one two extra
    simp [one, two, same, unsigned_ofParts]

/-- Types that differ between their parentheses have the same base type, and they have the same
method and the same sign unless one of them alone is a `tinyint` with a width of one. Such a type is
a boolean whatever else it says. -/
theorem ofText_calledType (word tail : List Char) (nonempty : word ≠ [])
    (letters : ∀ c ∈ word, Text.isWordChar c = true) (line : '\n' ∉ tail) (extra : String) :
    (∀ body other, ArgumentBody body → ArgumentBody other →
      let first := ofText (calledType word body tail) extra
      let second := ofText (calledType word other tail) extra
      let apart := Text.lower (String.ofList word) = "tinyint" ∧
        Xor (Text.trim body = ['1']) (Text.trim other = ['1'])
      first.base = second.base ∧ (first.method = second.method ↔ ¬apart) ∧
        (first.unsigned = second.unsigned ↔ ¬apart)) ∧
    ∀ body, ArgumentBody body → Text.lower (String.ofList word) = "tinyint" →
      Text.trim body = ['1'] →
        ofText (calledType word body tail) extra = ⟨.tinyInt, "boolean", .none, some false⟩ := by
  have resolved : ∀ body, ArgumentBody body → ofText (calledType word body tail) extra =
      ofParts ⟨String.ofList word, .ofBody body, modifiersOf tail⟩ extra := by
    intro body argument
    rw [ofText, ofText?_calledType nonempty letters argument line]
  have boolean : ∀ body, IsBoolean ⟨String.ofList word, .ofBody body, modifiersOf tail⟩ ↔
      Text.lower (String.ofList word) = "tinyint" ∧ Text.trim body = ['1'] := by
    intro body
    rw [IsBoolean, isBooleanWidth_ofBody]
  constructor
  · intro body other argument argument'
    have alike := ofParts_alike_iff ⟨String.ofList word, .ofBody body, modifiersOf tail⟩
      ⟨String.ofList word, .ofBody other, modifiersOf tail⟩ rfl rfl extra
    have together : ¬(Text.lower (String.ofList word) = "tinyint" ∧
          Xor (Text.trim body = ['1']) (Text.trim other = ['1'])) ↔
        (IsBoolean ⟨String.ofList word, .ofBody body, modifiersOf tail⟩ ↔
          IsBoolean ⟨String.ofList word, .ofBody other, modifiersOf tail⟩) := by
      rw [boolean, boolean, and_congr_right_iff, xor_iff_not_iff, not_and, not_not]
    dsimp only
    rw [resolved body argument, resolved other argument', together, base_ofParts, base_ofParts]
    exact ⟨rfl, alike⟩
  · intro body argument tiny one
    rw [resolved body argument, ofParts_boolean ((boolean body).mpr ⟨tiny, one⟩)]

theorem ofText_calledType_tinyint :
    let first := ofText "TinyInt('a)', 'unsigned' 5) zerofill" "auto_increment"
    let second := ofText "TinyInt( 1 ) zerofill" "auto_increment"
    first.base = second.base ∧ first.method ≠ second.method ∧
      second = ⟨.tinyInt, "boolean", .none, some false⟩ := by
  have letters : ∀ c ∈ "TinyInt".toList, Text.isWordChar c = true :=
    Text.isWordChar_of_letters (by decide)
  have long : ArgumentBody "'a)', 'unsigned' 5".toList :=
    ⟨by decide, by decide +kernel, by decide +kernel⟩
  have one : ArgumentBody " 1 ".toList := ⟨by decide, by decide, by decide⟩
  have tiny : Text.lower (String.ofList "TinyInt".toList) = "tinyint" := by decide
  obtain ⟨alike, boolean⟩ := ofText_calledType "TinyInt".toList " zerofill".toList (by decide)
    letters (by decide) "auto_increment"
  obtain ⟨base, method, -⟩ := alike _ _ long one
  refine ⟨base, ?_, boolean _ one tiny (by decide)⟩
  intro same
  exact method.mp same ⟨tiny, .inr (by decide)⟩

end ResolvedType

end TableMigration
