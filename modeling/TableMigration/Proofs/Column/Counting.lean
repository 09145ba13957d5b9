import TableMigration.Proofs.Column.Conventions
import TableMigration.Proofs.Text.Replace

/-!
# Columns that count up

Which columns a counting method declares. `isCounting_ofParts` says it in terms of the type and the
notes of a row, and `mem_countingFields_listOfRows` that no convention adds or drops such a column.
-/

namespace TableMigration

/-- The methods that count up and make their column the primary key. -/
def Column.isCounting (method : String) : Bool :=
  Text.contains (Text.lower method) "increments"

def BaseType.integerNames : List String :=
  ["int", "bigint", "mediumint", "smallint", "tinyint"]

/-- An integer type whose column the server counts up, unless it is a boolean. -/
def TypeParts.CountsUp (parts : TypeParts) (extra : String) : Prop :=
  Text.lower parts.base ∈ BaseType.integerNames ∧ "auto_increment".toList <:+: extra.toList ∧
    ¬(Text.lower parts.base = "tinyint" ∧
      ∃ width, parts.args = .scalar width ∧ Text.trim width.toList = ['1'])

/-! ### Types -/

namespace BaseType

theorem lookup_supported : ∀ entry ∈ supported, supported.lookup entry.1 = some entry.2 := by
  decide

theorem ofName_supported {name : String} {entry : String × BaseType} (member : entry ∈ supported)
    (named : entry.1 = Text.lower name) : ofName name = entry.2 := by
  rw [ofName, ← named, lookup_supported entry member]
  rfl

theorem tinyInt_supported : ∀ entry ∈ supported, entry.2 = .tinyInt ↔ entry.1 = "tinyint" := by
  decide

theorem integer_supported :
    ∀ entry ∈ supported, entry.2.integerMethods?.isSome = true ↔ entry.1 ∈ integerNames := by
  decide

theorem fixed_supported :
    ∀ entry ∈ supported, entry.2.integerMethods? = none → entry.2.fixedMethod? ≠ none := by
  decide

/-- The integer types with their methods, spelled out. -/
def integerTable : List (BaseType × IntegerMethods) := [
  (.int, ⟨"integer", "unsignedInteger", "increments"⟩),
  (.bigInt, ⟨"bigInteger", "unsignedBigInteger", "bigIncrements"⟩),
  (.mediumInt, ⟨"mediumInteger", "unsignedMediumInteger", "mediumIncrements"⟩),
  (.smallInt, ⟨"smallInteger", "unsignedSmallInteger", "smallIncrements"⟩),
  (.tinyInt, ⟨"tinyInteger", "unsignedTinyInteger", "tinyIncrements"⟩)]

theorem integerMethods?_eq_some_iff {base : BaseType} {methods : IntegerMethods} :
    base.integerMethods? = some methods ↔ (base, methods) ∈ integerTable := by
  have table : ∀ entry ∈ integerTable, entry.1.integerMethods? = some entry.2 := by
    decide +kernel
  refine ⟨fun h => ?_, table (base, methods)⟩
  cases base <;> cases h <;> decide +kernel

theorem isCounting_integer {base : BaseType} {methods : IntegerMethods}
    (h : base.integerMethods? = some methods) :
    Column.isCounting methods.counting = true ∧ Column.isCounting methods.unsigned = false ∧
      Column.isCounting methods.plain = false := by
  have table : ∀ entry ∈ integerTable, Column.isCounting entry.2.counting = true ∧
      Column.isCounting entry.2.unsigned = false ∧ Column.isCounting entry.2.plain = false := by
    decide +kernel
  exact table (base, methods) (integerMethods?_eq_some_iff.mp h)

theorem isCounting_fixed {base : BaseType} {method : String} (h : base.fixedMethod? = some method) :
    Column.isCounting method = false := by
  cases base <;> cases h <;> decide

end BaseType

namespace ResolvedType

theorem isBooleanWidth_iff {args : ColumnArgs} :
    isBooleanWidth args = true ↔
      ∃ width, args = .scalar width ∧ Text.trim width.toList = ['1'] := by
  cases args <;> simp [isBooleanWidth]

instance (parts : TypeParts) (extra : String) : Decidable (parts.CountsUp extra) :=
  decidable_of_iff (Text.lower parts.base ∈ BaseType.integerNames ∧
      "auto_increment".toList <:+: extra.toList ∧
      ¬(Text.lower parts.base = "tinyint" ∧ isBooleanWidth parts.args = true)) <| by
    rw [isBooleanWidth_iff]
    exact Iff.rfl

theorem integerMethod_mem (methods : BaseType.IntegerMethods) (modifiers : Option String)
    (extra : String) :
    integerMethod methods modifiers extra ∈ [methods.counting, methods.unsigned, methods.plain] := by
  unfold integerMethod
  split
  · simp
  · split <;> simp

theorem isCounting_integerMethod {base : BaseType} {methods : BaseType.IntegerMethods}
    (h : base.integerMethods? = some methods) (modifiers : Option String) (extra : String) :
    Column.isCounting (integerMethod methods modifiers extra) = true ↔
      "auto_increment".toList <:+: extra.toList := by
  obtain ⟨counting, unsigned, plain⟩ := BaseType.isCounting_integer h
  rw [integerMethod, ← Text.contains_iff]
  split
  · rename_i counted
    exact iff_of_true counting counted
  · rename_i uncounted
    refine iff_of_false ?_ uncounted
    split
    · simp [unsigned]
    · simp [plain]

/-- A supported type gets a counting method exactly when it is an integer that counts up. -/
theorem isCounting_ofParts {parts : TypeParts} (extra : String)
    (supported : Text.lower parts.base ∈ BaseType.supported.map (·.1)) :
    Column.isCounting (ofParts parts extra).method = true ↔ parts.CountsUp extra := by
  obtain ⟨⟨name, base⟩, member, named⟩ := List.mem_map.mp supported
  have found : BaseType.ofName parts.base = base := BaseType.ofName_supported member named
  have tiny : base = .tinyInt ↔ name = "tinyint" := BaseType.tinyInt_supported _ member
  have integer : base.integerMethods?.isSome = true ↔ name ∈ BaseType.integerNames :=
    BaseType.integer_supported _ member
  rw [TypeParts.CountsUp, ← named, ← isBooleanWidth_iff]
  unfold ofParts
  simp only [found]
  -- Booleans go first, whatever the notes of the row say.
  by_cases boolean : base = .tinyInt ∧ isBooleanWidth parts.args = true
  · rw [if_pos boolean]
    have uncounted : ¬Column.isCounting "boolean" = true := by decide
    exact iff_of_false uncounted fun h => h.2.2 ⟨tiny.mp boolean.1, boolean.2⟩
  rw [if_neg boolean]
  have wide : ¬(name = "tinyint" ∧ isBooleanWidth parts.args = true) := fun h =>
    boolean ⟨tiny.mpr h.1, h.2⟩
  cases kind : base.integerMethods? with
  | some methods =>
    have listed : name ∈ BaseType.integerNames := integer.mp (by rw [kind]; rfl)
    rw [isCounting_integerMethod kind]
    exact ⟨fun counted => ⟨listed, counted, wide⟩, fun h => h.2.1⟩
  | none =>
    have unlisted : name ∉ BaseType.integerNames := fun listed => by
      simpa [kind] using integer.mpr listed
    obtain ⟨method, fixed⟩ := Option.ne_none_iff_exists'.mp (BaseType.fixed_supported _ member kind)
    simp only [fixed]
    exact iff_of_false (by simp [BaseType.isCounting_fixed fixed]) fun h => unlisted h.1

end ResolvedType

/-! ### Conventions -/

namespace Column

/-- The fields whose method counts up. -/
def countingFields (columns : List Column) : List String :=
  (columns.filter (isCounting ·.method)).map (·.field)

theorem mem_countingFields {columns : List Column} {field : String} :
    field ∈ countingFields columns ↔
      ∃ column ∈ columns, column.field = field ∧ isCounting column.method = true := by
  simp only [countingFields, List.mem_map, List.mem_filter]
  constructor
  · rintro ⟨column, ⟨member, counting⟩, here⟩
    exact ⟨column, member, here, counting⟩
  · rintro ⟨column, member, here, counting⟩
    exact ⟨column, ⟨member, counting⟩, here⟩

theorem countingFields_updateFirst {field : String} {change : Column → Column}
    {columns : List Column} (named : ∀ column, (change column).field = column.field)
    (keeps : ∀ column ∈ columns, column.field = field →
      isCounting (change column).method = isCounting column.method) :
    countingFields (Keyed.updateFirst Column.field field change columns) =
      countingFields columns := by
  have observed : ∀ columns, countingFields columns =
      ((columns.map fun column => (column.field, isCounting column.method)).filter (·.2)).map
        (·.1) := fun columns => by
    rw [countingFields, List.filter_map, List.map_map]
    rfl
  rw [observed, observed, Keyed.map_updateFirst fun column member here => by
    rw [named, keeps column member here]]

theorem countingFields_foldSoftDeletes (columns : List Column) :
    countingFields (foldSoftDeletes columns) = countingFields columns := by
  refine countingFields_updateFirst (fun _ => field_foldInto_if) fun column _ _ => ?_
  split
  · rename_i timestamp
    rw [timestamp]
    exact (by decide : isCounting "softDeletes" = isCounting "timestamp")
  · rfl

theorem countingFields_foldRememberToken (columns : List Column) :
    countingFields (foldRememberToken columns) = countingFields columns := by
  refine countingFields_updateFirst (fun _ => field_foldInto_if) fun column _ _ => ?_
  split
  · rename_i token
    have string : column.method = "string" := by
      simp only [isTokenColumn, Bool.and_eq_true, beq_iff_eq] at token
      exact token.1.1
    rw [string]
    exact (by decide : isCounting "rememberToken" = isCounting "string")
  · rfl

theorem method_of_hasMethod {columns : List Column} (distinct : (columns.map (·.field)).Nodup)
    {field method : String} (h : hasMethod columns field method = true) {column : Column}
    (member : column ∈ columns) (here : column.field = field) : column.method = method := by
  obtain ⟨other, inside, same⟩ := List.any_eq_true.mp h
  obtain ⟨there, declared⟩ : other.field = field ∧ other.method = method := by simpa using same
  rw [List.inj_on_of_nodup_map distinct member inside (here.trans there.symm), declared]

theorem countingFields_foldTimestamps {columns : List Column}
    (distinct : (columns.map (·.field)).Nodup) :
    countingFields (foldTimestamps columns) = countingFields columns := by
  rw [foldTimestamps]
  split
  · rename_i both
    rw [Bool.and_eq_true] at both
    have stamp : isCounting "timestamp" = false := by decide
    rw [countingFields_updateFirst (fun column => foldInto_field _ column)]
    · rw [countingFields, List.filter_filter]
      refine congrArg _ (List.filter_congr fun column member => ?_)
      by_cases second : column.field = "updated_at"
      · rw [method_of_hasMethod distinct both.2 member second, stamp, Bool.false_and]
      · simp [second]
    · intro column kept here
      rw [method_of_hasMethod distinct both.1 (List.mem_filter.mp kept).1 here, stamp]
      have folded : ∀ method ∈ ["nullableTimestamps", "timestamps"], isCounting method = false := by
        decide
      apply folded
      split <;> simp [foldInto]
  · rfl

/-- A field counts up exactly when its last row does, whatever conventions apply. -/
theorem mem_countingFields_listOfRows {rows : List Dump.ColumnRow} {field : String} :
    field ∈ countingFields (listOfRows rows) ↔
      ∃ row ∈ Keyed.last? (·.field) field rows,
        isCounting (ResolvedType.ofText row.type row.extra).method = true := by
  have distinct : ((foldSoftDeletes (Keyed.ofList Column.field (rows.map ofRow))).map
      (·.field)).Nodup := by
    rw [foldSoftDeletes_field, Keyed.map_key_ofList]
    exact Keyed.nodup_eraseDups _
  have last := Keyed.last?_map Column.field ofRow field rows
  -- No convention changes which fields count up.
  rw [listOfRows, foldConventions, countingFields_foldRememberToken,
    countingFields_foldTimestamps distinct, countingFields_foldSoftDeletes, mem_countingFields]
  constructor
  · rintro ⟨column, member, rfl, counting⟩
    rw [Keyed.mem_ofList, last] at member
    obtain ⟨row, found, rfl⟩ := Option.map_eq_some_iff.mp member
    exact ⟨row, found, counting⟩
  · rintro ⟨row, found, counting⟩
    have here : row.field = field := (Keyed.last?_eq_some _ found).2
    refine ⟨ofRow row, (Keyed.mem_ofList _).mpr ?_, here, counting⟩
    rw [show (ofRow row).field = field from here, last]
    exact congrArg (Option.map ofRow) found

end Column

end TableMigration
