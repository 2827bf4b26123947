import BoundSql.Postgres.Bind
import BoundSql.Postgres.Cell
import BoundSql.Proofs.Edit.Basic
import BoundSql.Proofs.Postgres.Codec

/-!
# Bound values are read back

What is bound to a parameter is read back from a column of the same type as the value it was, if the
codecs read what they write and the type is one of those that neither round nor normalize. Only
texts become something else, where an identifier or a date is wanted. Lists are bound and read item
by item, so all that is said of single values carries over to them by one induction on the items
(`mapM_readNullable`). `bound_value_returned` puts this together.
-/

namespace BoundSql.Postgres

open BoundSql.Calendar (Date)

/-- A value is bound to parameters of a type. -/
def Accepts (c : Codecs) (type : PgType) (v : Value) : Prop :=
  ∃ cell, bind c type v = .ok cell

/-- The types whose values are read back as they were bound. -/
def PgType.isReturned : PgType → Bool
  | .scalar type =>
    match type with
    | .bool | .int2 | .int4 | .int8 | .bytea | .date | .uuid => true
    | .text | .varchar | .bpchar | .name | .unknown => true
    | _ => false
  | .array (.scalar member) => member.isReadInArrays
  | _ => false

/-- The array codec reads what it writes of the items of a list that is bound to an array. -/
def Codecs.ReturnsItems (c : Codecs) (type : PgType) (v : Value) : Prop :=
  ∀ member items cells, type = .array member → v = .list items →
    bindAll c member items = .ok cells → (c.array member.objectId 1).Returns cells

/-! ## Integers -/

section
variable {n : Int64}

theorem inRange_eq_ok_iff {low high k : Int} :
    inRange low high n = .ok k ↔ (low ≤ n.toInt ∧ n.toInt ≤ high) ∧ n.toInt = k := by
  unfold inRange
  split
  case isTrue hlow => simp [Int.not_le.mpr hlow]
  case isFalse hlow =>
    split
    case isTrue hhigh => simp [Int.not_le.mpr hhigh]
    case isFalse hhigh => simp [Int.not_lt.mp hlow, Int.not_lt.mp hhigh]

/-- A word is made of just the integers in its range. -/
theorem exists_map_inRange_iff {κ : Type} {word : Int → κ} {low high : Int} :
    (∃ k, (inRange low high n).map word = .ok k) ↔ low ≤ n.toInt ∧ n.toInt ≤ high := by
  simp only [map_eq_ok_iff, inRange_eq_ok_iff]
  constructor
  · rintro ⟨_, _, ⟨hrange, -⟩, -⟩
    exact hrange
  · intro hrange
    exact ⟨_, _, ⟨hrange, rfl⟩, rfl⟩

/-- The word that is made of an integer has its value. -/
theorem number_of_map_inRange {κ : Type} {word : Int → κ} {low high : Int} (number : κ → Int)
    (hword : ∀ m, low ≤ m → m ≤ high → number (word m) = m) {k : κ}
    (h : (inRange low high n).map word = .ok k) : number k = n.toInt := by
  obtain ⟨_, hrange, rfl⟩ := map_eq_ok_iff.mp h
  obtain ⟨⟨hlow, hhigh⟩, rfl⟩ := inRange_eq_ok_iff.mp hrange
  exact hword _ hlow hhigh

theorem toValue_of_toInt2 {k : Int16} (h : toInt2 n = .ok k) : toValue k = Value.int n := by
  have hk : k.toInt = n.toInt := number_of_map_inRange Int16.toInt
    (fun _ hlow hhigh => Int16.toInt_ofInt_of_le hlow (Int.lt_add_one_of_le hhigh)) h
  exact congrArg Value.int ((congrArg Int64.ofInt hk).trans n.ofInt_toInt)

theorem toValue_of_toInt4 {k : Int32} (h : toInt4 n = .ok k) : toValue k = Value.int n := by
  have hk : k.toInt = n.toInt := number_of_map_inRange Int32.toInt
    (fun _ hlow hhigh => Int32.toInt_ofInt_of_le hlow (Int.lt_add_one_of_le hhigh)) h
  exact congrArg Value.int ((congrArg Int64.ofInt hk).trans n.ofInt_toInt)

end

/-! ## Single values -/

section
variable {c : Codecs} {type : Scalar} {v : Value} {bytes : Bytes} {cell : Cell}

theorem CellReader.of_encode {α : Type} [ToValue α] {codec : Codec α} (h : codec.Lawful) (a : α) :
    CellReader.of codec (codec.encode a) = some (toValue a) := by
  rw [CellReader.of, h a, Option.map_some]

/-- A text has nothing in front of it where it is read back, and it is read as a text. -/
theorem reader?_of_textMark? {mark : Bytes} (htype : (PgType.scalar type).isReturned = true)
    (h : type.textMark? = some mark) : mark = [] ∧ type.reader? c = some (.of c.text) := by
  cases type with
  | text | varchar | bpchar | name | unknown =>
      cases h
      exact ⟨rfl, rfl⟩
  | custom word => cases htype
  | _ => cases h

/-- The bytes of a value are read as the value, unless a text is read where they are written. -/
theorem reader?_of_bindScalar (hc : c.Lawful) (htype : (PgType.scalar type).isReturned = true)
    (htext : ∀ s, v = .text s → type ≠ .uuid ∧ type ≠ .date)
    (h : bindScalar c type v = .ok bytes) :
    ∃ read, type.reader? c = some read ∧ read bytes = some v := by
  unfold bindScalar at h
  split at h
  case h_1 b =>
    cases h
    exact ⟨_, rfl, CellReader.of_encode hc.bool b⟩
  case h_2 n =>
    obtain ⟨k, hk, rfl⟩ := map_eq_ok_iff.mp h
    exact ⟨_, rfl, toValue_of_toInt2 hk ▸ CellReader.of_encode hc.int2 k⟩
  case h_3 n =>
    obtain ⟨k, hk, rfl⟩ := map_eq_ok_iff.mp h
    exact ⟨_, rfl, toValue_of_toInt4 hk ▸ CellReader.of_encode hc.int4 k⟩
  case h_4 n =>
    cases h
    exact ⟨_, rfl, CellReader.of_encode hc.int8 n⟩
  case h_9 s => exact absurd rfl (htext s rfl).1
  case h_10 s => exact absurd rfl (htext s rfl).2
  case h_11 b =>
    cases h
    exact ⟨_, rfl, CellReader.of_encode hc.bytea b⟩
  case h_12 d =>
    cases h
    exact ⟨_, rfl, CellReader.of_encode hc.date d⟩
  case h_15 u =>
    cases h
    exact ⟨_, rfl, CellReader.of_encode hc.uuid u⟩
  case h_18 s _ _ =>
    split at h
    case h_1 mark hmark =>
      obtain ⟨rfl, hreader⟩ := reader?_of_textMark? htype hmark
      cases h
      exact ⟨_, hreader, CellReader.of_encode hc.text s⟩
    case h_2 => cases h
  case h_19 => cases h
  all_goals cases htype

theorem exists_reader? (htype : (PgType.scalar type).isReturned = true) :
    ∃ read, type.reader? c = some read := by
  cases type with
  | float4 | float8 | oid | timestamp | timestamptz | json | jsonb => cases htype
  | builtIn | custom => cases htype
  | _ => exact ⟨_, rfl⟩

/-- A cell of a single value is read as the value, unless a text is read where it is written. -/
theorem readNullable_of_bind (hc : c.Lawful) (htype : (PgType.scalar type).isReturned = true)
    (htext : ∀ s, v = .text s → type ≠ .uuid ∧ type ≠ .date)
    (h : bind c (.scalar type) v = .ok cell) :
    ∃ read, type.reader? c = some read ∧ readNullable read cell = some v := by
  cases v with
  | null =>
      cases h
      obtain ⟨read, hread⟩ := exists_reader? htype
      exact ⟨read, hread, rfl⟩
  | list items => cases h
  | _ =>
      obtain ⟨bytes, hbytes, rfl⟩ := map_eq_ok_iff.mp h
      exact reader?_of_bindScalar hc htype htext hbytes

/-! ## Lists -/

theorem bindAll_cons_eq_ok_iff {member : PgType} {vs : List Value} {cells : List Cell} :
    bindAll c member (v :: vs) = .ok cells ↔
      ∃ cell, bind c member v = .ok cell ∧
        ∃ rest, bindAll c member vs = .ok rest ∧ cell :: rest = cells := by
  rw [bindAll]
  simp only [bind_eq_ok_iff]
  constructor
  · rintro ⟨cell, hcell, rest, hrest, hpure⟩
    cases hpure
    exact ⟨cell, hcell, rest, hrest, rfl⟩
  · rintro ⟨cell, hcell, rest, hrest, rfl⟩
    exact ⟨cell, hcell, rest, hrest, rfl⟩

/-- The cells of items are read as the items. -/
theorem mapM_readNullable (hc : c.Lawful) {member : Scalar} (hmember : member.isReadInArrays = true)
    {read : CellReader} (hread : member.reader? c = some read) {items : List Value}
    {cells : List Cell} (h : bindAll c (.scalar member) items = .ok cells) :
    cells.mapM (readNullable read) = some items := by
  have htype : (PgType.scalar member).isReturned = true := by
    cases member <;> first | rfl | cases hmember
  have htext (v : Value) : ∀ s, v = .text s → member ≠ .uuid ∧ member ≠ .date := by
    rintro s -
    constructor <;> rintro rfl <;> cases hmember
  induction items generalizing cells with
  | nil =>
      cases h
      rfl
  | cons v items ih =>
      obtain ⟨cell, hcell, rest, hrest, rfl⟩ := bindAll_cons_eq_ok_iff.mp h
      obtain ⟨read', hread', hv⟩ := readNullable_of_bind hc htype (htext v) hcell
      obtain rfl : read = read' := Option.some.inj (hread.symm.trans hread')
      rw [List.mapM_cons, hv, ih hrest]
      rfl

/-- Items are bound if each of them is. -/
theorem exists_bindAll_iff {member : PgType} {items : List Value} :
    (∃ cells, bindAll c member items = .ok cells) ↔ ∀ v ∈ items, Accepts c member v := by
  induction items with
  | nil => exact ⟨fun _ v hv => absurd hv List.not_mem_nil, fun _ => ⟨[], rfl⟩⟩
  | cons v items ih =>
      rw [List.forall_mem_cons, ← ih]
      simp only [bindAll_cons_eq_ok_iff]
      constructor
      · rintro ⟨_, cell, hcell, rest, hrest, rfl⟩
        exact ⟨⟨cell, hcell⟩, rest, hrest⟩
      · rintro ⟨⟨cell, hcell⟩, rest, hrest⟩
        exact ⟨_, cell, hcell, rest, hrest, rfl⟩

end

/-! ## Round trips -/

section
variable {c : Codecs}

theorem readCellAs_of_reader? {type : PgType} {read : CellReader} {cell : Cell} {v : Value}
    (hreader : type.reader? c = some read) (hv : readNullable read cell = some v) :
    readCellAs c type cell = .ok v := by
  rw [readCellAs, hreader]
  simp only [hv]

/-- What a text writes is bound in its place and read back. -/
theorem readCellAs_of_wellFormed {α : Type} [ToValue α] {codec : Codec α} (hcodec : codec.Lawful)
    {type : PgType} (hreader : type.reader? c = some (.of codec)) {written : Option α} {cell : Cell}
    (h : ((wellFormed written).map codec.encode).map some = .ok cell) :
    ∃ a, written = some a ∧ readCellAs c type cell = .ok (toValue a) := by
  cases written with
  | none => cases h
  | some a =>
      cases h
      exact ⟨a, rfl, readCellAs_of_reader? hreader (CellReader.of_encode hcodec a)⟩

theorem reader?_array {member : Scalar} (hmember : member.isReadInArrays = true) :
    ∃ read, member.reader? c = some read ∧
      (PgType.array (.scalar member)).reader? c = some fun bytes => do
        let cells ← (c.array member.objectId 1).decode bytes
        return .list (← cells.mapM (readNullable read)) := by
  obtain ⟨read, hread⟩ : ∃ read, member.reader? c = some read := by
    cases member <;> first | exact ⟨_, rfl⟩ | cases hmember
  refine ⟨read, hread, ?_⟩
  rw [PgType.reader?, if_pos hmember, hread]
  rfl

/-- A list that is bound to an array is read back item by item. -/
theorem readCellAs_array (hc : c.Lawful) {member : Scalar} (hmember : member.isReadInArrays = true)
    {items : List Value} {cells : List Cell} (h : bindAll c (.scalar member) items = .ok cells)
    (hreturns : (c.array member.objectId 1).Returns cells) :
    readCellAs c (.array (.scalar member)) (some ((c.array member.objectId 1).encode cells)) =
      .ok (.list items) := by
  obtain ⟨read, hread, hreader⟩ := reader?_array (c := c) hmember
  have hitems := mapM_readNullable hc hmember hread h
  apply readCellAs_of_reader? hreader
  rw [readNullable, hreturns, Option.bind_eq_bind, Option.bind_some, hitems]
  rfl

/-- An integer is bound to a type whose words are made of integers if a word is made of it. -/
theorem accepts_int_iff {type : Scalar} {κ : Type} {encode : κ → Bytes} {n : Int64}
    {word : Except BindFault κ} (h : bindScalar c type (.int n) = word.map encode) :
    Accepts c (.scalar type) (.int n) ↔ ∃ k, word = .ok k := by
  simp only [Accepts, bind, h, map_eq_ok_iff]
  constructor
  · rintro ⟨_, _, ⟨k, hk, -⟩, -⟩
    exact ⟨k, hk⟩
  · rintro ⟨k, hk⟩
    exact ⟨_, _, ⟨k, hk, rfl⟩, rfl⟩

/-- A list is bound to an array if every item is bound to the member. -/
theorem accepts_list_iff {member : PgType} {items : List Value} :
    Accepts c (.array member) (.list items) ↔ ∀ v ∈ items, Accepts c member v := by
  rw [← exists_bindAll_iff]
  simp only [Accepts, bind, map_eq_ok_iff]
  constructor
  · rintro ⟨_, cells, hcells, -⟩
    exact ⟨cells, hcells⟩
  · rintro ⟨cells, hcells⟩
    exact ⟨_, cells, hcells, rfl⟩

/-- What is bound is read back as the value it was, lists item by item, if the codecs read what they
write. Where an identifier or a date is wanted, a text becomes what it writes. An integer is bound
to a type of integers if it fits, and a list to an array if every item is bound to the member. -/
theorem bound_value_returned (hc : c.Lawful) :
    (∀ type v cell, PgType.isReturned type = true → bind c type v = .ok cell →
      c.ReturnsItems type v →
      (∀ s, v = .text s → type ≠ .scalar .uuid ∧ type ≠ .scalar .date) →
        readCellAs c type cell = .ok v) ∧
    (∀ s cell, bind c (.scalar .uuid) (.text s) = .ok cell →
      ∃ u, Uuid.ofText? s = some u ∧ readCellAs c (.scalar .uuid) cell = .ok (.uuid u)) ∧
    (∀ s cell, bind c (.scalar .date) (.text s) = .ok cell →
      ∃ d, Date.ofText? s = some d ∧ readCellAs c (.scalar .date) cell = .ok (.date d)) ∧
    (∀ n : Int64,
      (Accepts c (.scalar .int2) (.int n) ↔ -32768 ≤ n.toInt ∧ n.toInt ≤ 32767) ∧
      (Accepts c (.scalar .int4) (.int n) ↔ -2147483648 ≤ n.toInt ∧ n.toInt ≤ 2147483647) ∧
      Accepts c (.scalar .int8) (.int n)) ∧
    ∀ member items, Accepts c (.array member) (.list items) ↔ ∀ v ∈ items, Accepts c member v := by
  refine ⟨?returned, ?uuid, ?date, ?integers, fun _ _ => accepts_list_iff⟩
  case returned =>
    intro type v cell htype hbind hreturns htext
    match type, htype with
    | .scalar type, htype =>
        have hscalar : ∀ s, v = .text s → type ≠ .uuid ∧ type ≠ .date := by simpa using htext
        obtain ⟨read, hreader, hv⟩ := readNullable_of_bind hc htype hscalar hbind
        exact readCellAs_of_reader? hreader hv
    | .array (.scalar member), hmember =>
        cases v with
        | null =>
            cases hbind
            obtain ⟨read, -, hreader⟩ := reader?_array (c := c) hmember
            exact readCellAs_of_reader? hreader rfl
        | list items =>
            obtain ⟨cells, hcells, rfl⟩ := map_eq_ok_iff.mp hbind
            exact readCellAs_array hc hmember hcells (hreturns _ _ _ rfl rfl hcells)
        | _ => cases hbind
  case uuid =>
    intro s cell hbind
    exact readCellAs_of_wellFormed hc.uuid rfl hbind
  case date =>
    intro s cell hbind
    exact readCellAs_of_wellFormed hc.date rfl hbind
  case integers =>
    intro n
    exact ⟨(accepts_int_iff rfl).trans exists_map_inRange_iff,
      (accepts_int_iff rfl).trans exists_map_inRange_iff, _, rfl⟩

/-- A list with a null in it, a text that writes a date, and a number that is too large. -/
theorem bound_value_returned_binary :
    let items : List Value := [.int 1, .null, .int (-5)]
    Codecs.binary.Lawful ∧
      (∃ cell, bind .binary (.array (.scalar .int4)) (.list items) = .ok cell ∧
        Codecs.binary.ReturnsItems (.array (.scalar .int4)) (.list items) ∧
        readCellAs .binary (.array (.scalar .int4)) cell = .ok (.list items)) ∧
      (∃ d, Date.ofText? "2000-01-02" = some d ∧
        bind .binary (.scalar .date) (.text "2000-01-02") = .ok (some [0, 0, 0, 1]) ∧
        readCellAs .binary (.scalar .date) (some [0, 0, 0, 1]) = .ok (.date d)) ∧
      ¬Accepts .binary (.scalar .int2) (.int 70000) := by
  intro items
  obtain ⟨hreturned, -, hdate, hintegers, -⟩ := bound_value_returned Codecs.binary_lawful
  refine ⟨Codecs.binary_lawful, ?list, ?date, ?tooLarge⟩
  case list =>
    have hitems : Codecs.binary.ReturnsItems (.array (.scalar .int4)) (.list items) := by
      rintro _ _ cells ⟨⟩ ⟨⟩ hcells
      obtain rfl : [some [0, 0, 0, 1], none, some [255, 255, 255, 251]] = cells :=
        Except.ok.inj hcells
      exact arrayCodec_returns _ _ ⟨by decide, by simp⟩
    exact ⟨_, rfl, hitems, hreturned _ _ _ rfl rfl hitems (by simp)⟩
  case date =>
    have hbind : bind .binary (.scalar .date) (.text "2000-01-02") = .ok (some [0, 0, 0, 1]) :=
      rfl
    obtain ⟨d, hd, hread⟩ := hdate _ _ hbind
    exact ⟨d, hd, hbind, hread⟩
  case tooLarge =>
    rw [(hintegers 70000).1]
    decide

end

end BoundSql.Postgres
