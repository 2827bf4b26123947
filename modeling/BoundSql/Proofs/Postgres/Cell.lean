import BoundSql.Proofs.Postgres.Bind

/-!
# Values that were read are bound

A value that was read from a column is bound to a parameter of the type of the column, object
identifiers apart: they are read as integers, but integers are not bound to them. What is written
is read as the value again if nothing is rounded. A type writes with the codec with which it reads
(`bindScalar_of_codec`); only floating-point numbers of single precision have to be told apart.
Lists are bound if their items are. `read_value_bound` puts this together.
-/

namespace BoundSql.Postgres

open BoundSql.Number (length_bytesOf)

/-- The types of floating-point numbers and of moments. -/
def PgType.isRounded : PgType → Bool
  | .scalar .float4 | .scalar .float8 | .scalar .timestamp | .scalar .timestamptz => true
  | _ => false

/-- The codecs of JSON values read what they write of a value. -/
def Codecs.ReturnsJson (c : Codecs) (v : Value) : Prop :=
  ∀ j, v = .json j → c.json.Returns j ∧ c.jsonb.Returns j

/-! ## Integers -/

/-- The word of which a number in the range was read is made of the number. -/
theorem map_inRange_number {κ : Type} {word : Int → κ} {low high m : Int}
    (hlow : Int64.minValue.toInt ≤ low) (hhigh : high ≤ Int64.maxValue.toInt)
    (hrange : low ≤ m ∧ m ≤ high) :
    (inRange low high (.ofInt m)).map word = .ok (word m) := by
  have hm : (Int64.ofInt m).toInt = m :=
    Int64.toInt_ofInt_of_le (Int.le_trans hlow hrange.1)
      (Int.lt_add_one_of_le (Int.le_trans hrange.2 hhigh))
  have hok : inRange low high (.ofInt m) = .ok m := inRange_eq_ok_iff.mpr ⟨hm.symm ▸ hrange, hm⟩
  rw [hok]
  rfl

theorem toInt2_ofInt (k : Int16) : toInt2 (.ofInt k.toInt) = .ok k :=
  (map_inRange_number (by decide) (by decide) ⟨k.minValue_le_toInt, k.toInt_le⟩).trans
    (congrArg Except.ok k.ofInt_toInt)

theorem toInt4_ofInt (k : Int32) : toInt4 (.ofInt k.toInt) = .ok k :=
  (map_inRange_number (by decide) (by decide) ⟨k.minValue_le_toInt, k.toInt_le⟩).trans
    (congrArg Except.ok k.ofInt_toInt)

/-! ## Single values -/

section
variable {c : Codecs} {type : Scalar} {read : CellReader} {bytes : Bytes} {cell : Cell} {v : Value}

/-- What a type reads with a codec is bound if the type writes with the codec, and it is read again
if the codec returns it. -/
theorem bindScalar_of_codec {α : Type} [ToValue α] {codec : Codec α}
    (hwrite : ∀ a, bindScalar c type (toValue a) = .ok (codec.encode a))
    (hv : CellReader.of codec bytes = some v)
    (hreturns : (PgType.scalar type).isRounded = false → c.ReturnsJson v →
      ∀ a, v = toValue a → codec.Returns a) :
    ∃ written, bindScalar c type v = .ok written ∧
      ((PgType.scalar type).isRounded = false → c.ReturnsJson v →
        CellReader.of codec written = some v) := by
  obtain ⟨a, -, rfl⟩ := Option.map_eq_some_iff.mp hv
  refine ⟨_, hwrite a, fun hrounded hjson => ?_⟩
  rw [CellReader.of, hreturns hrounded hjson a rfl, Option.map_some]

/-- What is read from bytes is bound, and what is written is read as it again if nothing is
rounded. -/
theorem bindScalar_of_reader? (hc : c.Lawful) (hreader : type.reader? c = some read)
    (hv : read bytes = some v) (htype : type ≠ .oid) :
    ∃ written, bindScalar c type v = .ok written ∧
      ((PgType.scalar type).isRounded = false → c.ReturnsJson v → read written = some v) := by
  cases type with
  | oid => exact absurd rfl htype
  | builtIn | custom => cases hreader
  | float4 =>
      cases hreader
      obtain ⟨x, -, rfl⟩ := Option.map_eq_some_iff.mp hv
      exact ⟨_, rfl, fun hrounded => nomatch hrounded⟩
  | float8 | timestamp | timestamptz =>
      cases hreader
      exact bindScalar_of_codec (fun _ => rfl) hv fun hrounded => nomatch hrounded
  | bool =>
      cases hreader
      exact bindScalar_of_codec (fun _ => rfl) hv fun _ _ b _ => hc.bool b
  | bytea =>
      cases hreader
      exact bindScalar_of_codec (fun _ => rfl) hv fun _ _ b _ => hc.bytea b
  | int2 =>
      cases hreader
      exact bindScalar_of_codec (fun k => congrArg (Except.map c.int2.encode) (toInt2_ofInt k)) hv
        fun _ _ k _ => hc.int2 k
  | int4 =>
      cases hreader
      exact bindScalar_of_codec (fun k => congrArg (Except.map c.int4.encode) (toInt4_ofInt k)) hv
        fun _ _ k _ => hc.int4 k
  | int8 =>
      cases hreader
      exact bindScalar_of_codec (fun _ => rfl) hv fun _ _ n _ => hc.int8 n
  | date =>
      cases hreader
      exact bindScalar_of_codec (fun _ => rfl) hv fun _ _ d _ => hc.date d
  | uuid =>
      cases hreader
      exact bindScalar_of_codec (fun _ => rfl) hv fun _ _ u _ => hc.uuid u
  | json =>
      cases hreader
      exact bindScalar_of_codec (fun _ => rfl) hv fun _ hjson j hj => (hjson j hj).1
  | jsonb =>
      cases hreader
      exact bindScalar_of_codec (fun _ => rfl) hv fun _ hjson j hj => (hjson j hj).2
  | text | varchar | bpchar | name | unknown =>
      cases hreader
      exact bindScalar_of_codec (fun _ => rfl) hv fun _ _ s _ => hc.text s

theorem bind_of_bindScalar (h : bindScalar c type v = .ok bytes) :
    bind c (.scalar type) v = .ok (some bytes) := by
  cases v with
  | null | list => cases h
  | _ => exact congrArg (Except.map some) h

/-- What is read from a cell is bound, and what is written is read as it again if nothing is
rounded. -/
theorem bind_of_readNullable (hc : c.Lawful) (hreader : type.reader? c = some read)
    (hv : readNullable read cell = some v) (h : type ≠ .oid ∨ v = .null) :
    ∃ written, bind c (.scalar type) v = .ok written ∧
      ((PgType.scalar type).isRounded = false → c.ReturnsJson v →
        readNullable read written = some v) := by
  cases cell with
  | none =>
      cases hv
      exact ⟨none, rfl, fun _ _ => rfl⟩
  | some bytes =>
      have htype : type ≠ .oid := by
        rintro rfl
        cases hreader
        obtain ⟨n, -, rfl⟩ := Option.map_eq_some_iff.mp hv
        exact h.elim (absurd rfl) nofun
      obtain ⟨written, hwritten, hread⟩ := bindScalar_of_reader? hc hreader hv htype
      exact ⟨some written, bind_of_bindScalar hwritten, hread⟩

/-- Integers are not bound to object identifiers. -/
theorem eq_null_of_accepts_oid (hv : readNullable (.of c.oid) cell = some v)
    (h : Accepts c (.scalar .oid) v) : v = .null := by
  cases cell with
  | none =>
      cases hv
      rfl
  | some bytes =>
      obtain ⟨n, -, rfl⟩ := Option.map_eq_some_iff.mp hv
      obtain ⟨written, hwritten⟩ := h
      cases hwritten

/-! ## Lists -/

theorem mapM_cons_eq_some_iff {cells : List Cell} {items : List Value} :
    (cell :: cells).mapM (readNullable read) = some items ↔
      ∃ v rest, readNullable read cell = some v ∧ cells.mapM (readNullable read) = some rest ∧
        v :: rest = items := by
  rw [List.mapM_cons]
  simp only [Option.bind_eq_bind, Option.bind_eq_some_iff]
  constructor
  · rintro ⟨v, hv, rest, hrest, hpure⟩
    cases hpure
    exact ⟨v, rest, hv, hrest, rfl⟩
  · rintro ⟨v, rest, hv, hrest, rfl⟩
    exact ⟨v, hv, rest, hrest, rfl⟩

/-- Items that were read from an array are bound to its members. -/
theorem accepts_items (hc : c.Lawful) (hmember : type.isReadInArrays = true)
    (hreader : type.reader? c = some read) {cells : List Cell} {items : List Value}
    (h : cells.mapM (readNullable read) = some items) :
    ∀ v ∈ items, Accepts c (.scalar type) v := by
  have htype : type ≠ .oid := by
    rintro rfl
    cases hmember
  induction cells generalizing items with
  | nil =>
      cases h
      exact fun v hv => absurd hv List.not_mem_nil
  | cons cell cells ih =>
      obtain ⟨v, rest, hv, hrest, rfl⟩ := mapM_cons_eq_some_iff.mp h
      obtain ⟨written, hwritten, -⟩ := bind_of_readNullable hc hreader hv (.inl htype)
      exact List.forall_mem_cons.mpr ⟨⟨written, hwritten⟩, ih hrest⟩

end

/-! ## Round trips -/

section
variable {c : Codecs} {type : Scalar} {cell written : Cell} {v : Value}

theorem exists_reader?_of_readCellAs {type : PgType} (h : readCellAs c type cell = .ok v) :
    ∃ read, type.reader? c = some read ∧ readNullable read cell = some v := by
  unfold readCellAs at h
  split at h
  case h_1 => cases h
  case h_2 read hreader =>
    split at h
    case h_1 hv =>
      cases h
      exact ⟨read, hreader, hv⟩
    case h_2 => cases h

/-- Of single values only object identifiers are not bound. -/
theorem accepts_scalar_iff (hc : c.Lawful) (h : readCellAs c (.scalar type) cell = .ok v) :
    Accepts c (.scalar type) v ↔ type ≠ .oid ∨ v = .null := by
  obtain ⟨read, hreader, hv⟩ := exists_reader?_of_readCellAs h
  constructor
  · intro haccepts
    by_cases htype : type = .oid
    · subst htype
      cases hreader
      exact .inr (eq_null_of_accepts_oid hv haccepts)
    · exact .inl htype
  · intro hor
    obtain ⟨written, hwritten, -⟩ := bind_of_readNullable hc hreader hv hor
    exact ⟨written, hwritten⟩

theorem readCellAs_of_bind_scalar (hc : c.Lawful) (h : readCellAs c (.scalar type) cell = .ok v)
    (hwritten : bind c (.scalar type) v = .ok written)
    (hrounded : (PgType.scalar type).isRounded = false) (hjson : c.ReturnsJson v) :
    readCellAs c (.scalar type) written = .ok v := by
  have hor := (accepts_scalar_iff hc h).mp ⟨written, hwritten⟩
  obtain ⟨read, hreader, hv⟩ := exists_reader?_of_readCellAs h
  obtain ⟨written', hwritten', hread⟩ := bind_of_readNullable hc hreader hv hor
  obtain rfl := Except.ok.inj (hwritten.symm.trans hwritten')
  exact readCellAs_of_reader? hreader (hread hrounded hjson)

/-- What is read from an array is null or a list of items that were read each. -/
theorem null_or_items_of_read (h : readCellAs c (.array (.scalar type)) cell = .ok v) :
    type.isReadInArrays = true ∧ (v = .null ∨ ∃ bytes read cells items,
      (c.array type.objectId 1).decode bytes = some cells ∧ type.reader? c = some read ∧
        cells.mapM (readNullable read) = some items ∧ v = .list items) := by
  obtain ⟨read, hreader, hv⟩ := exists_reader?_of_readCellAs h
  by_cases htype : type.isReadInArrays = true
  · obtain ⟨readItem, hitem, hread⟩ := reader?_array (c := c) htype
    obtain rfl := Option.some.inj (hread.symm.trans hreader)
    refine ⟨htype, ?_⟩
    cases cell with
    | none =>
        cases hv
        exact .inl rfl
    | some bytes =>
        obtain ⟨cells, hcells, hlist⟩ := Option.bind_eq_some_iff.mp hv
        obtain ⟨items, hitems, hlist⟩ := Option.bind_eq_some_iff.mp hlist
        cases hlist
        exact .inr ⟨bytes, readItem, cells, items, hcells, hitem, hitems, rfl⟩
  · rw [PgType.reader?, if_neg htype] at hreader
    cases hreader

theorem accepts_array (hc : c.Lawful) (h : readCellAs c (.array (.scalar type)) cell = .ok v) :
    Accepts c (.array (.scalar type)) v := by
  obtain ⟨htype, rfl | ⟨-, read, cells, items, -, hreader, hitems, rfl⟩⟩ :=
    null_or_items_of_read h
  · exact ⟨none, rfl⟩
  · exact accepts_list_iff.mpr (accepts_items hc htype hreader hitems)

theorem readCellAs_of_bind_array (hc : c.Lawful)
    (h : readCellAs c (.array (.scalar type)) cell = .ok v)
    (hwritten : bind c (.array (.scalar type)) v = .ok written)
    (hreturns : c.ReturnsItems (.array (.scalar type)) v) :
    readCellAs c (.array (.scalar type)) written = .ok v := by
  obtain ⟨htype, rfl | ⟨-, -, -, items, -, -, -, rfl⟩⟩ := null_or_items_of_read h
  · cases hwritten
    obtain ⟨read, -, hreader⟩ := reader?_array (c := c) htype
    exact readCellAs_of_reader? hreader rfl
  · obtain ⟨cells, hcells, rfl⟩ := map_eq_ok_iff.mp hwritten
    exact readCellAs_array hc htype hcells (hreturns _ _ _ rfl rfl hcells)

end

/-! ## The binary format -/

section
variable {type : Scalar} {read : CellReader} {cell written : Cell} {v : Value}

/-- The cell of an item that was read from an array is not too long. -/
theorem length_lt_of_bind (htype : type.isReadInArrays = true)
    (hreader : type.reader? .binary = some read) (hv : readNullable read cell = some v)
    (hcell : ∀ bytes, cell = some bytes → bytes.length < Nat.pow 2 31)
    (hwritten : bind .binary (.scalar type) v = .ok written) :
    ∀ bytes, written = some bytes → bytes.length < Nat.pow 2 31 := by
  cases cell with
  | none =>
      cases hv
      cases hwritten
      exact nofun
  | some bytes =>
      cases type with
      | int4 =>
          cases hreader
          obtain ⟨k, -, rfl⟩ := Option.map_eq_some_iff.mp hv
          have hk : bind .binary (.scalar .int4) (toValue k) = .ok (some (int4Codec.encode k)) :=
            bind_of_bindScalar (congrArg (Except.map int4Codec.encode) (toInt4_ofInt k))
          cases hk.symm.trans hwritten
          rintro _ ⟨⟩
          rw [int4Codec, length_bytesOf]
          decide
      | int8 =>
          cases hreader
          obtain ⟨n, -, rfl⟩ := Option.map_eq_some_iff.mp hv
          cases hwritten
          rintro _ ⟨⟩
          rw [Codecs.binary, int8Codec, length_bytesOf]
          decide
      | text | varchar =>
          cases hreader
          obtain ⟨s, hs, rfl⟩ := Option.map_eq_some_iff.mp hv
          cases hwritten
          rintro _ ⟨⟩
          have hsame : Codecs.binary.text.encode s = bytes := Text.utf8Bytes_of_ofUtf8? hs
          rw [List.nil_append, hsame]
          exact hcell bytes rfl
      | _ => cases htype

/-- Items that were read from cells are written as just as many cells that are not too long. -/
theorem bindAll_bounds (htype : type.isReadInArrays = true)
    (hreader : type.reader? .binary = some read) {cells rewritten : List Cell} {items : List Value}
    (hcells : ∀ bytes, some bytes ∈ cells → bytes.length < Nat.pow 2 31)
    (hitems : cells.mapM (readNullable read) = some items)
    (hwritten : bindAll .binary (.scalar type) items = .ok rewritten) :
    rewritten.length = cells.length ∧
      ∀ bytes, some bytes ∈ rewritten → bytes.length < Nat.pow 2 31 := by
  induction cells generalizing items rewritten with
  | nil =>
      cases hitems
      cases hwritten
      exact ⟨rfl, nofun⟩
  | cons cell cells ih =>
      obtain ⟨v, items, hv, hrest, rfl⟩ := mapM_cons_eq_some_iff.mp hitems
      obtain ⟨written, hbind, rewritten, hall, rfl⟩ := bindAll_cons_eq_ok_iff.mp hwritten
      have hcell := length_lt_of_bind htype hreader hv
        (fun bytes hbytes => hcells bytes (hbytes ▸ List.mem_cons_self)) hbind
      obtain ⟨hlength, hbytes⟩ :=
        ih (fun bytes hmem => hcells bytes (List.mem_cons_of_mem cell hmem)) hrest hall
      refine ⟨congrArg (· + 1) hlength, fun bytes hmem => ?_⟩
      obtain hmem | hmem := List.mem_cons.mp hmem
      · exact hcell bytes hmem.symm
      · exact hbytes bytes hmem

/-- Lists that were read from an array are read again as they are written. -/
theorem binary_returnsItems {type : PgType} (h : readCellAs .binary type cell = .ok v) :
    Codecs.binary.ReturnsItems type v := by
  rintro member items rewritten rfl rfl hwritten
  match member with
  | .scalar type =>
      obtain ⟨htype, hnull | ⟨bytes, read, cells, items, hcells, hreader, hitems, hlist⟩⟩ :=
        null_or_items_of_read h
      · cases hnull
      · cases hlist
        have hfit := fit_of_readMembers hcells
        obtain ⟨hlength, hbytes⟩ := bindAll_bounds htype hreader hfit.bytes hitems hwritten
        exact arrayCodec_returns _ _ ⟨hlength ▸ hfit.length, hbytes⟩
  | .array _ | .vector _ => cases h

/-- A JSON value is read again as it is written if its text is. -/
theorem binary_returnsJson {j : Json} (h : Json.read? j.write = some j) :
    Codecs.binary.ReturnsJson (.json j) := by
  rintro _ ⟨⟩
  have hjson : jsonCodec.Returns j := by
    simp only [Codec.Returns, jsonCodec, Text.ofUtf8?_utf8Bytes, Option.bind_some, h]
  exact ⟨hjson, hjson⟩

end

/-! ## What was read is bound -/

section
variable {c : Codecs} {cell : Cell} {v : Value}

/-- What is read from a column is bound to a parameter of its type, object identifiers apart, and
what is written is read as it again if nothing is rounded and the codecs read what they write. -/
theorem read_value_bound (hc : c.Lawful) {type : PgType}
    (h : readCellAs c type cell = .ok v) :
    (Accepts c type v ↔ type ≠ .scalar .oid ∨ v = .null) ∧
    ∀ written, bind c type v = .ok written → type.isRounded = false → c.ReturnsItems type v →
      c.ReturnsJson v → readCellAs c type written = .ok v := by
  match type with
  | .scalar type =>
      refine ⟨by simpa using accepts_scalar_iff hc h, ?_⟩
      intro written hwritten hrounded _ hjson
      exact readCellAs_of_bind_scalar hc h hwritten hrounded hjson
  | .array (.scalar type) =>
      refine ⟨iff_of_true (accepts_array hc h) (.inl nofun), ?_⟩
      intro written hwritten _ hreturns _
      exact readCellAs_of_bind_array hc h hwritten hreturns
  | .array (.array _) | .array (.vector _) | .vector _ => cases h

/-- An array of texts with a null in it, and a JSON value that was written with a blank. -/
theorem read_value_bound_binary :
    let texts : Cell := some [0, 0, 0, 1, 0, 0, 0, 1, 0, 0, 0, 25, 0, 0, 0, 2, 0, 0, 0, 1,
      0, 0, 0, 2, 0xc3, 0xa9, 255, 255, 255, 255]
    let json : Cell := some [1, 32, 116, 114, 117, 101]
    Codecs.binary.Lawful ∧
      readCellAs .binary (.array (.scalar .text)) texts = .ok (.list [.text "é", .null]) ∧
      (∃ written, bind .binary (.array (.scalar .text)) (.list [.text "é", .null]) = .ok written ∧
        readCellAs .binary (.array (.scalar .text)) written = .ok (.list [.text "é", .null])) ∧
      readCellAs .binary (.scalar .jsonb) json = .ok (.json (.bool true)) ∧
      ∃ written, bind .binary (.scalar .jsonb) (.json (.bool true)) = .ok written ∧
        readCellAs .binary (.scalar .jsonb) written = .ok (.json (.bool true)) := by
  intro texts json
  have htexts : readCellAs .binary (.array (.scalar .text)) texts =
      .ok (.list [.text "é", .null]) := rfl
  have hjson : readCellAs .binary (.scalar .jsonb) json = .ok (.json (.bool true)) := rfl
  refine ⟨Codecs.binary_lawful, htexts, ?texts, hjson, ?json⟩
  case texts =>
    obtain ⟨haccepts, hread⟩ := read_value_bound Codecs.binary_lawful htexts
    obtain ⟨written, hwritten⟩ := haccepts.mpr (.inl nofun)
    exact ⟨written, hwritten, hread written hwritten rfl (binary_returnsItems htexts) nofun⟩
  case json =>
    obtain ⟨haccepts, hread⟩ := read_value_bound Codecs.binary_lawful hjson
    obtain ⟨written, hwritten⟩ := haccepts.mpr (.inl nofun)
    exact ⟨written, hwritten, hread written hwritten rfl nofun (binary_returnsJson rfl)⟩

/-- The object identifier of the first table of a user, which is read but not bound. -/
theorem firstUserTable_not_bound :
    Codecs.binary.oid.Returns 16384 ∧
      readCellAs .binary (.scalar .oid) (some [0, 0, 64, 0]) = .ok (.int 16384) ∧
      bind .binary (.scalar .oid) (.int 16384) = .error (.mismatch .integer "oid") :=
  ⟨rfl, rfl, rfl⟩

end

end BoundSql.Postgres
