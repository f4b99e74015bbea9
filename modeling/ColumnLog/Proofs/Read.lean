import ColumnLog.Proofs.Levels

/-!
# Reading the slots of a column

A slot is read back through the layout of its column: by the mask, by the offsets of lists and
unions, and by place in the children.

* `Column.read?` reads a slot; it finds nothing where the layout leads out of a column.
* `DataType.read?_columnOf` says that the column of some slots reads back as these slots.
-/

set_option autoImplicit false

namespace ColumnLog

/-! ## The reader -/

namespace Column

mutual

/-- What slot `i` holds.  A slot of a union with id zero is null. -/
def read? : Column → Nat → Option Datum
  | null count, i => if i < count then some .null else none
  | leaf p slots, i => slots[i]?.map (Datum.ofOption (.scalar p))
  | fixedSizeList _ size mask items, i =>
    if mask.nullAt i then some .null
    else if i < mask.size then
      ((List.range' (i * size) size).mapM fun j => read? items j).map .items
    else none
  | list _ offsets mask items, i =>
    if mask.nullAt i then some .null
    else match offsets[i]?, offsets[i + 1]? with
      | some lo, some hi => ((List.range' lo (hi - lo)).mapM fun j => read? items j).map .items
      | _, _ => none
  | struct _ mask children, i =>
    if mask.nullAt i then some .null
    else if i < mask.size then (readEach? children i).map .record
    else none
  | denseUnion ids _ typeIds offsets children, i =>
    match typeIds[i]?, offsets[i]? with
    | some id, some offset =>
      match fieldIndex? ids id with
      | some k =>
        (readChild? children k offset).map fun d => if id = 0 then .null else .variant id d
      | none => none
    | _, _ => none

/-- What slot `i` of every child holds. -/
def readEach? : List Column → Nat → Option (List Datum)
  | [], _ => some []
  | c :: cs, i =>
    match read? c i, readEach? cs i with
    | some d, some ds => some (d :: ds)
    | _, _ => none

/-- What slot `i` of child `k` holds. -/
def readChild? : List Column → Nat → Nat → Option Datum
  | [], _, _ => none
  | c :: _, 0, i => read? c i
  | _ :: cs, k + 1, i => readChild? cs k i

end

theorem readChild?_eq (cs : List Column) (k i : Nat) :
    readChild? cs k i = cs[k]?.bind fun c => c.read? i := by
  induction cs generalizing k with
  | nil => simp [readChild?]
  | cons c cs ih => cases k <;> simp [readChild?, ih]

end Column

theorem mapM_range'_of_getElem? {α : Type} {read : Nat → Option α} {lo : Nat} {xs : List α}
    (h : ∀ j x, xs[j]? = some x → read (lo + j) = some x) :
    (List.range' lo xs.length).mapM read = some xs := by
  induction xs generalizing lo with
  | nil => rfl
  | cons x xs ih =>
    have head : read lo = some x := h 0 x rfl
    have tail : (List.range' (lo + 1) xs.length).mapM read = some xs := by
      refine ih fun j y hj => ?_
      rw [Nat.add_right_comm]
      exact h (j + 1) y hj
    rw [List.length_cons, List.range'_succ, List.mapM_cons, head, tail]
    rfl

/-! ## Reading the column of some slots -/

namespace DataType

variable {type : DataType} {fields : List Field} {required : Bool} {data : List Datum}

/-- Whether the columns of the type read back as the slots they were made of.  Null slots of
required parts are not asked for: their owner is null there. -/
def Reads (type : DataType) : Prop :=
  ∀ (required : Bool) (data : List Datum), type.Stores data → ∀ (i : Nat) (d : Datum),
    data[i]? = some d → (d = .null → required = false) →
      (type.columnOf required data).read? i = some d

theorem reads_leaf (p : Primitive) : Reads (.leaf p) := by
  intro required data stores i d hd null
  simp only [columnOf, Column.read?, List.getElem?_toArray, List.getElem?_map, hd, Option.map_some]
  rcases stores d (List.mem_of_getElem? hd) with rfl | admits
  · rw [null rfl]
    rfl
  · obtain ⟨value, rfl⟩ := admits.eq_scalar
    simp [Datum.ofOption]

/-- A part reads back if its owner is not null there. -/
theorem read?_field {f : Field} (reads : Reads f.type) {xs : List Datum}
    (stores : f.type.Stores xs) {i : Nat} {x : Datum} (hx : xs[i]? = some x)
    (allows : f.Allows x) : (f.columnOf xs).read? i = some x := by
  rw [Field.columnOf_eq]
  refine reads _ xs stores i x hx ?_
  rintro rfl
  rw [allows.nullable]
  rfl

/-- An entry reads back as its items. -/
theorem read?_items {f : Field} (reads : Reads f.type) {xs : List Datum} {lo : Nat}
    (stores : f.type.Stores xs) {items : List Datum} (allows : ∀ d ∈ items, f.Allows d)
    (h : ∀ j < items.length, xs[lo + j]? = items[j]?) :
    (List.range' lo items.length).mapM (fun j => (f.columnOf xs).read? j) = some items := by
  refine mapM_range'_of_getElem? fun j x hx => ?_
  have hj : j < items.length := (List.getElem?_eq_some_iff.mp hx).1
  exact read?_field reads stores ((h j hj).trans hx) (allows x (List.mem_of_getElem? hx))

theorem readEach?_partColumns (each : ∀ f ∈ fields, Reads f.type) {rows : List (List Datum)}
    (stores : Field.StoresEach fields rows) {i : Nat} {row : List Datum}
    (hrow : rows[i]? = some row) (allows : Field.AllowsEach fields row) :
    Column.readEach? (Field.partColumns fields rows) i = some row := by
  induction fields generalizing rows row with
  | nil =>
    rw [allows.eq_nil]
    rfl
  | cons f fs ih =>
    obtain ⟨d, row, rfl, allows, rest⟩ := allows.eq_cons
    have head : (f.columnOf (rows.map (·.headD .null))).read? i = some d :=
      read?_field (each f List.mem_cons_self) stores.head
        (by rw [List.getElem?_map, hrow]; rfl) allows
    have tail : Column.readEach? (Field.partColumns fs (rows.map List.tail)) i = some row :=
      ih (fun g hg => each g (List.mem_cons_of_mem f hg)) stores.tail
        (by rw [List.getElem?_map, hrow]; rfl) rest
    rw [Field.partColumns, Column.readEach?, head, tail]

theorem reads_fixedSizeList (p : Primitive) (size : Nat) :
    Reads (.fixedSizeList (.item (.leaf p)) size) := by
  intro required data stores i d hd null
  rcases stores d (List.mem_of_getElem? hd) with rfl | admits
  · rw [columnOf, Column.read?, if_pos (Datum.nullAt_maskOf.mpr hd)]
  · obtain ⟨items, rfl, hsize, allows⟩ := admits.eq_entry
    have hi : i < data.length := (List.getElem?_eq_some_iff.mp hd).1
    have stored : ∀ j < items.length,
        (data.flatMap (Datum.entryItems size))[i * size + j]? = items[j]? := fun j hj =>
      stores.getElem?_entryItems hd (hsize ▸ hj)
    have read := read?_items (f := .item (.leaf p)) (reads_leaf p) stores.entryItems allows stored
    rw [hsize] at read
    rw [columnOf, Column.read?, if_neg (by simp [Datum.nullAt_maskOf, hd]),
      if_pos (by simpa using hi), read]
    rfl

theorem reads_list (reads : Reads type) : Reads (.list (.item type)) := by
  intro required data stores i d hd null
  rcases stores d (List.mem_of_getElem? hd) with rfl | admits
  · rw [columnOf, Column.read?, if_pos (Datum.nullAt_maskOf.mpr hd)]
  · obtain ⟨items, rfl, allows⟩ := admits.eq_items
    have hi : i < data.length := (List.getElem?_eq_some_iff.mp hd).1
    have len : (data.map fun d => d.listItems.length)[i]? = some items.length := by
      rw [List.getElem?_map, hd]
      rfl
    let lo := ((data.map fun d => d.listItems.length).take i).sum
    have start : (bounds (data.map fun d => d.listItems.length))[i]? = some lo :=
      getElem?_bounds (by simpa using Nat.le_of_lt hi)
    have stop : (bounds (data.map fun d => d.listItems.length))[i + 1]? =
        some (lo + items.length) := by
      rw [getElem?_bounds (by simpa using Nat.succ_le_of_lt hi), sum_take_succ len]
    have stored : ∀ j < items.length,
        (data.flatMap Datum.listItems)[lo + j]? = items[j]? := fun j hj =>
      getElem?_flatMap_add Datum.listItems hd hj
    have read := read?_items (f := .item type) reads
      (.of_allows fun d hd => stores.listItems hd) allows stored
    simp only [columnOf, Column.read?, List.getElem?_toArray, start, stop,
      Nat.add_sub_cancel_left, read]
    rw [if_neg (by simp [Datum.nullAt_maskOf, hd])]
    rfl

theorem reads_struct (each : ∀ f ∈ fields, Reads f.type) : Reads (.struct fields) := by
  intro required data stores i d hd null
  rcases stores d (List.mem_of_getElem? hd) with rfl | admits
  · rw [columnOf, Column.read?, if_pos (Datum.nullAt_maskOf.mpr hd)]
  · obtain ⟨parts, rfl, allows⟩ := admits.eq_record
    have hi : i < data.length := (List.getElem?_eq_some_iff.mp hd).1
    have row : (data.map Datum.parts)[i]? = some parts := by rw [List.getElem?_map, hd]; rfl
    have read := readEach?_partColumns each stores.parts row allows
    rw [columnOf, Column.read?, if_neg (by simp [Datum.nullAt_maskOf, hd]),
      if_pos (by simpa using hi), read]
    rfl

theorem reads_union (each : ∀ f ∈ fields, Reads f.type) : Reads (.union fields) := by
  intro required data stores i d hd null
  have mem : d ∈ data := List.mem_of_getElem? hd
  have tag : (data.map Datum.tag)[i]? = some d.tag := by rw [List.getElem?_map, hd]; rfl
  have index : Column.fieldIndex? (List.range (fields.length + 1)) d.tag = some d.tag :=
    fieldIndex?_range (Builder.tag_lt_of_stores stores mem)
  have place := getElem?_contents hd
  simp only [union, columnOf, Column.read?, List.getElem?_toArray, tag, getElem?_places tag,
    index, Column.readChild?_eq, getElem?_variantColumns, Nat.zero_add]
  rcases stores d mem with rfl | admits
  · have marker : ((data.map Datum.tag).take i).count 0 < (Datum.contents 0 data).length :=
      (List.getElem?_eq_some_iff.mp place).1
    simp [nullMarkers, columnOf, Column.read?, marker]
  · obtain ⟨k, content, rfl, allows⟩ := admits.eq_variant
    obtain ⟨f, hf, allows⟩ := (Field.allowsAt_iff _ _ _).mp allows
    have stored : f.type.Stores (Datum.contents (k + 1) data) :=
      .of_allows fun x hx => stores.variants.contents hf (Nat.add_comm k 1 ▸ hx)
    have read := read?_field (each f (List.mem_of_getElem? hf)) stored place allows
    rw [Datum.tag_variant, Int.toNat_natCast, List.getElem?_cons_succ, hf]
    rw [Datum.tag_variant, Int.toNat_natCast] at read
    rw [Option.map_some, Option.bind_some, read]
    rfl

/-- **The column of some slots reads back as these slots.** -/
theorem reads_of_regular (h : type.Regular) : Reads type := by
  induction h with
  | leaf p => exact reads_leaf p
  | fixedSizeList p pos le => exact reads_fixedSizeList p _
  | list regular ih => exact reads_list ih
  | struct ne each ih => exact reads_struct ih
  | union required each ih => exact reads_union ih

/-- A slot, null or not, reads back from the column of the slots. -/
theorem read?_columnOf (h : type.Regular) (stores : type.Stores data) {i : Nat} {d : Datum}
    (hd : data[i]? = some d) : (type.columnOf false data).read? i = some d :=
  reads_of_regular h false data stores i d hd fun _ => rfl

end DataType
end ColumnLog
