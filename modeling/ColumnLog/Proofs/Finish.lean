import ColumnLog.Proofs.Append

/-!
# Finishing a builder

A builder that holds slots finishes into the column of these slots.  Every check of the parts
passes, but for one: a union with a child that is too long for 32-bit offsets may be refused.

* `DataType.type_columnOf`, `DataType.length_columnOf` and `DataType.eq_null_of_nullAt_columnOf`
  tell what the column of some slots looks like from outside.
* `Builder.finish_holding` is the result: the column of the slots, or a builder that is not bounded.
-/

set_option autoImplicit false

namespace ColumnLog

/-! ## The mask of some slots -/

namespace Datum

@[simp]
theorem size_maskOf (data : List Datum) : (maskOf data).size = data.length := by simp [maskOf]

theorem nullAt_maskOf {data : List Datum} {i : Nat} :
    (maskOf data).nullAt i = true ↔ data[i]? = some null := by
  rw [maskOf, Mask.nullAt_ofSlots]
  cases h : data[i]? with
  | none => simp [h]
  | some d => simp [h, present_eq_false_iff]

theorem hasNull_maskOf {data : List Datum} (h : ∀ d ∈ data, d ≠ null) :
    (maskOf data).hasNull = false := by
  rw [Bool.eq_false_iff, Ne, Mask.hasNull_iff]
  rintro ⟨i, hi⟩
  exact h null (List.mem_of_getElem? (nullAt_maskOf.mp hi)) rfl

end Datum

/-! ## The column of some slots, from outside -/

@[simp]
theorem Field.columnOf_eq (f : Field) (data : List Datum) :
    f.columnOf data = f.type.columnOf (!f.nullable) data := by
  cases f; rfl

namespace DataType

variable {type : DataType} {fields : List Field} {required : Bool} {data : List Datum}

@[simp]
theorem type_columnOf (required : Bool) (type : DataType) (data : List Datum) :
    (type.columnOf required data).type = type := by
  cases type <;> rfl

@[simp]
theorem length_columnOf (required : Bool) (type : DataType) (data : List Datum) :
    (type.columnOf required data).length = data.length := by
  cases type <;> simp [columnOf, Column.length]

theorem length_partColumns (fields : List Field) (rows : List (List Datum)) :
    (Field.partColumns fields rows).length = fields.length := by
  induction fields generalizing rows with
  | nil => rfl
  | cons f fs ih => simp [Field.partColumns, ih]

theorem length_variantColumns (id : Nat) (fields : List Field) (data : List Datum) :
    (Field.variantColumns id fields data).length = fields.length := by
  induction fields generalizing id with
  | nil => rfl
  | cons f fs ih => simp [Field.variantColumns, ih]

theorem getElem?_variantColumns (id : Nat) (fields : List Field) (data : List Datum) (k : Nat) :
    (Field.variantColumns id fields data)[k]? =
      fields[k]?.map fun f => f.columnOf (Datum.contents (id + k) data) := by
  induction fields generalizing id k with
  | nil => simp [Field.variantColumns]
  | cons f fs ih =>
    cases k with
    | zero => simp [Field.variantColumns]
    | succ k => simp [Field.variantColumns, ih, Nat.add_right_comm, Nat.add_assoc]

/-! ## Nulls -/

theorem mayHoldNull_columnOf_leaf (p : Primitive) (data : List Datum) :
    ((leaf p).columnOf true data).mayHoldNull = false := by
  simp [columnOf, Column.mayHoldNull, Builder.blankOf]

theorem anyMayHoldNull_variantColumns {id : Nat}
    (each : ∀ f ∈ fields, ∀ r data, (∀ d ∈ data, f.type.Admits d) →
      (f.type.columnOf r data).mayHoldNull = false)
    (required : ∀ f ∈ fields, f.nullable = false) (stores : Field.StoresFrom id fields data) :
    Column.anyMayHoldNull (Field.variantColumns id fields data) = false := by
  induction fields generalizing id with
  | nil => rfl
  | cons f fs ih =>
    have head := each f List.mem_cons_self (!f.nullable) (Datum.contents id data) fun d hd =>
      (stores.head hd).admits (required f List.mem_cons_self)
    have tail := ih (fun g hg => each g (List.mem_cons_of_mem f hg))
      (fun g hg => required g (List.mem_cons_of_mem f hg)) stores.tail
    rw [Field.variantColumns, Column.anyMayHoldNull, Field.columnOf_eq, head, tail]
    rfl

/-- A column of data has no null anywhere that its owner could see. -/
theorem mayHoldNull_columnOf (regular : type.Regular) (required : Bool)
    (h : ∀ d ∈ data, type.Admits d) : (type.columnOf required data).mayHoldNull = false := by
  have present : (Datum.maskOf data).hasNull = false :=
    Datum.hasNull_maskOf fun d hd => (h d hd).ne_null
  induction regular generalizing required data with
  | leaf p =>
    simp only [columnOf, Column.mayHoldNull, List.any_toArray, List.any_map, List.any_eq_false]
    intro d hd
    obtain ⟨value, rfl⟩ := (h d hd).eq_scalar
    simp
  | fixedSizeList p pos le => exact present
  | list item ih => exact present
  | struct ne each ih => exact present
  | @union variants isRequired each ih =>
    have stores : (union variants).Stores data := fun d hd => .inr (h d hd)
    have markers : Datum.contents 0 data = [] := by
      rw [Datum.contents, List.map_eq_nil_iff, List.filter_eq_nil_iff]
      intro d hd
      simpa using Nat.ne_of_gt (h d hd).tag_pos
    have others : Column.anyMayHoldNull (Field.variantColumns 1 variants data) = false :=
      anyMayHoldNull_variantColumns
        (fun f hf r data hd => ih f hf r hd (Datum.hasNull_maskOf fun d hx => (hd d hx).ne_null))
        isRequired stores.variants
    show ((columnOf false null (Datum.contents 0 data)).mayHoldNull ||
      Column.anyMayHoldNull (Field.variantColumns 1 variants data)) = false
    rw [markers, others]
    rfl

theorem fieldIndex?_range {n id : Nat} (h : id < n) :
    Column.fieldIndex? (List.range n) id = some id := by
  rw [Column.fieldIndex?, List.findIdx?_eq_some_iff_getElem]
  refine ⟨by simpa using h, by simp, fun j hj => ?_⟩
  simpa using Nat.ne_of_lt hj

theorem eq_of_fieldIndex?_range {n id k : Nat}
    (h : Column.fieldIndex? (List.range n) id = some k) : k = id := by
  rw [Column.fieldIndex?, List.findIdx?_eq_some_iff_getElem] at h
  obtain ⟨hk, at_k, -⟩ := h
  simpa using at_k

/-- Only null slots of the column are null. -/
theorem eq_null_of_nullAt_columnOf (regular : type.Regular) (stores : type.Stores data) {i : Nat}
    (h : (type.columnOf required data).nullAt i = true) : data[i]? = some .null := by
  cases regular with
  | leaf p =>
    simp only [columnOf, Column.nullAt, List.getElem?_toArray, List.getElem?_map,
      Option.map_map] at h
    cases hi : data[i]? with
    | none => simp [hi] at h
    | some d =>
      rcases stores d (List.mem_of_getElem? hi) with rfl | admits
      · rfl
      · obtain ⟨value, rfl⟩ := admits.eq_scalar
        simp [hi] at h
  | fixedSizeList p pos le => exact Datum.nullAt_maskOf.mp h
  | list item => exact Datum.nullAt_maskOf.mp h
  | struct ne each => exact Datum.nullAt_maskOf.mp h
  | @union variants isRequired each =>
    have others : Column.anyMayHoldNull (Field.variantColumns 1 variants data) = false :=
      anyMayHoldNull_variantColumns (fun f hf r data => mayHoldNull_columnOf (each f hf) r)
        isRequired stores.variants
    cases hi : data[i]? with
    | none => simp [union, columnOf, Column.nullAt, hi] at h
    | some d =>
      by_cases htag : d.tag = 0
      · rw [stores.eq_null (List.mem_of_getElem? hi) htag]
      · have tag : (data.map Datum.tag)[i]? = some d.tag := by rw [List.getElem?_map, hi]; rfl
        simp only [union, columnOf, Column.nullAt, List.getElem?_toArray, tag,
          getElem?_places tag] at h
        split at h
        · next k hk =>
          obtain ⟨j, rfl⟩ : ∃ j, k = j + 1 :=
            Nat.exists_eq_succ_of_ne_zero (eq_of_fieldIndex?_range hk ▸ htag)
          rw [Field.variantColumns, Column.childNullAt,
            Column.childNullAt_eq_false _ _ _ others] at h
          cases h
        · cases h

/-- A null slot of the column is null, unless flat values are required there. -/
theorem nullAt_columnOf_of_null (regular : type.Regular)
    (optional : ∀ p, type = .leaf p → required = false) {i : Nat} (h : data[i]? = some .null) :
    (type.columnOf required data).nullAt i = true := by
  cases regular with
  | leaf p =>
    rw [optional p rfl]
    simp [columnOf, Column.nullAt, h, Builder.blankOf]
  | fixedSizeList p pos le => exact Datum.nullAt_maskOf.mpr h
  | list item => exact Datum.nullAt_maskOf.mpr h
  | struct ne each => exact Datum.nullAt_maskOf.mpr h
  | @union variants isRequired each =>
    have tag : (data.map Datum.tag)[i]? = some 0 := by rw [List.getElem?_map, h]; rfl
    have marker : ((data.map Datum.tag).take i).count 0 < (Datum.contents 0 data).length := by
      rw [Datum.length_contents]
      exact count_take_lt tag
    simp only [union, columnOf, Column.nullAt, List.getElem?_toArray, tag, getElem?_places tag,
      fieldIndex?_range (Nat.succ_pos variants.length)]
    exact decide_eq_true marker

end DataType

namespace Builder

/-! ## Finishing the parts -/

variable {type : DataType} {fields : List Field} {required : Bool} {data : List Datum}

/-- Whether parts are put together to the given result, or refused for a builder that is not
bounded. -/
def Settles {α : Type} (bounded : Prop) (result : Except LogError α) (a : α) : Prop :=
  result = .ok a ∨ (∃ text, result = .error (.columnFailure text)) ∧ ¬ bounded

theorem Settles.ok {α : Type} {bounded : Prop} {a : α} : Settles bounded (.ok a) a := .inl rfl

theorem Settles.bind {α β : Type} {bounded bounded' : Prop} {result : Except LogError α} {a : α}
    {k : α → Except LogError β} {b : β} (h : Settles bounded result a) (weaker : bounded' → bounded)
    (hk : Settles bounded' (k a) b) : Settles bounded' (result >>= k) b := by
  rcases h with rfl | ⟨⟨text, rfl⟩, hb⟩
  · exact hk
  · exact .inr ⟨⟨text, rfl⟩, hb ∘ weaker⟩

/-- What finishing does to a builder that holds slots of the type. -/
def Finishes (type : DataType) : Prop :=
  ∀ (required : Bool) (data : List Datum), type.Stores data →
    Settles (holding required type data).Bounded (finish (holding required type data))
      (type.columnOf required data)

theorem settles_finishField {f : Field} (h : Finishes f.type) (stores : f.type.Stores data) :
    Settles (holdingField f data).Bounded (finish (holdingField f data)) (f.columnOf data) := by
  rw [holdingField_eq, Field.columnOf_eq]
  exact h _ data stores

theorem settles_finishParts (h : ∀ f ∈ fields, Finishes f.type) (rows : List (List Datum))
    (stores : Field.StoresEach fields rows) :
    Settles (BoundedEach (holdingParts fields rows)) (finishEach (holdingParts fields rows))
      (Field.partColumns fields rows) := by
  induction fields generalizing rows with
  | nil => exact .ok
  | cons f fs ih =>
    rw [holdingParts, finishEach]
    refine (settles_finishField (h f List.mem_cons_self) stores.head).bind And.left ?_
    refine (ih (fun g hg => h g (List.mem_cons_of_mem f hg)) _ stores.tail).bind And.right ?_
    exact .ok

theorem settles_finishVariants (h : ∀ f ∈ fields, Finishes f.type) (id : Nat)
    (stores : Field.StoresFrom id fields data) :
    Settles (BoundedVariants (holdingVariants id fields data))
      (finishEach (holdingVariants id fields data)) (Field.variantColumns id fields data) := by
  induction fields generalizing id with
  | nil => exact .ok
  | cons f fs ih =>
    rw [holdingVariants, finishEach]
    refine (settles_finishField (h f List.mem_cons_self)
      (.of_allows fun d hd => stores.head hd)).bind (fun hb => hb.1.2) ?_
    refine (ih (fun g hg => h g (List.mem_cons_of_mem f hg)) _ stores.tail).bind And.right ?_
    exact .ok

/-! ## Putting the parts together -/

theorem fixedSizeList?_columnOf (p : Primitive) {size : Nat} (pos : 0 < size)
    (stores : (DataType.fixedSizeList (.item (.leaf p)) size).Stores data) :
    Column.fixedSizeList? (.item (.leaf p)) size (data.map Datum.present).toArray
        (Field.columnOf (.item (.leaf p)) (data.flatMap (Datum.entryItems size))) =
      .ok ((DataType.fixedSizeList (.item (.leaf p)) size).columnOf required data) := by
  have count : (Field.columnOf (.item (.leaf p)) (data.flatMap (Datum.entryItems size))).length /
      size = data.length := by
    rw [Field.columnOf_eq, DataType.length_columnOf, stores.length_flatMap_entryItems,
      Nat.mul_div_cancel _ pos]
  have mask : Mask.ofRecorded (data.map Datum.present).toArray data.length = Datum.maskOf data := by
    simp [Datum.maskOf, Mask.ofSlots]
  have nulls : (Field.columnOf (.item (.leaf p))
      (data.flatMap (Datum.entryItems size))).mayHoldNull = false :=
    DataType.mayHoldNull_columnOf_leaf p _
  have checked (masked : Nat → Bool) : (Field.columnOf (.item (.leaf p))
      (data.flatMap (Datum.entryItems size))).nullsMasked masked = true := by
    rw [Column.nullsMasked, nulls]
    rfl
  simp only [Column.fixedSizeList?, if_neg (Nat.ne_of_gt pos), count, mask, checked]
  simp [Field.item, Field.required, DataType.columnOf, Column.type]

theorem list?_columnOf {type : DataType} (regular : type.Regular)
    (stores : (DataType.list (.item type)).Stores data) :
    Column.list? (.item type) (bounds (data.map fun d => d.listItems.length)).toArray
        (data.map Datum.present).toArray
        (Field.columnOf (.item type) (data.flatMap Datum.listItems)) =
      .ok ((DataType.list (.item type)).columnOf required data) := by
  have nulls :
      (Field.columnOf (.item type) (data.flatMap Datum.listItems)).mayHoldNull = false := by
    rw [Field.columnOf_eq]
    exact DataType.mayHoldNull_columnOf regular _ fun d hd => (stores.listItems hd).admits rfl
  have last : (bounds (data.map fun d => d.listItems.length)).toArray.back?.getD 0 =
      (Field.columnOf (.item type) (data.flatMap Datum.listItems)).length := by
    simp [getLast?_bounds, List.length_flatMap]
  simp only [Column.list?, last, nulls, Nat.lt_irrefl]
  simp [Field.item, Field.required, DataType.columnOf, Datum.maskOf]

theorem fitsField_columnOf {f : Field} (regular : f.type.Regular) {mask : Mask}
    (stores : f.type.Stores data) (size : data.length = mask.size)
    (masked : ∀ i, data[i]? = some .null → f.nullable = true ∨ mask.nullAt i = true) :
    Column.fitsField mask f (f.columnOf data) = true := by
  have nulls : f.nullable = true ∨ (f.columnOf data).nullsMasked mask.nullAt = true := by
    by_cases hf : f.nullable = true
    · exact .inl hf
    · refine .inr ((Column.nullsMasked_iff _ _).mpr fun i _ null => ?_)
      rw [Field.columnOf_eq] at null
      exact (masked i (DataType.eq_null_of_nullAt_columnOf regular stores null)).resolve_left hf
  rw [Field.columnOf_eq] at nulls
  simpa [Column.fitsField, size] using nulls

theorem fitsFields_columnOf (regular : ∀ f ∈ fields, f.type.Regular) {mask : Mask}
    {rows : List (List Datum)} (stores : Field.StoresEach fields rows)
    (size : rows.length = mask.size)
    (masked : ∀ i row, rows[i]? = some row → mask.nullAt i = true ∨ Field.AllowsEach fields row) :
    (List.zipWith (Column.fitsField mask) fields
      (Field.partColumns fields rows)).all id = true := by
  induction fields generalizing rows with
  | nil => rfl
  | cons f fs ih =>
    have head : Column.fitsField mask f (f.columnOf (rows.map (·.headD .null))) = true := by
      refine fitsField_columnOf (regular f List.mem_cons_self) stores.head (by simpa using size) ?_
      intro i hi
      obtain ⟨row, hrow, null⟩ := Option.map_eq_some_iff.mp (List.getElem?_map .. ▸ hi)
      rcases masked i row hrow with masked | allows
      · exact .inr masked
      · obtain ⟨d, row, rfl, allows, -⟩ := allows.eq_cons
        rw [show d = .null from null] at allows
        exact .inl allows.nullable
    have tail := ih (fun g hg => regular g (List.mem_cons_of_mem f hg)) stores.tail
      (by simpa using size) fun i rest hrest => by
        obtain ⟨row, hrow, rfl⟩ := Option.map_eq_some_iff.mp (List.getElem?_map .. ▸ hrest)
        refine (masked i row hrow).imp_right fun allows => ?_
        obtain ⟨d, row, rfl, -, rest⟩ := allows.eq_cons
        exact rest
    rw [Field.partColumns, List.zipWith_cons_cons, List.all_cons, head, tail]
    rfl

theorem struct?_columnOf (ne : fields ≠ []) (regular : ∀ f ∈ fields, f.type.Regular)
    (stores : (DataType.struct fields).Stores data) :
    Column.struct? fields (data.map Datum.present).toArray
        (Field.partColumns fields (data.map Datum.parts)) =
      .ok ((DataType.struct fields).columnOf required data) := by
  have count : ((Field.partColumns fields (data.map Datum.parts)).head?.map Column.length).getD 0 =
      data.length := by
    cases fields with
    | nil => exact absurd rfl ne
    | cons f fs => simp [Field.partColumns]
  have mask : Mask.ofRecorded (data.map Datum.present).toArray data.length = Datum.maskOf data := by
    simp [Datum.maskOf, Mask.ofSlots]
  have fits : (List.zipWith (Column.fitsField (Datum.maskOf data)) fields
      (Field.partColumns fields (data.map Datum.parts))).all id = true := by
    refine fitsFields_columnOf regular stores.parts (by simp) fun i row hrow => ?_
    obtain ⟨d, hd, rfl⟩ := Option.map_eq_some_iff.mp (List.getElem?_map .. ▸ hrow)
    rcases stores d (List.mem_of_getElem? hd) with rfl | admits
    · exact .inl (Datum.nullAt_maskOf.mpr hd)
    · exact .inr admits.parts
  simp only [Column.struct?, count, mask, fits, DataType.length_partColumns]
  simp [DataType.columnOf]

theorem length_contents_le {id : Nat} (h : BoundedVariants (holdingVariants id fields data))
    {k : Nat} (hk : k < fields.length) :
    (Datum.contents (id + k) data).length ≤ Size.largestOffset := by
  induction fields generalizing id k with
  | nil => cases hk
  | cons f fs ih =>
    cases k with
    | zero => simpa using h.1.1
    | succ k =>
      have tail := ih h.2 (Nat.lt_of_succ_lt_succ hk)
      rwa [Nat.add_right_comm] at tail

theorem pointsInside_columnOf
    (bounded : ∀ k < fields.length, (Datum.contents k data).length ≤ Size.largestOffset)
    {i : Nat} {d : Datum} (hd : data[i]? = some d) (htag : d.tag < fields.length) :
    Column.pointsInside (List.range fields.length) (Field.variantColumns 0 fields data) d.tag
      (((data.map Datum.tag).take i).count d.tag) = true := by
  have child : (Field.variantColumns 0 fields data)[d.tag]? =
      some (fields[d.tag].columnOf (Datum.contents d.tag data)) := by
    rw [DataType.getElem?_variantColumns, Nat.zero_add, List.getElem?_eq_getElem htag,
      Option.map_some]
  have inside : ((data.map Datum.tag).take i).count d.tag < (Datum.contents d.tag data).length := by
    rw [Datum.length_contents]
    exact count_take_lt (by simp [hd])
  simp only [Column.pointsInside, DataType.fieldIndex?_range htag, child, Field.columnOf_eq,
    DataType.length_columnOf, Size.signed32_eq_of_le (bounded d.tag htag)]
  exact decide_eq_true (Int.ofNat_lt.mpr inside)

theorem tag_lt_of_stores (stores : (DataType.union fields).Stores data) {d : Datum}
    (hd : d ∈ data) :
    d.tag < fields.length + 1 := by
  by_cases htag : d.tag = 0
  · omega
  · obtain ⟨f, hf, -⟩ := (Field.allowsAt_iff _ _ _).mp (stores.variants d hd (by omega))
    have := (List.getElem?_eq_some_iff.mp hf).1
    omega

theorem pointInside_columnOf (stores : (DataType.union fields).Stores data)
    (bounded : (holding required (.union fields) data).Bounded) :
    (List.zipWith
      (Column.pointsInside (List.range (fields.length + 1))
        (Field.variantColumns 0 (DataType.nullMarkers :: fields) data))
      (data.map Datum.tag) (places (data.map Datum.tag))).all id = true := by
  obtain ⟨markers, variants⟩ := bounded
  rw [UnionSlots.used_recorded _ _ (Nat.zero_le _), ← Datum.length_contents] at markers
  have short : ∀ k < (DataType.nullMarkers :: fields).length,
      (Datum.contents k data).length ≤ Size.largestOffset := by
    intro k hk
    cases k with
    | zero => exact markers
    | succ k =>
      rw [Nat.add_comm k 1]
      exact length_contents_le variants (Nat.lt_of_succ_lt_succ hk)
  rw [List.all_eq_true]
  intro ok hok
  obtain ⟨i, hi, rfl⟩ := List.getElem_of_mem hok
  have hi' : i < data.length := by simpa using hi
  have at_i : data[i]? = some data[i] := List.getElem?_eq_getElem hi'
  have place : (places (data.map Datum.tag))[i]? =
      some (((data.map Datum.tag).take i).count data[i].tag) :=
    getElem?_places (by rw [List.getElem?_map, at_i, Option.map_some])
  rw [List.getElem_zipWith, List.getElem_map, (List.getElem?_eq_some_iff.mp place).2]
  exact pointsInside_columnOf short at_i
    (tag_lt_of_stores stores (List.mem_of_getElem? at_i))

theorem settles_denseUnion? (stores : (DataType.union fields).Stores data) :
    Settles (holding required (.union fields) data).Bounded
      (settle (Column.denseUnion? (List.range (fields.length + 1)) (DataType.nullMarkers :: fields)
        (data.map Datum.tag).toArray (places (data.map Datum.tag)).toArray
        (Field.variantColumns 0 (DataType.nullMarkers :: fields) data)))
      ((DataType.union fields).columnOf required data) := by
  simp only [Column.denseUnion?, DataType.length_variantColumns, List.size_toArray, List.length_map,
    length_places, ne_eq, not_true, if_false]
  split
  · next outside =>
    refine .inr ⟨⟨_, rfl⟩, fun bounded => ?_⟩
    have inside := pointInside_columnOf stores bounded
    simp [inside] at outside
  · exact .ok

/-! ## Finishing the whole -/

/-- **A builder finishes into the column of the slots it holds**, or was not bounded. -/
theorem finishes_of_regular (h : type.Regular) : Finishes type := by
  induction h with
  | leaf p => exact fun required data stores => .ok
  | @fixedSizeList p size pos le =>
    intro required data stores
    have items : Finishes (.leaf p) := fun required data stores => .ok
    show Settles _ (if Size.largestOffset < size then _ else _) _
    rw [if_neg (Nat.not_lt_of_le le)]
    refine (settles_finishField (f := .item (.leaf p)) items stores.entryItems).bind id ?_
    rw [fixedSizeList?_columnOf p pos stores]
    exact .ok
  | @list item regular ih =>
    intro required data stores
    refine (settles_finishField (f := .item item) ih
      (.of_allows fun d hd => stores.listItems hd)).bind And.right ?_
    rw [list?_columnOf regular stores]
    exact .ok
  | @struct fields ne each ih =>
    intro required data stores
    refine (settles_finishParts ih _ stores.parts).bind id ?_
    rw [struct?_columnOf ne each stores]
    exact .ok
  | @union variants isRequired each ih =>
    intro required data stores
    refine (settles_finishVariants ih 1 stores.variants).bind And.right ?_
    have markers : (UnionSlots.recorded (List.range (variants.length + 1))
        (data.map Datum.tag)).used 0 = (Datum.contents 0 data).length := by
      rw [UnionSlots.used_recorded _ _ (Nat.zero_le _), Datum.length_contents]
    rw [markers]
    exact settles_denseUnion? stores

/-- A bounded builder finishes. -/
theorem finish_holding (h : type.Regular) (stores : type.Stores data)
    (bounded : (holding required type data).Bounded) :
    finish (holding required type data) = .ok (type.columnOf required data) :=
  (finishes_of_regular h required data stores).resolve_right fun refused => refused.2 bounded

/-- Whatever a builder finishes into is the column of the slots it holds. -/
theorem eq_columnOf_of_finish (h : type.Regular) (stores : type.Stores data) {c : Column}
    (ok : finish (holding required type data) = .ok c) : c = type.columnOf required data := by
  rcases finishes_of_regular h required data stores with ok' | ⟨⟨text, error⟩, -⟩
  · rw [ok] at ok'
    cases ok'
    rfl
  · rw [ok] at error
    cases error

end Builder
end ColumnLog
