import ColumnLog.Proofs.Levels
import ColumnLog.Proofs.Library
import Mathlib.Data.List.Induction

/-!
# Finished columns are dense

A finished column has no gaps and carries nothing that no slot refers to, at any level.

* `Column.Dense` says it of one level: lengths of children, zeros under null entries, offsets that
  start at zero and end at the last item, places of a union that count up.
* `Column.Dense.existsUnique_owner`: every item of a child then belongs to exactly one slot.
* `LibraryType.levels_dense` is the result, for every loggable type.
-/

set_option autoImplicit false

namespace ColumnLog

/-! ## Dense levels -/

namespace Column

/-- Whether place `j` of a column of flat values holds the zero of its type. -/
def ZeroAt : Column → Nat → Prop
  | leaf p slots, j => slots[j]? = some (some p.zero)
  | _, _ => False

/-- The places of the slots that have the given id, in the order of the slots. -/
def placesOf (typeIds offsets : Array Nat) (id : Nat) : List Nat :=
  ((typeIds.toList.zip offsets.toList).filter fun slot => slot.1 == id).map Prod.snd

/-- Entries of a fixed size have their items, and zeros where they are null. -/
structure FixedSizeListDense (size : Nat) (mask : Mask) (items : Column) : Prop where
  length_items : items.length = mask.size * size
  zeroAt : ∀ i j, mask.nullAt i = true → j < size → items.ZeroAt (i * size + j)

/-- Entries follow each other from the first item to the last; null ones are empty. -/
structure ListDense (offsets : Array Nat) (mask : Mask) (items : Column) : Prop where
  size_offsets : offsets.size = mask.size + 1
  first : offsets[0]? = some 0
  last : offsets[mask.size]? = some items.length
  le : ∀ i lo hi, offsets[i]? = some lo → offsets[i + 1]? = some hi → lo ≤ hi
  eq_of_nullAt : ∀ i lo hi, mask.nullAt i = true → offsets[i]? = some lo →
    offsets[i + 1]? = some hi → hi = lo

/-- The slots with one id take the places of its child one after the other, and the first child has
a marker for each null slot. -/
structure UnionDense (ids : List Nat) (fields : List Field) (typeIds offsets : Array Nat)
    (children : List Column) : Prop where
  ids_eq : ids = List.range children.length
  size_offsets : offsets.size = typeIds.size
  lt_length : ∀ id ∈ typeIds, id < children.length
  placesOf_eq : ∀ (id : Nat) (c : Column), children[id]? = some c →
    placesOf typeIds offsets id = List.range c.length
  markers : children[0]? = some (.null (typeIds.toList.count 0))
  nullAt_iff : ∀ i, (denseUnion ids fields typeIds offsets children).nullAt i = true ↔
    typeIds[i]? = some 0

/-- Whether the children hold what the slots refer to, and nothing else. -/
def Dense : Column → Prop
  | fixedSizeList _ size mask items => FixedSizeListDense size mask items
  | list _ offsets mask items => ListDense offsets mask items
  | struct _ mask children => ∀ c ∈ children, c.length = mask.size
  | denseUnion ids fields typeIds offsets children => UnionDense ids fields typeIds offsets children
  | _ => True

end Column

/-! ## The column of some slots is dense -/

theorem filter_zip_places (tags : List Nat) (t : Nat) :
    (((tags.zip (places tags)).filter fun slot => slot.1 == t).map Prod.snd) =
      List.range (tags.count t) := by
  induction tags using List.reverseRecOn with
  | nil => rfl
  | append_singleton tags s ih =>
    rw [places_append_singleton, List.zip_append (length_places tags).symm, List.filter_append,
      List.map_append, ih, List.count_append]
    by_cases h : s = t
    · subst h
      simp [List.range_succ]
    · simp [h]

namespace DataType

variable {type : DataType} {required : Bool} {data : List Datum}

theorem fixedSizeListDense_columnOf (p : Primitive) {size : Nat}
    (stores : (fixedSizeList (.item (.leaf p)) size).Stores data) :
    ((fixedSizeList (.item (.leaf p)) size).columnOf required data).Dense := by
  refine Column.FixedSizeListDense.mk ?_ fun i j null hj => ?_
  · rw [Field.columnOf_eq, length_columnOf, stores.length_flatMap_entryItems, Datum.size_maskOf]
  · have blank : (data.flatMap (Datum.entryItems size))[i * size + j]? = some .null := by
      rw [stores.getElem?_entryItems (Datum.nullAt_maskOf.mp null) hj, Datum.entryItems_null,
        List.getElem?_replicate, if_pos hj]
    simp [Field.columnOf_eq, Field.item, Field.required, columnOf, Column.ZeroAt, blank,
      Builder.blankOf]

theorem listDense_columnOf {f : Field} : ((list f).columnOf required data).Dense := by
  refine Column.ListDense.mk (by simp) ?_ ?_ ?_ ?_
  · rw [List.getElem?_toArray, getElem?_bounds (Nat.zero_le _)]
    rfl
  · rw [List.getElem?_toArray, getElem?_bounds (by simp), List.take_of_length_le (by simp),
      Field.columnOf_eq, length_columnOf, List.length_flatMap]
  · intro i lo hi hlo hhi
    obtain ⟨d, -, -, rfl⟩ := entry_of_getElem?_bounds (by simpa using hlo) (by simpa using hhi)
    exact Nat.le_add_right _ _
  · intro i lo hi null hlo hhi
    obtain ⟨d, hd, -, rfl⟩ := entry_of_getElem?_bounds (by simpa using hlo) (by simpa using hhi)
    rw [Datum.nullAt_maskOf.mp null] at hd
    cases hd
    rfl

theorem structDense_columnOf {fields : List Field} :
    ((struct fields).columnOf required data).Dense := by
  intro c hc
  obtain ⟨k, hk⟩ := List.getElem?_of_mem hc
  have child := getElem?_children_columnOf required (struct fields) data k
  rw [show ((struct fields).columnOf required data).children[k]? = some c from hk] at child
  obtain ⟨f, -, rfl⟩ := Option.map_eq_some_iff.mp child.symm
  rw [Field.columnOf_eq, length_columnOf, Datum.size_maskOf]
  exact List.length_map _

theorem unionDense_columnOf {variants : List Field}
    (regular : (union variants).Regular) (stores : (union variants).Stores data) :
    ((union variants).columnOf required data).Dense := by
  refine Column.UnionDense.mk ?_ (by simp) ?_ ?_ ?_ ?_
  · rw [length_variantColumns]
    rfl
  · intro id hid
    obtain ⟨d, hd, rfl⟩ := List.mem_map.mp (List.mem_toArray.mp hid)
    rw [length_variantColumns]
    exact Builder.tag_lt_of_stores stores hd
  · intro id c hc
    rw [getElem?_variantColumns, Nat.zero_add] at hc
    obtain ⟨f, -, rfl⟩ := Option.map_eq_some_iff.mp hc
    rw [Field.columnOf_eq, length_columnOf, Datum.length_contents]
    exact filter_zip_places (data.map Datum.tag) id
  · rw [getElem?_variantColumns, List.getElem?_cons_zero, Option.map_some, ← Datum.length_contents]
    rfl
  · intro i
    show ((union variants).columnOf required data).nullAt i = true ↔ _
    rw [List.getElem?_toArray, List.getElem?_map]
    constructor
    · intro null
      rw [eq_null_of_nullAt_columnOf regular stores null]
      rfl
    · intro tag
      obtain ⟨d, hd, tag⟩ := Option.map_eq_some_iff.mp tag
      rw [stores.eq_null (List.mem_of_getElem? hd) tag] at hd
      exact nullAt_columnOf_of_null regular nofun hd

end DataType

/-- Every level of a column of data is dense. -/
theorem Column.Made.dense {c : Column} (h : c.Made) : c.Dense := by
  obtain ⟨type, required, data, regular, stores, rfl⟩ := h
  rcases regular with regular | rfl
  · cases regular with
    | leaf p => trivial
    | fixedSizeList p pos le => exact DataType.fixedSizeListDense_columnOf p stores
    | list item => exact DataType.listDense_columnOf
    | struct ne each => exact DataType.structDense_columnOf
    | union isRequired each =>
      exact DataType.unionDense_columnOf (.union isRequired each) stores
  · trivial

/-! ## Every item belongs to one slot -/

theorem exists_step {o : Nat → Nat} {j n : Nat} (first : o 0 ≤ j) (last : j < o n) :
    ∃ i < n, o i ≤ j ∧ j < o (i + 1) := by
  induction n with
  | zero => exact absurd last (Nat.not_lt_of_le first)
  | succ n ih =>
    by_cases h : j < o n
    · obtain ⟨i, hi, step⟩ := ih h
      exact ⟨i, Nat.lt_succ_of_lt hi, step⟩
    · exact ⟨n, Nat.lt_succ_self n, Nat.le_of_not_lt h, last⟩

theorem le_of_steps {o : Nat → Nat} {n : Nat} (step : ∀ i < n, o i ≤ o (i + 1)) {a b : Nat}
    (hab : a ≤ b) (hb : b ≤ n) : o a ≤ o b := by
  induction hab with
  | refl => exact Nat.le_refl _
  | @step b hab ih => exact Nat.le_trans (ih (Nat.le_of_succ_le hb)) (step b hb)

theorem eq_of_nodup_filter {α β : Type} {xs : List α} {p : α → Bool} {f : α → β}
    (once : ((xs.filter p).map f).Nodup) {i j : Nat} {a b : α} (hi : xs[i]? = some a)
    (hj : xs[j]? = some b) (ha : p a = true) (hb : p b = true) (same : f a = f b) : i = j := by
  rw [List.Nodup, List.pairwise_map, List.pairwise_filter] at once
  have apart := List.pairwise_iff_getElem.mp once
  obtain ⟨len, rfl⟩ := List.getElem?_eq_some_iff.mp hi
  obtain ⟨len', rfl⟩ := List.getElem?_eq_some_iff.mp hj
  rcases Nat.lt_trichotomy i j with lt | eq | gt
  · exact absurd same (apart i j len len' lt ha hb)
  · exact eq
  · exact absurd same.symm (apart j i len' len gt hb ha)

namespace Column

theorem FixedSizeListDense.existsUnique_owner {size : Nat} {mask : Mask} {items : Column}
    (h : FixedSizeListDense size mask items) {j : Nat} (hj : j < items.length) :
    ∃! i, i < mask.size ∧ i * size ≤ j ∧ j < (i + 1) * size := by
  rw [h.length_items] at hj
  have pos : 0 < size := Nat.pos_of_mul_pos_left (Nat.zero_lt_of_lt hj)
  refine ⟨j / size, ⟨?_, ?_, ?_⟩, ?_⟩
  · exact (Nat.div_lt_iff_lt_mul pos).mpr hj
  · exact Nat.div_mul_le_self j size
  · exact (Nat.div_lt_iff_lt_mul pos).mp (Nat.lt_succ_self _)
  · rintro i ⟨-, lo, hi⟩
    have lo : i ≤ j / size := (Nat.le_div_iff_mul_le pos).mpr lo
    have hi : j / size < i + 1 := (Nat.div_lt_iff_lt_mul pos).mpr hi
    omega

theorem ListDense.existsUnique_owner {offsets : Array Nat} {mask : Mask} {items : Column}
    (h : ListDense offsets mask items) {j : Nat} (hj : j < items.length) :
    ∃! i, ∃ lo hi, offsets[i]? = some lo ∧ offsets[i + 1]? = some hi ∧ lo ≤ j ∧ j < hi := by
  let o (i : Nat) : Nat := offsets[i]?.getD 0
  have at_o {i : Nat} (hi : i < mask.size + 1) : offsets[i]? = some (o i) := by
    rw [← h.size_offsets] at hi
    simp [o, hi]
  have of_some {i n : Nat} (hi : offsets[i]? = some n) : i < mask.size + 1 ∧ o i = n := by
    refine ⟨h.size_offsets ▸ (Array.getElem?_eq_some_iff.mp hi).1, ?_⟩
    simp [o, hi]
  have step : ∀ i < mask.size, o i ≤ o (i + 1) := fun i hi =>
    h.le i _ _ (at_o (Nat.lt_succ_of_lt hi)) (at_o (Nat.succ_lt_succ hi))
  have first : o 0 ≤ j := by simp [o, h.first]
  have last : j < o mask.size := by simpa [o, h.last] using hj
  obtain ⟨i, hi, lo, hi'⟩ := exists_step first last
  refine ⟨i, ⟨_, _, at_o (Nat.lt_succ_of_lt hi), at_o (Nat.succ_lt_succ hi), lo, hi'⟩, ?_⟩
  rintro k ⟨start, stop, hlo, hhi, klo, khi⟩
  obtain ⟨-, rfl⟩ := of_some hlo
  obtain ⟨hk, rfl⟩ := of_some hhi
  -- An entry that ends before another one begins cannot share an item with it.
  by_contra ne
  rcases Nat.lt_or_gt_of_ne ne with lt | gt
  · have later : o (k + 1) ≤ o i := le_of_steps step lt (Nat.le_of_lt hi)
    omega
  · have later : o (i + 1) ≤ o k := le_of_steps step gt (by omega)
    omega

theorem UnionDense.existsUnique_owner {ids : List Nat} {fields : List Field}
    {typeIds offsets : Array Nat} {children : List Column}
    (h : UnionDense ids fields typeIds offsets children) {k : Nat} {c : Column}
    (hc : children[k]? = some c) {j : Nat} (hj : j < c.length) :
    ∃! i : Nat, ∃ id, typeIds[i]? = some id ∧ ids[k]? = some id ∧ offsets[i]? = some j := by
  have hk : k < children.length := (List.getElem?_eq_some_iff.mp hc).1
  have id : ids[k]? = some k := by rw [h.ids_eq, List.getElem?_range hk]
  have places := h.placesOf_eq k c hc
  have slot {i : Nat} {s : Nat × Nat} :
      (typeIds.toList.zip offsets.toList)[i]? = some s ↔
        typeIds[i]? = some s.1 ∧ offsets[i]? = some s.2 := by
    simp [List.getElem?_zip_eq_some]
  have mem : j ∈ placesOf typeIds offsets k := by rw [places]; exact List.mem_range.mpr hj
  obtain ⟨s, hs, rfl⟩ := List.mem_map.mp mem
  obtain ⟨hs, same⟩ := List.mem_filter.mp hs
  obtain ⟨i, hi⟩ := List.getElem?_of_mem hs
  obtain ⟨hid, hoffset⟩ := slot.mp hi
  have same : s.1 = k := beq_iff_eq.mp same
  refine ⟨i, ⟨_, hid, by rw [same]; exact id, hoffset⟩, ?_⟩
  rintro i' ⟨id', hid', hk', hoffset'⟩
  rw [id] at hk'
  cases hk'
  have hi' : (typeIds.toList.zip offsets.toList)[i']? = some (k, s.2) :=
    slot.mpr ⟨hid', hoffset'⟩
  -- No place of a child is taken twice, so two slots with one id and one place are one slot.
  have once : (placesOf typeIds offsets k).Nodup := places ▸ List.nodup_range
  exact eq_of_nodup_filter once hi' hi (beq_self_eq_true _) (beq_iff_eq.mpr same) rfl

/-- In a dense level every item of a child belongs to exactly one slot. -/
theorem Dense.existsUnique_owner {d : Column} (h : d.Dense) {k : Nat} {c : Column}
    (hc : d.children[k]? = some c) {j : Nat} (hj : j < c.length) : ∃! i, d.Owns k i j := by
  cases d with
  | null count => cases hc
  | leaf p slots => cases hc
  | fixedSizeList item size mask items =>
    rw [List.mem_singleton.mp (List.mem_of_getElem? hc)] at hj
    exact FixedSizeListDense.existsUnique_owner h hj
  | list item offsets mask items =>
    rw [List.mem_singleton.mp (List.mem_of_getElem? hc)] at hj
    exact ListDense.existsUnique_owner h hj
  | struct fields mask children =>
    rw [h c (List.mem_of_getElem? hc)] at hj
    exact ⟨j, ⟨hj, rfl⟩, fun i hi => hi.2.symm⟩
  | denseUnion ids fields typeIds offsets children =>
    exact UnionDense.existsUnique_owner h hc hj

end Column

/-! ## Runs -/

/-- **Finished columns are dense.**  For every loggable type, a run of accepted values and null
slots on a fresh builder finishes into a column all of whose levels are dense, so that every item of
a child belongs to exactly one slot. -/
theorem LibraryType.levels_dense (t : LibraryType) (capacity : Nat)
    (values : List (Option t.Value)) (accepted : ∀ a, some a ∈ values → Readable.Accepts a)
    (bounded : ((Loggable.newBuilder t.Value capacity).run (Loggable.steps values)).Bounded) :
    ∃ c, ((Loggable.newBuilder t.Value capacity).run (Loggable.steps values)).finish = .ok c ∧
      c.length = values.length ∧
      ∀ d, c.Level d → d.Dense ∧
        ∀ k e j, d.children[k]? = some e → j < e.length → ∃! i, d.Owns k i j := by
  refine ⟨_, Readable.finish_run_newBuilder bounded, ?_, fun d level => ?_⟩
  · rw [DataType.length_columnOf, Readable.slotsOf_steps accepted, List.length_map]
  · have made : d.Made := (Column.Made.of_columnOf false Readable.regular
      (Builder.stores_slotsOf (Readable.fitting_steps values))).level level
    exact ⟨made.dense, fun k e j hk hj => made.dense.existsUnique_owner hk hj⟩

theorem LibraryType.levels_dense_tensors :
    let image : TensorData := .ofSizes [2, 1] ⟨.u8, .borrowed [7, 8]⟩
    let photo : TensorData := .ofSizes [640, 480] ⟨.jpeg, .owned [255]⟩
    ∃ c, ((Loggable.newBuilder TensorData 0).run
        (Loggable.steps [some image, none, some photo])).finish = .ok c ∧
      ∀ d, c.Level d → d.Dense := by
  intro image photo
  have consistent : image.Consistent ∧ photo.Consistent :=
    ⟨⟨rfl, rfl, 2, rfl, .inr rfl⟩, ⟨rfl, rfl, 307200, rfl, .inl rfl⟩⟩
  have accepted : ∀ a, some a ∈ [some image, none, some photo] → a.Consistent := by
    intro a mem
    simp only [List.mem_cons, Option.some.injEq, reduceCtorEq, List.not_mem_nil, or_false,
      false_or] at mem
    rcases mem with rfl | rfl
    · exact consistent.1
    · exact consistent.2
  obtain ⟨c, finished, -, levels⟩ := levels_dense .tensorData 0 _ accepted (by decide)
  exact ⟨c, finished, fun d level => (levels d level).1⟩

end ColumnLog
