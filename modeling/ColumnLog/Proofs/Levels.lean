import ColumnLog.Proofs.Finish

/-!
# The levels of a column

A column is taken apart level by level: its children, the fields they stand for, and the items of a
child that belong to a slot.

* `Column.Level` are the columns below a column, itself included, and `Column.Owns` tells which
  items of a child belong to which slot.
* `DataType.childSlots` are the slots of a child, as data: `DataType.getElem?_children_columnOf`.
* `Column.Made` holds of the columns of data, and with a column of all its levels
  (`Column.Made.level`).
-/

set_option autoImplicit false

namespace ColumnLog

/-! ## Entries in one row of items -/

theorem getElem?_flatMap_add {α β : Type} (f : α → List β) {xs : List α} {i : Nat} {a : α}
    (h : xs[i]? = some a) {j : Nat} (hj : j < (f a).length) :
    (xs.flatMap f)[((xs.map fun x => (f x).length).take i).sum + j]? = (f a)[j]? := by
  induction xs generalizing i with
  | nil => cases h
  | cons x xs ih =>
    cases i with
    | zero =>
      cases h
      simp [List.getElem?_append_left hj]
    | succ i =>
      rw [List.map_cons, List.take_succ_cons, List.sum_cons, List.flatMap_cons, Nat.add_assoc,
        List.getElem?_append_right (Nat.le_add_right _ _), Nat.add_sub_cancel_left]
      exact ih h

theorem sum_take_succ {lengths : List Nat} {i n : Nat} (h : lengths[i]? = some n) :
    (lengths.take (i + 1)).sum = (lengths.take i).sum + n := by
  rw [List.take_add_one, h, List.sum_append_nat]
  simp

theorem entry_of_getElem?_bounds {data : List Datum} {i lo hi : Nat}
    (hlo : (bounds (data.map fun d => d.listItems.length))[i]? = some lo)
    (hhi : (bounds (data.map fun d => d.listItems.length))[i + 1]? = some hi) :
    ∃ d, data[i]? = some d ∧ lo = ((data.map fun d => d.listItems.length).take i).sum ∧
      hi = lo + d.listItems.length := by
  have len : i < data.length := by simpa using (List.getElem?_eq_some_iff.mp hhi).1
  have entry : (data.map fun d => d.listItems.length)[i]? = some data[i].listItems.length := by
    rw [List.getElem?_map, List.getElem?_eq_getElem len, Option.map_some]
  rw [getElem?_bounds (by simpa using Nat.le_of_lt len)] at hlo
  rw [getElem?_bounds (by simpa using Nat.succ_le_of_lt len), sum_take_succ entry] at hhi
  cases hlo
  cases hhi
  exact ⟨data[i], List.getElem?_eq_getElem len, rfl, rfl⟩

theorem getElem?_contents {data : List Datum} {i : Nat} {d : Datum} (h : data[i]? = some d) :
    (Datum.contents d.tag data)[((data.map Datum.tag).take i).count d.tag]? = some d.content := by
  obtain ⟨hi, rfl⟩ := List.getElem?_eq_some_iff.mp h
  have split : data = data.take i ++ data[i] :: data.drop (i + 1) := by
    rw [← List.drop_eq_getElem_cons hi, List.take_append_drop]
  have before : ((data.map Datum.tag).take i).count data[i].tag =
      (Datum.contents data[i].tag (data.take i)).length := by
    rw [Datum.length_contents, List.map_take]
  have contents : Datum.contents data[i].tag data =
      Datum.contents data[i].tag (data.take i) ++
        data[i].content :: Datum.contents data[i].tag (data.drop (i + 1)) :=
    calc
      _ = Datum.contents data[i].tag (data.take i ++ data[i] :: data.drop (i + 1)) :=
        congrArg _ split
      _ = _ := by rw [Datum.contents_append, Datum.contents_cons, if_pos rfl, List.singleton_append]
  rw [before, contents, List.getElem?_append_right (Nat.le_refl _), Nat.sub_self]
  rfl

theorem DataType.Stores.sum_take_entryItems {f : Field} {size : Nat} {data : List Datum}
    (stores : (DataType.fixedSizeList f size).Stores data) {i : Nat} (hi : i ≤ data.length) :
    ((data.map fun d => (d.entryItems size).length).take i).sum = i * size := by
  rw [List.map_congr_left fun d hd => stores.length_entryItems hd, List.map_const',
    List.take_replicate, List.sum_replicate_nat, Nat.min_eq_left hi]

theorem DataType.Stores.getElem?_entryItems {f : Field} {size : Nat} {data : List Datum}
    (stores : (DataType.fixedSizeList f size).Stores data) {i : Nat} {d : Datum}
    (hd : data[i]? = some d) {j : Nat} (hj : j < size) :
    (data.flatMap (Datum.entryItems size))[i * size + j]? = (d.entryItems size)[j]? := by
  have hi : i < data.length := (List.getElem?_eq_some_iff.mp hd).1
  rw [← stores.sum_take_entryItems (Nat.le_of_lt hi)]
  refine getElem?_flatMap_add (Datum.entryItems size) hd ?_
  rwa [stores.length_entryItems (List.mem_of_getElem? hd)]

/-! ## Children and owners -/

namespace Column

/-- The columns right below. -/
def children : Column → List Column
  | fixedSizeList _ _ _ items => [items]
  | list _ _ _ items => [items]
  | struct _ _ children => children
  | denseUnion _ _ _ _ children => children
  | _ => []

/-- The columns at any depth, the column itself included. -/
inductive Level (c : Column) : Column → Prop where
  | self : Level c c
  | child {d e : Column} (level : Level c d) (mem : e ∈ d.children) : Level c e

/-- Whether slot `i` refers to item `j` of child `k`. -/
def Owns : Column → Nat → Nat → Nat → Prop
  | fixedSizeList _ size mask _, _, i, j => i < mask.size ∧ i * size ≤ j ∧ j < (i + 1) * size
  | list _ offsets _ _, _, i, j =>
    ∃ lo hi, offsets[i]? = some lo ∧ offsets[i + 1]? = some hi ∧ lo ≤ j ∧ j < hi
  | struct _ mask _, _, i, j => i < mask.size ∧ j = i
  | denseUnion ids _ typeIds offsets _, k, i, j =>
    ∃ id, typeIds[i]? = some id ∧ ids[k]? = some id ∧ offsets[i]? = some j
  | _, _, _, _ => False

end Column

namespace DataType

/-- The fields of the columns right below. -/
def fields : DataType → List Field
  | fixedSizeList item _ => [item]
  | list item => [item]
  | struct fields => fields
  | denseUnion _ fields => fields
  | _ => []

/-- The slots of child `k`. -/
def childSlots : DataType → Nat → List Datum → List Datum
  | fixedSizeList _ size, _, data => data.flatMap (Datum.entryItems size)
  | list _, _, data => data.flatMap Datum.listItems
  | struct _, k, data => data.map fun d => d.parts[k]?.getD .null
  | denseUnion _ _, k, data => Datum.contents k data
  | _, _, _ => []

/-! ## The children of the column of some slots -/

variable {type : DataType} {fields : List Field} {f : Field} {required : Bool} {data : List Datum}

theorem getElem?_partColumns (fields : List Field) (rows : List (List Datum)) (k : Nat) :
    (Field.partColumns fields rows)[k]? =
      fields[k]?.map fun f => f.columnOf (rows.map fun row => row[k]?.getD .null) := by
  induction fields generalizing rows k with
  | nil => simp [Field.partColumns]
  | cons f fs ih =>
    cases k with
    | zero =>
      simp [Field.partColumns, List.headD_eq_head?_getD, List.head?_eq_getElem?]
    | succ k => simp [Field.partColumns, ih, Function.comp_def]

/-- A child of the column of some slots is the column of the slots of that child. -/
theorem getElem?_children_columnOf (required : Bool) (type : DataType) (data : List Datum)
    (k : Nat) : (type.columnOf required data).children[k]? =
      type.fields[k]?.map fun f => f.columnOf (type.childSlots k data) := by
  cases type with
  | null => rfl
  | leaf p => rfl
  | fixedSizeList item size => cases k <;> rfl
  | list item => cases k <;> rfl
  | struct fs =>
    show (Field.partColumns fs (data.map Datum.parts))[k]? = _
    rw [getElem?_partColumns, List.map_map]
    rfl
  | denseUnion ids fs =>
    show (Field.variantColumns 0 fs data)[k]? = _
    rw [getElem?_variantColumns, Nat.zero_add]
    rfl

theorem Regular.field (h : type.Regular) {k : Nat} (hf : type.fields[k]? = some f) :
    f.type.Regular ∨ f = nullMarkers := by
  have mem : f ∈ type.fields := List.mem_of_getElem? hf
  cases h with
  | leaf p => cases mem
  | fixedSizeList p pos le =>
    rw [List.mem_singleton.mp mem]
    exact .inl (.leaf p)
  | list item =>
    rw [List.mem_singleton.mp mem]
    exact .inl item
  | struct ne each => exact .inl (each f mem)
  | union isRequired each =>
    rcases List.mem_cons.mp mem with rfl | mem
    · exact .inr rfl
    · exact .inl (each f mem)

theorem getElem?_of_allowsEach {parts : List Datum} (h : Field.AllowsEach fields parts) {k : Nat}
    (hf : fields[k]? = some f) : ∃ d, parts[k]? = some d ∧ f.Allows d := by
  induction fields generalizing parts k with
  | nil => cases hf
  | cons g fs ih =>
    obtain ⟨d, parts, rfl, allows, rest⟩ := h.eq_cons
    cases k with
    | zero =>
      cases hf
      exact ⟨d, rfl, allows⟩
    | succ k => exact ih rest hf

/-- The slots of a child are slots of its field. -/
theorem stores_childSlots (regular : type.Regular) (stores : type.Stores data) {k : Nat}
    (hf : type.fields[k]? = some f) : f.type.Stores (type.childSlots k data) := by
  have mem : f ∈ type.fields := List.mem_of_getElem? hf
  cases regular with
  | leaf p => cases mem
  | fixedSizeList p pos le =>
    rw [List.mem_singleton.mp mem]
    exact stores.entryItems
  | list item =>
    rw [List.mem_singleton.mp mem]
    exact .of_allows fun d hd => stores.listItems hd
  | struct ne each =>
    intro x hx
    obtain ⟨d, hd, rfl⟩ := List.mem_map.mp hx
    rcases stores.parts d.parts (List.mem_map_of_mem hd) with nil | allows
    · exact .inl (by rw [nil]; rfl)
    · obtain ⟨x, hx, allows⟩ := getElem?_of_allowsEach allows hf
      rw [hx]
      exact allows.null_or_admits
  | union isRequired each =>
    cases k with
    | zero =>
      intro x hx
      obtain ⟨d, hd, rfl⟩ := List.mem_map.mp hx
      obtain ⟨hd, tag⟩ := List.mem_filter.mp hd
      exact .inl (by rw [stores.eq_null hd (beq_iff_eq.mp tag)]; rfl)
    | succ k =>
      refine .of_allows fun x hx => stores.variants.contents hf ?_
      rwa [Nat.add_comm]

end DataType

/-! ## Columns of data -/

namespace Column

/-- Whether the column is that of some data, or of the markers of null slots. -/
def Made (c : Column) : Prop :=
  ∃ (type : DataType) (required : Bool) (data : List Datum),
    (type.Regular ∨ type = .null) ∧ type.Stores data ∧ c = type.columnOf required data

theorem Made.of_columnOf {type : DataType} (required : Bool) {data : List Datum}
    (regular : type.Regular) (stores : type.Stores data) : (type.columnOf required data).Made :=
  ⟨type, required, data, .inl regular, stores, rfl⟩

theorem Made.child {c e : Column} (h : c.Made) (mem : e ∈ c.children) : e.Made := by
  obtain ⟨type, required, data, regular, stores, rfl⟩ := h
  obtain ⟨k, hk⟩ := List.getElem?_of_mem mem
  rw [DataType.getElem?_children_columnOf] at hk
  obtain ⟨f, hf, rfl⟩ := Option.map_eq_some_iff.mp hk
  rcases regular with regular | rfl
  · refine ⟨f.type, !f.nullable, type.childSlots k data, ?_,
      DataType.stores_childSlots regular stores hf, Field.columnOf_eq f _⟩
    exact (regular.field hf).imp_right fun markers => by rw [markers]; rfl
  · cases hf

theorem Made.level {c d : Column} (h : c.Made) (level : c.Level d) : d.Made := by
  induction level with
  | self => exact h
  | child _ mem ih => exact ih.child mem

end Column
end ColumnLog
