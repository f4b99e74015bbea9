import ColumnLog.Builder

/-!
# What a column type can hold

A datum is data of a column type if it has the shape that the type describes.  The parts of a datum
are named here one by one, so that the slots of a column can be taken apart level by level.

* `Datum.present`, `Datum.parts`, `Datum.tag` and their like look at one level of a datum.
* `DataType.Regular` are the column types that values are written to: entries of a fixed size hold
  required flat values, items of lists are required, and so are the variants of unions.
* `DataType.Admits` tells that a datum, not null, is data of a column type, and `Field.Allows` that
  a datum may stand in a field; nulls stand only where the field may be missing.
* `DataType.Stores` tells it of the slots of a column, any of which may be null; the slots of its
  children are then such slots again (`DataType.Stores.parts` and its like).
-/

set_option autoImplicit false

namespace ColumnLog

/-! ## One level of a datum -/

namespace Datum

/-- Whether there is anything. -/
def present : Datum → Bool
  | null => false
  | _ => true

/-- The flat value, if it is one of the given type. -/
def scalar? (p : Primitive) : Datum → Option p.Value
  | scalar q value => if h : q = p then some (h ▸ value) else none
  | _ => none

/-- The items of a list entry; a null entry has none. -/
def listItems : Datum → List Datum
  | items data => data
  | _ => []

/-- The items of an entry of fixed size; a null entry has that many null ones. -/
def entryItems (size : Nat) : Datum → List Datum
  | items data => data
  | _ => List.replicate size null

/-- The parts of a record; a null slot has none. -/
def parts : Datum → List Datum
  | record parts => parts
  | _ => []

/-- The id of the variant, zero for a null slot. -/
def tag : Datum → Nat
  | variant id _ => id.toNat
  | _ => 0

/-- The content of the variant. -/
def content : Datum → Datum
  | variant _ content => content
  | _ => null

/-- The contents of the slots recorded under an id, in order. -/
def contents (id : Nat) (data : List Datum) : List Datum :=
  (data.filter fun d => d.tag == id).map content

@[simp] theorem listItems_items (data : List Datum) : (items data).listItems = data := rfl

@[simp] theorem listItems_null : null.listItems = [] := rfl

@[simp] theorem entryItems_items (size : Nat) (data : List Datum) :
    (items data).entryItems size = data := rfl

@[simp] theorem entryItems_null (size : Nat) :
    null.entryItems size = List.replicate size null := rfl

@[simp] theorem parts_record (parts : List Datum) : (record parts).parts = parts := rfl

@[simp] theorem tag_variant (id : Int) (content : Datum) :
    (variant id content).tag = id.toNat := rfl

@[simp] theorem tag_null : null.tag = 0 := rfl

theorem present_eq_false_iff {d : Datum} : d.present = false ↔ d = null := by
  cases d <;> simp [present]

@[simp]
theorem scalar?_scalar {p : Primitive} (value : p.Value) :
    scalar? p (scalar p value) = some value := by
  simp [scalar?]

@[simp]
theorem scalar?_null (p : Primitive) : scalar? p null = none := rfl

theorem contents_append (id : Nat) (xs ys : List Datum) :
    contents id (xs ++ ys) = contents id xs ++ contents id ys := by
  simp [contents]

theorem contents_singleton (id : Nat) (d : Datum) :
    contents id [d] = if d.tag = id then [d.content] else [] := by
  by_cases h : d.tag = id <;> simp [contents, h]

theorem contents_cons (id : Nat) (d : Datum) (data : List Datum) :
    contents id (d :: data) = (if d.tag = id then [d.content] else []) ++ contents id data := by
  rw [← contents_singleton, ← contents_append, List.singleton_append]

theorem length_contents (id : Nat) (data : List Datum) :
    (contents id data).length = (data.map tag).count id := by
  rw [contents, List.length_map, ← List.countP_eq_length_filter, List.count, List.countP_map]
  rfl

end Datum

/-! ## Types and the data they hold -/

/-- The column types that values are written to. -/
inductive DataType.Regular : DataType → Prop where
  | leaf (p : Primitive) : Regular (.leaf p)
  | fixedSizeList (p : Primitive) {size : Nat} (pos : 0 < size) (le : size ≤ Size.largestOffset) :
      Regular (.fixedSizeList (.item (.leaf p)) size)
  | list {type : DataType} (item : Regular type) : Regular (.list (.item type))
  | struct {fields : List Field} (ne : fields ≠ []) (each : ∀ f ∈ fields, Regular f.type) :
      Regular (.struct fields)
  | union {variants : List Field} (required : ∀ f ∈ variants, f.nullable = false)
      (each : ∀ f ∈ variants, Regular f.type) : Regular (.union variants)

mutual

/-- Whether a datum, not null, is data of the type. -/
def DataType.Admits : DataType → Datum → Prop
  | .leaf p, .scalar q _ => q = p
  | .fixedSizeList item size, .items data => data.length = size ∧ ∀ d ∈ data, Field.Allows item d
  | .list item, .items data => ∀ d ∈ data, Field.Allows item d
  | .struct fields, .record parts => Field.AllowsEach fields parts
  | .denseUnion _ fields, .variant id content =>
    0 < id ∧ Field.AllowsAt fields id.toNat content
  | _, _ => False

/-- Whether a datum may stand in a field. -/
def Field.Allows : Field → Datum → Prop
  | ⟨_, type, nullable⟩, d => (d = .null ∧ nullable = true) ∨ DataType.Admits type d

/-- Whether there is a datum for every field that may stand in it. -/
def Field.AllowsEach : List Field → List Datum → Prop
  | [], [] => True
  | f :: fs, d :: ds => Field.Allows f d ∧ Field.AllowsEach fs ds
  | _, _ => False

/-- Whether the field with the given number is there and a datum may stand in it. -/
def Field.AllowsAt : List Field → Nat → Datum → Prop
  | [], _, _ => False
  | f :: _, 0, d => Field.Allows f d
  | _ :: fs, k + 1, d => Field.AllowsAt fs k d

end

theorem Field.allows_iff (f : Field) (d : Datum) :
    f.Allows d ↔ (d = .null ∧ f.nullable = true) ∨ f.type.Admits d := by
  cases f; rfl

theorem Field.allowsAt_iff (fields : List Field) (k : Nat) (d : Datum) :
    Field.AllowsAt fields k d ↔ ∃ f, fields[k]? = some f ∧ f.Allows d := by
  induction fields generalizing k with
  | nil => simp [Field.AllowsAt]
  | cons f fs ih => cases k <;> simp [Field.AllowsAt, ih]

theorem DataType.Admits.ne_null {type : DataType} {d : Datum} (h : type.Admits d) : d ≠ .null := by
  rintro rfl
  cases type <;> simp [DataType.Admits] at h

theorem Field.Allows.null_or_admits {f : Field} {d : Datum} (h : f.Allows d) :
    d = .null ∨ f.type.Admits d :=
  ((f.allows_iff d).mp h).imp_left And.left

theorem Field.Allows.nullable {f : Field} (h : f.Allows .null) : f.nullable = true := by
  rcases (f.allows_iff .null).mp h with ⟨-, nullable⟩ | admits
  · exact nullable
  · exact absurd rfl admits.ne_null

theorem Field.Allows.admits {f : Field} {d : Datum} (h : f.Allows d)
    (required : f.nullable = false) : f.type.Admits d := by
  rcases (f.allows_iff d).mp h with ⟨-, nullable⟩ | admits
  · rw [required] at nullable
    cases nullable
  · exact admits

section Admits

variable {f : Field} {fs fields : List Field} {size : Nat} {d x : Datum} {ds : List Datum}

theorem DataType.Admits.eq_scalar {p : Primitive} (h : (leaf p).Admits d) :
    ∃ value : p.Value, d = .scalar p value := by
  cases d with
  | scalar q value =>
    cases h
    exact ⟨value, rfl⟩
  | _ => exact h.elim

theorem DataType.Admits.eq_entry (h : (fixedSizeList f size).Admits d) :
    ∃ items, d = .items items ∧ items.length = size ∧ ∀ x ∈ items, f.Allows x := by
  cases d with
  | items items => exact ⟨items, rfl, h⟩
  | _ => exact h.elim

theorem DataType.Admits.eq_items (h : (list f).Admits d) :
    ∃ items, d = .items items ∧ ∀ x ∈ items, f.Allows x := by
  cases d with
  | items items => exact ⟨items, rfl, h⟩
  | _ => exact h.elim

theorem DataType.Admits.eq_record (h : (struct fields).Admits d) :
    ∃ parts, d = .record parts ∧ Field.AllowsEach fields parts := by
  cases d with
  | record parts => exact ⟨parts, rfl, h⟩
  | _ => exact h.elim

theorem DataType.Admits.eq_variant (h : (union fields).Admits d) :
    ∃ (k : Nat) (content : Datum), d = .variant ((k + 1 : Nat) : Int) content ∧
      Field.AllowsAt fields k content := by
  cases d with
  | variant id content =>
    obtain ⟨pos, allows⟩ : 0 < id ∧ Field.AllowsAt (nullMarkers :: fields) id.toNat content := h
    obtain ⟨k, rfl⟩ : ∃ k : Nat, id = ((k + 1 : Nat) : Int) := ⟨id.toNat - 1, by omega⟩
    exact ⟨k, content, rfl, allows⟩
  | _ => exact h.elim

theorem DataType.Admits.length_entryItems (h : (fixedSizeList f size).Admits d) :
    (d.entryItems size).length = size := by
  obtain ⟨items, rfl, length, -⟩ := h.eq_entry
  exact length

theorem DataType.Admits.entryItems (h : (fixedSizeList f size).Admits d)
    (hx : x ∈ d.entryItems size) : f.Allows x := by
  obtain ⟨items, rfl, -, allows⟩ := h.eq_entry
  exact allows x hx

theorem DataType.Admits.listItems (h : (list f).Admits d) (hx : x ∈ d.listItems) : f.Allows x := by
  obtain ⟨items, rfl, allows⟩ := h.eq_items
  exact allows x hx

theorem DataType.Admits.parts (h : (struct fields).Admits d) :
    Field.AllowsEach fields d.parts := by
  obtain ⟨parts, rfl, allows⟩ := h.eq_record
  exact allows

theorem DataType.Admits.content (h : (union fields).Admits d) :
    Field.AllowsAt fields (d.tag - 1) d.content := by
  obtain ⟨k, content, rfl, allows⟩ := h.eq_variant
  exact allows

theorem DataType.Admits.tag_pos (h : (union fields).Admits d) : 0 < d.tag := by
  obtain ⟨k, content, rfl, -⟩ := h.eq_variant
  exact Nat.succ_pos k

theorem Field.AllowsEach.eq_cons (h : Field.AllowsEach (f :: fs) ds) :
    ∃ x xs, ds = x :: xs ∧ f.Allows x ∧ Field.AllowsEach fs xs := by
  cases ds with
  | nil => exact h.elim
  | cons x xs => exact ⟨x, xs, rfl, h⟩

theorem Field.AllowsEach.eq_nil (h : Field.AllowsEach [] ds) : ds = [] := by
  cases ds with
  | nil => rfl
  | cons x xs => exact h.elim

end Admits

/-! ## The slots of a column -/

/-- Whether every slot is null or holds data of the type. -/
def DataType.Stores (type : DataType) (data : List Datum) : Prop :=
  ∀ d ∈ data, d = .null ∨ type.Admits d

/-- Whether every row is empty or has a part for each of the fields. -/
def Field.StoresEach (fields : List Field) (rows : List (List Datum)) : Prop :=
  ∀ row ∈ rows, row = [] ∨ Field.AllowsEach fields row

/-- Whether every slot is a variant of one of the fields, the first of which has the given id, or
has a smaller one. -/
def Field.StoresFrom (id : Nat) (fields : List Field) (data : List Datum) : Prop :=
  ∀ d ∈ data, id ≤ d.tag → Field.AllowsAt fields (d.tag - id) d.content

section Stores

variable {f : Field} {fs fields : List Field} {data : List Datum} {rows : List (List Datum)}

theorem DataType.Stores.of_allows (h : ∀ d ∈ data, f.Allows d) : f.type.Stores data :=
  fun d hd => (h d hd).null_or_admits

theorem DataType.Stores.length_entryItems {size : Nat} (h : (fixedSizeList f size).Stores data)
    {d : Datum} (hd : d ∈ data) : (d.entryItems size).length = size := by
  rcases h d hd with rfl | admits
  · exact List.length_replicate
  · exact admits.length_entryItems

theorem DataType.Stores.length_flatMap_entryItems {size : Nat}
    (h : (fixedSizeList f size).Stores data) :
    (data.flatMap (Datum.entryItems size)).length = data.length * size := by
  rw [List.length_flatMap, List.map_congr_left fun d hd => h.length_entryItems hd, List.map_const',
    List.sum_replicate_nat]

theorem DataType.Stores.entryItems {size : Nat} (h : (fixedSizeList f size).Stores data) :
    f.type.Stores (data.flatMap (Datum.entryItems size)) := by
  intro x hx
  obtain ⟨d, hd, hx⟩ := List.mem_flatMap.mp hx
  rcases h d hd with rfl | admits
  · exact .inl (List.eq_of_mem_replicate hx)
  · exact (admits.entryItems hx).null_or_admits

theorem DataType.Stores.listItems (h : (list f).Stores data) {x : Datum}
    (hx : x ∈ data.flatMap Datum.listItems) : f.Allows x := by
  obtain ⟨d, hd, hx⟩ := List.mem_flatMap.mp hx
  rcases h d hd with rfl | admits
  · cases hx
  · exact admits.listItems hx

theorem DataType.Stores.parts (h : (struct fields).Stores data) :
    Field.StoresEach fields (data.map Datum.parts) := by
  intro row hrow
  obtain ⟨d, hd, rfl⟩ := List.mem_map.mp hrow
  rcases h d hd with rfl | admits
  · exact .inl rfl
  · exact .inr admits.parts

theorem Field.StoresEach.head (h : Field.StoresEach (f :: fs) rows) :
    f.type.Stores (rows.map (·.headD .null)) := by
  intro d hd
  obtain ⟨row, hrow, rfl⟩ := List.mem_map.mp hd
  rcases h row hrow with rfl | allows
  · exact .inl rfl
  · obtain ⟨x, xs, rfl, allows, -⟩ := allows.eq_cons
    exact allows.null_or_admits

theorem Field.StoresEach.tail (h : Field.StoresEach (f :: fs) rows) :
    Field.StoresEach fs (rows.map List.tail) := by
  intro rest hrest
  obtain ⟨row, hrow, rfl⟩ := List.mem_map.mp hrest
  rcases h row hrow with rfl | allows
  · exact .inl rfl
  · obtain ⟨x, xs, rfl, -, allows⟩ := allows.eq_cons
    exact .inr allows

theorem DataType.Stores.variants (h : (union fields).Stores data) :
    Field.StoresFrom 1 fields data := by
  intro d hd hid
  rcases h d hd with rfl | admits
  · exact absurd hid (by decide)
  · exact admits.content

theorem Field.StoresFrom.contents {id k : Nat} (h : Field.StoresFrom id fields data)
    (hf : fields[k]? = some f) {x : Datum} (hx : x ∈ Datum.contents (id + k) data) :
    f.Allows x := by
  obtain ⟨d, hd, rfl⟩ := List.mem_map.mp hx
  obtain ⟨hd, htag⟩ := List.mem_filter.mp hd
  have htag : d.tag = id + k := beq_iff_eq.mp htag
  obtain ⟨g, hg, allows⟩ := (Field.allowsAt_iff _ _ _).mp (h d hd (by omega))
  rw [htag, Nat.add_sub_cancel_left, hf] at hg
  cases hg
  exact allows

theorem Field.StoresFrom.head {id : Nat} (h : Field.StoresFrom id (f :: fs) data) {x : Datum}
    (hx : x ∈ Datum.contents id data) : f.Allows x :=
  h.contents (k := 0) rfl hx

theorem Field.StoresFrom.tail {id : Nat} (h : Field.StoresFrom id (f :: fs) data) :
    Field.StoresFrom (id + 1) fs data := by
  intro d hd hid
  have allows := h d hd (by omega)
  rwa [show d.tag - id = (d.tag - (id + 1)) + 1 by omega] at allows

theorem DataType.Stores.eq_null (h : (union fields).Stores data) {d : Datum} (hd : d ∈ data)
    (htag : d.tag = 0) : d = .null := by
  rcases h d hd with null | admits
  · exact null
  · exact absurd htag (Nat.ne_of_gt admits.tag_pos)

end Stores
end ColumnLog
