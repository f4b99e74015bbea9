import ColumnLog.Assemble
import ColumnLog.Datum
import ColumnLog.Size
import ColumnLog.UnionSlots

/-!
# Column builders

A builder collects slots one after the other and is finished into a column.

* `Builder.new` is the empty builder of a column type; builders can also be put together by hand,
  unions with `Builder.union`.
* `Builder.append` adds a datum, `Builder.appendNull` a null slot.  A list writes its items before
  it closes the entry and a union records the slot before it writes the variant, so an append that
  fails part way leaves what it had written.
* `Builder.finish` gives the column, or the first fault found in it.
-/

set_option autoImplicit false

namespace ColumnLog

/-- Slots collected for a column. -/
inductive Builder where
  /-- Only counts. -/
  | null (count : Nat)
  /-- Flat values; `blank` is what a null slot holds. -/
  | leaf (p : Primitive) (blank : Option p.Value) (slots : Array (Option p.Value))
  /-- Entries of `size` items; a null one holds blank items. -/
  | fixedSizeList (item : Field) (size : Nat) (mask : Array Bool) (items : Builder)
  /-- Entries delimited by offsets. -/
  | list (item : Field) (offsets : Array Nat) (mask : Array Bool) (items : Builder)
  /-- Slots spread over the children. -/
  | struct (fields : List Field) (mask : Array Bool) (children : List Builder)
  /-- Slots recorded by id; `variants` are the children behind the one of the null slots. -/
  | denseUnion (ids : List Nat) (fields : List Field) (slots : UnionSlots) (variants : List Builder)

namespace Builder

instance : Inhabited Builder := ⟨null 0⟩

/-! ## Empty builders -/

mutual

/-- The empty builder of a column type. -/
def new : DataType → Builder
  | .null => null 0
  | .leaf p => leaf p none #[]
  | .fixedSizeList item size => fixedSizeList item size #[] (newField item)
  | .list item => list item #[0] #[] (newField item)
  | .struct fields => struct fields #[] (newFields fields)
  | .denseUnion ids fields => denseUnion ids fields (.empty ids) (newFields fields).tail

/-- The empty builder of a part.  Flat values that must be present are zero in the null slots of
the whole. -/
def newField : Field → Builder
  | ⟨_, .leaf p, false⟩ => leaf p (some p.zero) #[]
  | ⟨_, type, _⟩ => new type

/-- The empty builders of the parts, in order. -/
def newFields : List Field → List Builder
  | [] => []
  | f :: fs => newField f :: newFields fs

end

/-- A union over builders for its variants, with fields under the given ids: fields and ids are
paired up to the end of the shorter list. -/
def union (ids : List Nat) (fields : List Field) (variants : List Builder) : Builder :=
  let ids := ids.take fields.length
  denseUnion ids (fields.take ids.length) (.empty ids) variants

/-- The type of the columns that the builder is for; a size that no column can have counts as
zero. -/
def type : Builder → DataType
  | null _ => .null
  | leaf p _ _ => .leaf p
  | fixedSizeList item size _ _ =>
    .fixedSizeList item (if size ≤ Size.largestOffset then size else 0)
  | list item _ _ _ => .list item
  | struct fields _ _ => .struct fields
  | denseUnion ids fields _ _ => .denseUnion ids fields

/-- The number of slots. -/
def length : Builder → Nat
  | null count => count
  | leaf _ _ slots => slots.size
  | fixedSizeList _ _ mask _ => mask.size
  | list _ _ mask _ => mask.size
  | struct _ mask _ => mask.size
  | denseUnion _ _ slots _ => slots.length

/-- Whether no slot has been added. -/
def isEmpty (b : Builder) : Bool := b.length == 0

/-! ## Adding slots -/

mutual

/-- Adds null slots. -/
def appendNulls (count : Nat) : Builder → Builder
  | null n => null (n + count)
  | leaf p blank slots => leaf p blank (slots ++ Array.replicate count blank)
  | fixedSizeList item size mask items =>
    fixedSizeList item size (mask ++ Array.replicate count false)
      (appendNulls (count * size) items)
  | list item offsets mask items =>
    list item (offsets ++ Array.replicate count (offsets.back?.getD 0))
      (mask ++ Array.replicate count false) items
  | struct fields mask children =>
    struct fields (mask ++ Array.replicate count false) (appendNullsEach count children)
  | denseUnion ids fields slots variants => denseUnion ids fields (slots.pushNulls count) variants

/-- Adds null slots to each builder. -/
def appendNullsEach (count : Nat) : List Builder → List Builder
  | [] => []
  | b :: bs => appendNulls count b :: appendNullsEach count bs

end

/-- Adds a null slot. -/
def appendNull (b : Builder) : Builder := b.appendNulls 1

/-- The result of an append: the builder is there in either case. -/
abbrev Appended := Outcome Builder Unit

/-- Reports that a datum is not one of the builder's type; what was there is left as it was. -/
def misfit {σ α : Type} (left : σ) : Outcome σ α :=
  .error (.columnFailure "datum of another type than the column's") left

/-- Works on one of several builders. -/
def workAt {α : Type} (work : Builder → Outcome Builder α) :
    Nat → List Builder → Outcome (List Builder) α
  | _, [] => misfit []
  | 0, b :: bs => (work b).mapState (· :: bs)
  | k + 1, b :: bs => (workAt work k bs).mapState (b :: ·)

/-- Ends the current entry of a list at the items collected so far, unless the offset is too large
to be stored. -/
def closeEntry : Builder → Appended
  | list item offsets mask items =>
    if items.length ≤ Size.largestOffset then
      .ok () (list item (offsets.push items.length) (mask.push true) items)
    else
      .error (.sizeMismatch Size.largestOffset items.length "list offsets")
        (list item offsets mask items)
  | b => misfit b

mutual

/-- Adds a datum. -/
def append : Datum → Builder → Appended
  | .null, b => .ok () b.appendNull
  | .scalar p value, leaf q blank slots =>
    if h : p = q then .ok () (leaf q blank (slots.push (some (h ▸ value))))
    else misfit (leaf q blank slots)
  | .items data, fixedSizeList item size mask items =>
    if data.length = size then
      match appendItems data items with
      | .ok () items => .ok () (fixedSizeList item size (mask.push true) items)
      | .error e items => .error e (fixedSizeList item size mask items)
    else
      .error (.sizeMismatch size data.length "fixed-size list entry")
        (fixedSizeList item size mask items)
  | .items data, list item offsets mask items =>
    match appendItems data items with
    | .ok () items => (list item offsets mask items).closeEntry
    | .error e items => .error e (list item offsets mask items)
  | .record parts, struct fields mask children =>
    match appendParts parts children with
    | .ok () children => .ok () (struct fields (mask.push true) children)
    | .error e children => .error e (struct fields mask children)
  | .variant id content, denseUnion ids fields slots variants =>
    if slots.accepts id then
      let slots := slots.record id.toNat
      match id.toNat with
      | 0 => misfit (denseUnion ids fields slots variants)
      | k + 1 => (workAt (append content) k variants).mapState (denseUnion ids fields slots)
    else .error (.unknownTypeId id) (denseUnion ids fields slots variants)
  | _, b => misfit b

/-- Adds data to one builder, up to the first that fails. -/
def appendItems : List Datum → Builder → Appended
  | [], b => .ok () b
  | d :: ds, b =>
    match append d b with
    | .ok () b => appendItems ds b
    | .error e b => .error e b

/-- Adds a datum to each builder, up to the first that fails. -/
def appendParts : List Datum → List Builder → Outcome (List Builder) Unit
  | d :: ds, b :: bs =>
    match append d b with
    | .ok () b =>
      match appendParts ds bs with
      | .ok () bs => .ok () (b :: bs)
      | .error e bs => .error e (b :: bs)
    | .error e b => .error e (b :: bs)
  | _, bs => .ok () bs

end

/-- Records a slot of a struct; its children are filled separately. -/
def recordSlot (present : Bool) : Builder → Appended
  | struct fields mask children => .ok () (struct fields (mask.push present) children)
  | b => misfit b

/-- Records a slot of a union; its variants are filled separately. -/
def recordVariant (id : Int) : Builder → Appended
  | denseUnion ids fields slots variants =>
    if slots.accepts id then .ok () (denseUnion ids fields (slots.record id.toNat) variants)
    else .error (.unknownTypeId id) (denseUnion ids fields slots variants)
  | b => misfit b

/-! ## Finishing -/

/-- A column put together, or the fault as an error. -/
def settle : Column.Assembled → Except LogError Column
  | .ok c => .ok c
  | .error fault => .error (.ofFault fault)

mutual

/-- The column of the slots collected. -/
def finish : Builder → Except LogError Column
  | null count => .ok (.null count)
  | leaf p _ slots => .ok (.leaf p slots)
  | fixedSizeList item size mask items => do
    if Size.largestOffset < size then
      throw (.sizeMismatch Size.largestOffset size "fixed-size list")
    settle (Column.fixedSizeList? item size mask (← finish items))
  | list item offsets mask items => do
    settle (Column.list? item offsets mask (← finish items))
  | struct fields mask children => do
    settle (Column.struct? fields mask (← finishEach children))
  | denseUnion ids fields slots variants => do
    let columns ← finishEach variants
    settle (Column.denseUnion? ids fields slots.typeIds slots.offsets
      (.null (slots.used 0) :: columns))

/-- The columns of the builders, or the first fault. -/
def finishEach : List Builder → Except LogError (List Column)
  | [] => .ok []
  | b :: bs => do
    let c ← finish b
    let cs ← finishEach bs
    return c :: cs

end

/-! ## Parts of a builder -/

/-- Works on the builder at the end of a path: the number of a child for a struct or a union, and
any number for the items of a list. -/
def modifyAt {α : Type} (work : Builder → Outcome Builder α) :
    List Nat → Builder → Outcome Builder α
  | [], b => work b
  | _ :: path, list item offsets mask items =>
    (modifyAt work path items).mapState (list item offsets mask)
  | k :: path, struct fields mask children =>
    (workAt (modifyAt work path) k children).mapState (struct fields mask)
  | k :: path, denseUnion ids fields slots variants =>
    (workAt (modifyAt work path) k variants).mapState (denseUnion ids fields slots)
  | _ :: _, b => misfit b

end Builder
end ColumnLog
