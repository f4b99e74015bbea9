import ColumnLog.Archetype
import ColumnLog.Proofs.Dense

/-!
# Finished columns conform to the declared type

A finished column has, level by level, the type that is declared for it, and a part that is declared
to be present is missing only below a null slot.

* `Column.Under` follows the slots of a column down to the slots of all columns below it, and tells
  whether one of the slots passed on the way is null.
* `DataType.PartOf` ties a slot of a child to the datum of the slot that it belongs to.
* `Column.Fills.nullable_or_masked`: a null below no null slot stands in a field that may be
  missing.
* `LibraryType.finished_conforms` is the result, for every loggable type.
-/

set_option autoImplicit false

namespace ColumnLog

/-! ## Slots under slots -/

namespace Column

/-- Whether slot `j` of the column `e`, which stands for the field `f`, belongs to a slot of `c`;
`masked` tells whether one of the slots above it is null. -/
inductive Under (c : Column) : Field → Column → Nat → Bool → Prop where
  | top {f : Field} {e : Column} {k i j : Nat} (field : c.type.fields[k]? = some f)
      (child : c.children[k]? = some e) (owns : c.Owns k i j) : Under c f e j (c.nullAt i)
  | down {g f : Field} {d e : Column} {masked : Bool} {k i j : Nat} (above : Under c g d i masked)
      (field : d.type.fields[k]? = some f) (child : d.children[k]? = some e)
      (owns : d.Owns k i j) : Under c f e j (masked || d.nullAt i)

/-- Whether the children have the types of the fields that they stand for. -/
def FitsFields (d : Column) : Prop := d.children.map type = d.type.fields.map Field.type

end Column

namespace DataType

variable {type : DataType} {required : Bool} {data : List Datum} {f : Field} {k i j : Nat}

theorem fitsFields_columnOf (required : Bool) (type : DataType) (data : List Datum) :
    (type.columnOf required data).FitsFields := by
  refine List.ext_getElem? fun k => ?_
  rw [List.getElem?_map, getElem?_children_columnOf, type_columnOf, List.getElem?_map,
    Option.map_map]
  refine congrArg (Option.map · type.fields[k]?) (funext fun f => ?_)
  rw [Function.comp_apply, Field.columnOf_eq, type_columnOf]

/-- Whether slot `j` of child `k`, which stands for the field, is part of the datum of slot `i`: the
field allows it if that datum is data of the type. -/
def PartOf (type : DataType) (data : List Datum) (f : Field) (k i j : Nat) : Prop :=
  ∃ d x, data[i]? = some d ∧ (type.childSlots k data)[j]? = some x ∧ (type.Admits d → f.Allows x)

theorem partOf_entry {size : Nat} (stores : (fixedSizeList f size).Stores data)
    (owns : ((fixedSizeList f size).columnOf required data).Owns k i j) :
    PartOf (fixedSizeList f size) data f k i j := by
  obtain ⟨hi, lo, hi'⟩ := owns
  have len : i < data.length := by simpa using hi
  obtain ⟨m, rfl⟩ := Nat.exists_eq_add_of_le lo
  have hm : m < size := by
    rw [Nat.succ_mul] at hi'
    omega
  have hm' : m < (data[i].entryItems size).length := by
    rwa [stores.length_entryItems (List.getElem_mem len)]
  refine ⟨data[i], (data[i].entryItems size)[m], List.getElem?_eq_getElem len, ?_, ?_⟩
  · exact (stores.getElem?_entryItems (List.getElem?_eq_getElem len) hm).trans
      (List.getElem?_eq_getElem hm')
  · exact fun admits => admits.entryItems (List.getElem_mem hm')

theorem partOf_item (owns : ((list f).columnOf required data).Owns k i j) :
    PartOf (list f) data f k i j := by
  obtain ⟨lo, hi, hlo, hhi, le, lt⟩ := owns
  obtain ⟨d, hd, rfl, rfl⟩ := entry_of_getElem?_bounds (by simpa using hlo) (by simpa using hhi)
  obtain ⟨m, rfl⟩ := Nat.exists_eq_add_of_le le
  have hm : m < d.listItems.length := by omega
  refine ⟨d, d.listItems[m], hd, ?_, fun admits => admits.listItems (List.getElem_mem hm)⟩
  exact (getElem?_flatMap_add Datum.listItems hd hm).trans (List.getElem?_eq_getElem hm)

theorem partOf_part {fields : List Field} (field : fields[k]? = some f)
    (owns : ((struct fields).columnOf required data).Owns k i j) :
    PartOf (struct fields) data f k i j := by
  obtain ⟨hi, rfl⟩ := owns
  have len : j < data.length := by simpa using hi
  refine ⟨data[j], data[j].parts[k]?.getD .null, List.getElem?_eq_getElem len, ?_, ?_⟩
  · rw [childSlots, List.getElem?_map, List.getElem?_eq_getElem len, Option.map_some]
  · intro admits
    obtain ⟨x, hx, allows⟩ := getElem?_of_allowsEach admits.parts field
    rwa [hx]

theorem partOf_variant {variants : List Field} (field : (nullMarkers :: variants)[k]? = some f)
    (owns : ((union variants).columnOf required data).Owns k i j) :
    PartOf (union variants) data f k i j := by
  obtain ⟨id, tag, same, place⟩ := owns
  rw [List.getElem?_toArray] at tag place
  rw [getElem?_places tag] at place
  cases place
  obtain ⟨d, hd, rfl⟩ := Option.map_eq_some_iff.mp (List.getElem?_map .. ▸ tag)
  obtain ⟨-, rfl⟩ : k < variants.length + 1 ∧ k = d.tag := by
    simpa [List.getElem?_eq_some_iff] using same
  refine ⟨d, d.content, hd, getElem?_contents hd, fun admits => ?_⟩
  obtain ⟨g, hg, allows⟩ := (Field.allowsAt_iff _ _ _).mp admits.content
  rw [← Nat.sub_add_cancel admits.tag_pos, List.getElem?_cons_succ, hg] at field
  cases field
  exact allows

/-- An item that belongs to a slot is part of its datum. -/
theorem partOf_of_owns (regular : type.Regular) (stores : type.Stores data)
    (field : type.fields[k]? = some f) (owns : (type.columnOf required data).Owns k i j) :
    PartOf type data f k i j := by
  have mem : f ∈ type.fields := List.mem_of_getElem? field
  cases regular with
  | leaf p => cases mem
  | fixedSizeList p pos le =>
    rw [List.mem_singleton.mp mem]
    exact partOf_entry stores owns
  | list regular =>
    rw [List.mem_singleton.mp mem]
    exact partOf_item owns
  | struct ne each => exact partOf_part field owns
  | union isRequired each => exact partOf_variant field owns

end DataType

namespace Column

variable {c d e : Column} {f g : Field} {k i j : Nat} {masked : Bool}

/-- Whether slot `j` of the column `e` is a slot of the field `f`, one that the field allows unless
it is masked. -/
def Fills (e : Column) (f : Field) (j : Nat) (masked : Bool) : Prop :=
  ∃ (slots : List Datum) (x : Datum), (f.type.Regular ∨ f = DataType.nullMarkers) ∧
    f.type.Stores slots ∧ e = f.columnOf slots ∧ slots[j]? = some x ∧ (masked = true ∨ f.Allows x)

theorem fills_of_owns {type : DataType} {required : Bool} {data : List Datum}
    (regular : type.Regular) (stores : type.Stores data) (field : type.fields[k]? = some f)
    (child : (type.columnOf required data).children[k]? = some e)
    (owns : (type.columnOf required data).Owns k i j) :
    e.Fills f j ((type.columnOf required data).nullAt i) := by
  obtain ⟨d, x, hd, hx, allows⟩ := DataType.partOf_of_owns regular stores field owns
  refine ⟨type.childSlots k data, x, regular.field field,
    DataType.stores_childSlots regular stores field, ?_, hx, ?_⟩
  · rw [DataType.getElem?_children_columnOf, field, Option.map_some] at child
    exact (Option.some.inj child).symm
  · refine (stores d (List.mem_of_getElem? hd)).imp (fun null => ?_) allows
    rw [null] at hd
    refine DataType.nullAt_columnOf_of_null regular (fun p leaf => ?_) hd
    rw [leaf] at field
    cases field

theorem Fills.down (h : d.Fills g i masked) (field : d.type.fields[k]? = some f)
    (child : d.children[k]? = some e) (owns : d.Owns k i j) :
    e.Fills f j (masked || d.nullAt i) := by
  obtain ⟨data, -, regular, stores, rfl, -, -⟩ := h
  rw [Field.columnOf_eq] at field child owns ⊢
  rw [DataType.type_columnOf] at field
  rcases regular with regular | rfl
  · obtain ⟨slots, x, h⟩ := fills_of_owns regular stores field child owns
    refine ⟨slots, x, h.1, h.2.1, h.2.2.1, h.2.2.2.1, h.2.2.2.2.imp_left fun null => ?_⟩
    rw [null, Bool.or_true]
  · cases field

theorem Under.fills {type : DataType} {required : Bool} {data : List Datum}
    (regular : type.Regular) (stores : type.Stores data)
    (h : (type.columnOf required data).Under f e j masked) : e.Fills f j masked := by
  induction h with
  | top field child owns =>
    rw [DataType.type_columnOf] at field
    exact fills_of_owns regular stores field child owns
  | down _ field child owns ih => exact ih.down field child owns

/-- A null that no null slot masks stands in a field that may be missing. -/
theorem Fills.nullable_or_masked (h : e.Fills f j masked) (null : e.nullAt j = true) :
    f.nullable = true ∨ masked = true := by
  obtain ⟨slots, x, regular, stores, rfl, hx, allows⟩ := h
  rcases regular with regular | rfl
  · rw [Field.columnOf_eq] at null
    rw [DataType.eq_null_of_nullAt_columnOf regular stores null] at hx
    cases hx
    exact allows.symm.imp_left Field.Allows.nullable
  · exact .inl rfl

/-! ## Every slot is reached -/

theorem Dense.lt_length_of_owns (h : d.Dense) (owns : d.Owns k i j) : i < d.length := by
  cases d with
  | null count => exact owns.elim
  | leaf p slots => exact owns.elim
  | fixedSizeList item size mask items => exact owns.1
  | list item offsets mask items =>
    obtain ⟨lo, hi, -, hhi, -, -⟩ := owns
    have := (Array.getElem?_eq_some_iff.mp hhi).1
    rw [ListDense.size_offsets h] at this
    exact Nat.lt_of_succ_lt_succ this
  | struct fields mask children => exact owns.1
  | denseUnion ids fields typeIds offsets children =>
    obtain ⟨id, hid, -, -⟩ := owns
    exact (Array.getElem?_eq_some_iff.mp hid).1

theorem Made.fitsFields (h : c.Made) : c.FitsFields := by
  obtain ⟨type, required, data, -, -, rfl⟩ := h
  exact DataType.fitsFields_columnOf required type data

theorem FitsFields.field (h : d.FitsFields) (child : d.children[k]? = some e) :
    ∃ f, d.type.fields[k]? = some f := by
  have types := congrArg (·[k]?) h
  simp only [List.getElem?_map, child, Option.map_some] at types
  obtain ⟨f, hf, -⟩ := Option.map_eq_some_iff.mp types.symm
  exact ⟨f, hf⟩

/-- Every slot of a child, at any depth, belongs to a slot at the top. -/
theorem Made.exists_under (h : c.Made) (level : c.Level d) (child : d.children[k]? = some e)
    (hj : j < e.length) : ∃ f masked, c.Under f e j masked := by
  induction level generalizing k e j with
  | self =>
    obtain ⟨i, owns, -⟩ := h.dense.existsUnique_owner child hj
    obtain ⟨f, field⟩ := h.fitsFields.field child
    exact ⟨f, _, .top field child owns⟩
  | @child d d' level mem ih =>
    have made : d'.Made := h.level (.child level mem)
    obtain ⟨i, owns, -⟩ := made.dense.existsUnique_owner child hj
    obtain ⟨f, field⟩ := made.fitsFields.field child
    obtain ⟨k', hk'⟩ := List.getElem?_of_mem mem
    obtain ⟨g, masked, above⟩ := ih hk' (made.dense.lt_length_of_owns owns)
    exact ⟨f, _, .down above field child owns⟩

/-- Whether the column has the given type, level by level, and a null at no slot of a required part
that no null slot masks. -/
structure Conforms (type : DataType) (c : Column) : Prop where
  type_eq : c.type = type
  fitsFields : ∀ d, c.Level d → d.FitsFields
  nullable_or_masked : ∀ f e j masked, c.Under f e j masked → e.nullAt j = true →
    f.nullable = true ∨ masked = true
  exists_under : ∀ (d e : Column) (k j : Nat), c.Level d → d.children[k]? = some e →
    j < e.length → ∃ f masked, c.Under f e j masked

theorem conforms_columnOf {type : DataType} (required : Bool) {data : List Datum}
    (regular : type.Regular) (stores : type.Stores data) :
    (type.columnOf required data).Conforms type := by
  have made : (type.columnOf required data).Made := .of_columnOf required regular stores
  refine ⟨DataType.type_columnOf required type data, ?_, ?_, ?_⟩
  · exact fun d level => (made.level level).fitsFields
  · exact fun f e j masked under null => (under.fills regular stores).nullable_or_masked null
  · exact fun d e k j level child hj => made.exists_under level child hj

end Column

/-! ## Finishing and checking -/

/-- Whether whatever the builder finishes into conforms to the declared type, and the check of the
type never fails. -/
structure Schema.Conforming {kind : NameKind} (schema : Schema kind) (b : Builder) : Prop where
  conforms : ∀ c, b.finish = .ok c → c.Conforms schema.type
  finishes : ∀ (p : PooledBuilder) (pool : Pool), p.builder = b → b.Bounded →
    ∃ c, schema.finishChecked p pool = .ok c (p.drop pool)
  no_mismatch : ∀ (p : PooledBuilder) (pool : Pool), p.builder = b →
    ∀ declared actual name left,
      schema.finishChecked p pool ≠ .error (.typeMismatch declared actual name) left

theorem Schema.Conforming.of_settles {kind : NameKind} {schema : Schema kind} {b : Builder}
    {c : Column} (settles : Builder.Settles b.Bounded b.finish c)
    (conforms : c.Conforms schema.type) : schema.Conforming b := by
  have checked : schema.checked c = .ok c := if_pos conforms.type_eq
  rcases settles with finished | ⟨⟨text, refused⟩, hb⟩
  · have done (p : PooledBuilder) (pool : Pool) (hp : p.builder = b) :
        schema.finishChecked p pool = .ok c (p.drop pool) := by
      rw [finishChecked, PooledBuilder.finish, hp, finished]
      show Outcome.ofExcept (schema.checked c) _ = _
      rw [checked]
      rfl
    refine ⟨fun c' hc' => ?_, fun p pool hp _ => ⟨c, done p pool hp⟩, ?_⟩
    · rw [finished] at hc'
      cases hc'
      exact conforms
    · intro p pool hp declared actual name left mismatch
      rw [done p pool hp] at mismatch
      cases mismatch
  · refine ⟨fun c' hc' => ?_, fun p pool _ bounded => absurd bounded hb, ?_⟩
    · rw [refused] at hc'
      cases hc'
    · intro p pool hp declared actual name left mismatch
      rw [finishChecked, PooledBuilder.finish, hp, refused] at mismatch
      cases mismatch

/-! ## Runs -/

/-- A run of values comes to a builder that conforms to the type of the values. -/
theorem Readable.conforming_of_addAll {α : Type} {kind : NameKind} [Loggable α kind] [Readable α]
    {values : List (Option α)} {capacity : Nat} {b : Builder}
    (ok : Builder.addAll (Loggable.steps values) (Loggable.newBuilder α capacity) = .ok () b) :
    (Loggable.schema α).Conforming b := by
  have stores := Builder.stores_slotsOf (fitting_steps values)
  rw [newBuilder_eq_holding] at ok
  rw [Builder.addAll_holding regular (fitting_steps values) ok]
  exact .of_settles (Builder.finishes_of_regular regular false _ stores)
    (Column.conforms_columnOf false regular stores)

theorem addAll_markers {steps : List (Option Entry)}
    (markers : ∀ entry, some entry ∈ steps → entry = marker) (count : Nat) :
    Builder.addAll steps (.null count) = .ok () (.null (count + steps.length)) := by
  induction steps generalizing count with
  | nil => rfl
  | cons s steps ih =>
    have step : (Builder.null count).step s = .ok () (.null (count + 1)) := by
      cases s with
      | none => rfl
      | some entry => rw [markers entry List.mem_cons_self]; rfl
    rw [Builder.addAll, step]
    show Builder.addAll steps (.null (count + 1)) = _
    rw [ih (fun entry mem => markers entry (List.mem_cons_of_mem s mem)), List.length_cons,
      Nat.add_assoc, Nat.add_comm 1]

theorem Column.conforms_null (count : Nat) : (Column.null count).Conforms .null := by
  have level {d : Column} (h : (Column.null count).Level d) : d = .null count := by
    induction h with
    | self => rfl
    | child _ mem ih =>
      rw [ih] at mem
      cases mem
  have never {f : Field} {e : Column} {j : Nat} {masked : Bool}
      (h : (Column.null count).Under f e j masked) : False := by
    induction h with
    | top field _ _ => cases field
    | down _ _ _ _ ih => exact ih
  refine ⟨rfl, fun d h => ?_, fun f e j masked under _ => (never under).elim,
    fun d e k j h child _ => ?_⟩
  · rw [level h]
    rfl
  · rw [level h] at child
    cases child

/-- **Finished columns conform to the declared type.**  For every loggable type, and for the
indicators of archetypes, a run of null slots and of appends that succeed finishes into a column
that has the declared type at every level, and a null below no null slot only where the type allows
one.  The check of the type before a column is handed out never fails. -/
theorem LibraryType.finished_conforms :
    (∀ (t : LibraryType) (capacity : Nat) (values : List (Option t.Value)) (b : Builder),
      Builder.addAll (Loggable.steps values) (Loggable.newBuilder t.Value capacity) = .ok () b →
        (Loggable.schema t.Value).Conforming b) ∧
    ∀ (archetype : Name .archetype) (steps : List (Option Entry)) (b : Builder),
      (∀ entry, some entry ∈ steps → entry = marker) →
      Builder.addAll steps (indicatorSchema archetype).start = .ok () b →
        (indicatorSchema archetype).Conforming b := by
  refine ⟨fun t capacity values b ok => Readable.conforming_of_addAll ok, ?_⟩
  intro archetype steps b markers ok
  rw [show (indicatorSchema archetype).start = .null 0 from rfl, addAll_markers markers] at ok
  cases ok
  exact .of_settles .ok (Column.conforms_null _)

theorem LibraryType.finished_conforms_rotations :
    (∃ b : Builder, Builder.addAll
        (Loggable.steps [some (Rotation3D.axisAngle ⟨.ones, .inDegrees .one⟩), none])
        (Loggable.newBuilder Rotation3D 2) = .ok () b ∧
      (Loggable.schema Rotation3D).Conforming b) ∧
    (indicatorSchema (.ofShort "Points")).Conforming (.null 2) := by
  refine ⟨⟨_, rfl, finished_conforms.1 .rotation3D 2
    [some (.axisAngle ⟨.ones, .inDegrees .one⟩), none] _ rfl⟩, ?_⟩
  exact finished_conforms.2 (.ofShort "Points") [some marker, none] _ (by simp) rfl

end ColumnLog
