import ColumnLog.Proofs.Compose

/-!
# How elements are held does not show

A collection owns its elements, borrows them or keeps one in place.  `Collection.ownership` reports
which; nothing else that is read off a collection, a tensor or an archetype depends on it.

* `Collection.Alike` relates collections that hold the same elements, each in its own way, and
  `TensorBuffer.Alike`, `TensorData.Alike` and `Archetype.Mesh3D.Alike` what is made of them.
* `Collection.Alike.eqv_eq` and `Collection.Alike.values?_eq` are about the readers of collections;
  what reads a tensor goes through these.
* `EqualityRespects` says that an equality test does not tell related values apart.
* `TensorData.exists_intoOwned_iff` says which tensors can be detached, `TensorData.alike_intoOwned`
  that they stay alike.
* `ownership_hidden` is the result for everything that is logged.
-/

set_option autoImplicit false

namespace ColumnLog

/-! ## Equality tests -/

/-- Whether an equality test comes to the same on related values. -/
def EqualityRespects {α : Type} [BEq α] (R : α → α → Prop) : Prop :=
  ∀ a b c d : α, R a b → R c d → (a == c) = (b == d)

theorem EqualityRespects.eq {α : Type} [BEq α] : EqualityRespects (α := α) Eq := by
  rintro a _ c _ rfl rfl
  rfl

theorem EqualityRespects.option {α : Type} [BEq α] {R : α → α → Prop} (h : EqualityRespects R) :
    EqualityRespects (Option.Rel R) := by
  rintro _ _ _ _ (⟨ab⟩ | _) (⟨cd⟩ | _)
  · exact h _ _ _ _ ab cd
  all_goals rfl

/-! ## Collections -/

namespace Collection

variable {α β : Type} {R : α → α → Prop} {c d c' d' : Collection α}

/-- Whether two collections hold related elements, in whatever way each of them holds its own.  A
null buffer goes with a null buffer of the same length. -/
inductive Alike (R : α → α → Prop) : Collection α → Collection α → Prop
  | readable {c d : Collection α} (left : c.isNull = false) (right : d.isNull = false)
      (same : List.Forall₂ R c.toList d.toList) : Alike R c d
  | null {count : Nat} (pos : 0 < count) : Alike R (null count pos) (null count pos)

namespace Alike

theorem map_eq_of_forall₂ {f : α → β} {xs ys : List α} (same : List.Forall₂ R xs ys)
    (hf : ∀ a b, R a b → f a = f b) : xs.map f = ys.map f := by
  have images : List.Forall₂ Eq (xs.map f) (ys.map f) := by
    rw [List.forall₂_map_left_iff, List.forall₂_map_right_iff]
    exact same.imp hf
  rwa [List.forall₂_eq_eq_eq] at images

theorem isEqv_eq {same : α → α → Bool} {xs ys xs' ys' : List α} (h : List.Forall₂ R xs ys)
    (h' : List.Forall₂ R xs' ys')
    (respects : ∀ a b a' b', R a b → R a' b' → same a a' = same b b') :
    xs.isEqv xs' same = ys.isEqv ys' same := by
  induction h generalizing xs' ys' with
  | nil => cases h' <;> rfl
  | cons head _ ih =>
    cases h' with
    | nil => rfl
    | cons head' tail' => rw [List.isEqv, List.isEqv, respects _ _ _ _ head head', ih tail']

theorem of_toList_eq (left : c.isNull = false) (right : d.isNull = false)
    (same : c.toList = d.toList) : c.Alike Eq d :=
  readable left right (by rw [same, List.forall₂_eq_eq_eq])

theorem refl (c : Collection α) : c.Alike Eq c := by
  cases c with
  | null count pos => exact .null pos
  | _ => exact of_toList_eq rfl rfl rfl

theorem isNull_eq (h : c.Alike R d) : c.isNull = d.isNull := by
  cases h with
  | readable left right => rw [left, right]
  | null => rfl

theorem length_eq (h : c.Alike R d) : c.length = d.length := by
  cases h with
  | readable left right same =>
    rw [length_eq_of_isNull_eq_false left, length_eq_of_isNull_eq_false right, same.length_eq]
  | null => rfl

theorem toList_eq (h : c.Alike Eq d) : c.toList = d.toList := by
  cases h with
  | readable left right same => rwa [List.forall₂_eq_eq_eq] at same
  | null => rfl

theorem values?_eq (h : c.Alike Eq d) : c.values? = d.values? := by
  have same := h.toList_eq
  cases h with
  | readable left right =>
    rw [values?_eq_ok_iff.mpr ⟨left, rfl⟩, values?_eq_ok_iff.mpr ⟨right, same.symm⟩]
  | null => rfl

/-- Images that do not tell related elements apart are the same elements. -/
theorem map {f : α → β} (h : c.Alike R d) (hf : ∀ a b, R a b → f a = f b) :
    (c.map f).Alike Eq (d.map f) := by
  cases h with
  | readable left right same =>
    refine of_toList_eq (by rwa [isNull_map]) (by rwa [isNull_map]) ?_
    rw [toList_map, toList_map, map_eq_of_forall₂ same hf]
  | null pos => exact .null pos

theorem eqv_eq {same : α → α → Bool} (h : c.Alike R d) (h' : c'.Alike R d')
    (respects : ∀ a b a' b', R a b → R a' b' → same a a' = same b b') :
    c.eqv same c' = d.eqv same d' := by
  rcases h with ⟨left, right, elements⟩ | ⟨pos⟩
  · rcases h' with ⟨left', right', elements'⟩ | ⟨pos'⟩
    · rw [eqv, eqv, values?_eq_ok_iff.mpr ⟨left, rfl⟩, values?_eq_ok_iff.mpr ⟨right, rfl⟩,
        values?_eq_ok_iff.mpr ⟨left', rfl⟩, values?_eq_ok_iff.mpr ⟨right', rfl⟩]
      exact isEqv_eq elements elements' respects
    · rw [eqv, eqv, values?_eq_ok_iff.mpr ⟨left, rfl⟩, values?_eq_ok_iff.mpr ⟨right, rfl⟩]
      rfl
  · rfl

end Alike

theorem equalityRespects_alike [BEq α] (h : EqualityRespects R) :
    EqualityRespects (Collection.Alike R) :=
  fun _ _ _ _ ab cd => ab.eqv_eq cd h

/-! ### Detaching -/

theorem exists_intoOwned_iff : (∃ d, c.intoOwned = .ok d) ↔ c.isNull = false := by
  cases c <;> simp [intoOwned, isNull]

theorem alike_intoOwned (h : c.intoOwned = .ok d) : d.Alike Eq c := by
  cases c with
  | null => cases h
  | _ => cases h; exact .of_toList_eq rfl rfl rfl

theorem ownership_intoOwned (h : c.intoOwned = .ok d) : d.ownership ≠ .borrowed := by
  cases c with
  | null => cases h
  | inline values spilled => cases h; cases spilled <;> nofun
  | _ => cases h; nofun

end Collection

/-! ## Buffers -/

namespace TensorBuffer

variable {a b c d : TensorBuffer}

/-- Whether two buffers are of one kind and hold the same elements. -/
inductive Alike : TensorBuffer → TensorBuffer → Prop
  | intro {kind : ElementKind} {c d : Collection kind.Element} (values : c.Alike Eq d) :
    Alike ⟨kind, c⟩ ⟨kind, d⟩

namespace Alike

theorem kind_eq (h : a.Alike b) : a.kind = b.kind := by
  obtain ⟨_⟩ := h
  rfl

theorem isNull_eq (h : a.Alike b) : a.isNull = b.isNull := by
  obtain ⟨values⟩ := h
  exact values.isNull_eq

theorem length_eq (h : a.Alike b) : a.length = b.length := by
  obtain ⟨values⟩ := h
  exact values.length_eq

theorem bytes_eq (h : a.Alike b) : a.bytes = b.bytes := by
  rw [bytes, bytes, h.length_eq, h.kind_eq]

theorem datum_eq (h : a.Alike b) : a.datum = b.datum := by
  obtain ⟨values⟩ := h
  rw [datum, datum, values.toList_eq]

theorem checkedDatum_eq (h : a.Alike b) : a.checkedDatum = b.checkedDatum := by
  rw [checkedDatum, checkedDatum, h.isNull_eq, h.kind_eq, h.length_eq, h.datum_eq]

theorem eqv_eq (h : a.Alike b) (h' : c.Alike d) : a.eqv c = b.eqv d := by
  obtain ⟨values⟩ := h
  obtain ⟨values'⟩ := h'
  rw [eqv, eqv]
  split
  · rename_i same
    cases same
    exact values.eqv_eq values' (by rintro _ _ _ _ rfl rfl; rfl)
  · rfl

end Alike

theorem intoOwned_eq_ok_iff : a.intoOwned = .ok b ↔
    ∃ values, a.values.intoOwned = .ok values ∧ b = ⟨a.kind, values⟩ := by
  rw [intoOwned]
  cases a.values.intoOwned with
  | ok values => exact ⟨fun h => ⟨values, rfl, (Except.ok.inj h).symm⟩, by rintro ⟨_, ⟨⟩, rfl⟩; rfl⟩
  | error e => exact ⟨nofun, nofun⟩

theorem exists_intoOwned_iff : (∃ b, a.intoOwned = .ok b) ↔ a.isNull = false := by
  rw [isNull, ← Collection.exists_intoOwned_iff]
  constructor
  · rintro ⟨b, h⟩
    obtain ⟨values, owned, -⟩ := intoOwned_eq_ok_iff.mp h
    exact ⟨values, owned⟩
  · rintro ⟨values, owned⟩
    exact ⟨_, intoOwned_eq_ok_iff.mpr ⟨values, owned, rfl⟩⟩

theorem alike_intoOwned (h : a.intoOwned = .ok b) : b.Alike a := by
  obtain ⟨values, owned, rfl⟩ := intoOwned_eq_ok_iff.mp h
  exact ⟨Collection.alike_intoOwned owned⟩

theorem ownership_intoOwned (h : a.intoOwned = .ok b) : b.values.ownership ≠ .borrowed := by
  obtain ⟨values, owned, rfl⟩ := intoOwned_eq_ok_iff.mp h
  exact Collection.ownership_intoOwned owned

end TensorBuffer

/-! ## Tensors -/

namespace TensorData

variable {a b c d : TensorData}

/-- Whether two tensors have the same dimensions and the same elements; shape and buffer may be
held each in a different way. -/
structure Alike (a b : TensorData) : Prop where
  shape : a.shape.Alike Eq b.shape
  buffer : a.buffer.Alike b.buffer

namespace Alike

theorem elementCount_eq (h : a.Alike b) : a.elementCount = b.elementCount := by
  rw [elementCount, elementCount, h.shape.values?_eq, h.buffer.length_eq]

theorem validate_eq (h : a.Alike b) : a.validate = b.validate := by
  rw [validate, validate, h.elementCount_eq, h.buffer.isNull_eq, h.buffer.kind_eq,
    h.buffer.length_eq]

theorem datum_eq (h : a.Alike b) : a.datum = b.datum := by
  rw [datum, datum, h.shape.toList_eq, h.buffer.datum_eq]

theorem checkedDatum_eq (h : a.Alike b) : a.checkedDatum = b.checkedDatum := by
  rw [checkedDatum, checkedDatum, h.validate_eq, h.datum_eq]

theorem heapBytes?_eq (h : a.Alike b) : a.heapBytes? = b.heapBytes? := by
  rw [heapBytes?, heapBytes?, h.shape.toList_eq, h.buffer.bytes_eq]

theorem eqv_eq (h : a.Alike b) (h' : c.Alike d) : a.eqv c = b.eqv d := by
  have shapes : (a.shape == c.shape) = (b.shape == d.shape) :=
    Collection.equalityRespects_alike .eq _ _ _ _ h.shape h'.shape
  have buffers : (a.buffer == c.buffer) = (b.buffer == d.buffer) := h.buffer.eqv_eq h'.buffer
  rw [eqv, eqv, shapes, buffers]

end Alike

theorem intoOwned_eq_ok_iff : a.intoOwned = .ok b ↔
    a.shape.intoOwned = .ok b.shape ∧ a.buffer.intoOwned = .ok b.buffer := by
  rw [intoOwned]
  cases a.shape.intoOwned with
  | error e => exact ⟨nofun, nofun⟩
  | ok shape =>
    cases a.buffer.intoOwned with
    | error e => exact ⟨nofun, nofun⟩
    | ok buffer =>
      obtain ⟨shape', buffer'⟩ := b
      constructor
      · rintro ⟨⟩
        exact ⟨rfl, rfl⟩
      · rintro ⟨⟨⟩, ⟨⟩⟩
        rfl

/-- A tensor can be detached exactly if it has no null buffer. -/
theorem exists_intoOwned_iff :
    (∃ b, a.intoOwned = .ok b) ↔ a.shape.isNull = false ∧ a.buffer.isNull = false := by
  rw [← Collection.exists_intoOwned_iff, ← TensorBuffer.exists_intoOwned_iff]
  constructor
  · rintro ⟨b, h⟩
    obtain ⟨shape, buffer⟩ := intoOwned_eq_ok_iff.mp h
    exact ⟨⟨_, shape⟩, ⟨_, buffer⟩⟩
  · rintro ⟨⟨shape, owned⟩, ⟨buffer, owned'⟩⟩
    exact ⟨⟨shape, buffer⟩, intoOwned_eq_ok_iff.mpr ⟨owned, owned'⟩⟩

theorem alike_intoOwned (h : a.intoOwned = .ok b) : b.Alike a := by
  obtain ⟨shape, buffer⟩ := intoOwned_eq_ok_iff.mp h
  exact ⟨Collection.alike_intoOwned shape, TensorBuffer.alike_intoOwned buffer⟩

end TensorData

/-! ## The types of the library -/

namespace LibraryType

instance (t : LibraryType) : BEq t.Value := by
  cases t <;> exact inferInstance

/-- Whether two values of a type hold the same.  Tensors and their buffers are made of collections;
values of any other type are alike only if they are the same. -/
def Alike : (t : LibraryType) → t.Value → t.Value → Prop
  | tensorBuffer, a, b => TensorBuffer.Alike a b
  | tensorData, a, b => TensorData.Alike a b
  | tensorComponent, a, b => TensorData.Alike a.value b.value
  | _, a, b => a = b

variable {t : LibraryType}

/-- What a pool is charged for a value, and what is written of it, is the same for all that are
alike. -/
theorem Alike.entry_eq {a b : t.Value} (h : t.Alike a b) : Loggable.entry a = Loggable.entry b := by
  cases t with
  | tensorBuffer =>
    exact congrArg₂ Entry.mk (TensorBuffer.Alike.checkedDatum_eq h)
      (congrArg some (TensorBuffer.Alike.bytes_eq h))
  | tensorData =>
    exact congrArg₂ Entry.mk (TensorData.Alike.checkedDatum_eq h) (TensorData.Alike.heapBytes?_eq h)
  | tensorComponent =>
    exact congrArg₂ Entry.mk (TensorData.Alike.checkedDatum_eq h) (TensorData.Alike.heapBytes?_eq h)
  | _ => exact congrArg Loggable.entry h

theorem map_entry_eq {xs ys : List t.Value} (h : List.Forall₂ t.Alike xs ys) :
    xs.map Loggable.entry = ys.map Loggable.entry :=
  Collection.Alike.map_eq_of_forall₂ h fun _ _ alike => alike.entry_eq

theorem equalityRespects (t : LibraryType) : EqualityRespects t.Alike := by
  intro a b c d ab cd
  cases t with
  | tensorBuffer => exact TensorBuffer.Alike.eqv_eq ab cd
  | tensorData => exact TensorData.Alike.eqv_eq ab cd
  | tensorComponent => exact TensorData.Alike.eqv_eq ab cd
  | _ => exact EqualityRespects.eq _ _ _ _ ab cd

end LibraryType

namespace LibraryComponent

/-- Whether two values of a component hold the same. -/
def Alike : (t : LibraryComponent) → t.Value → t.Value → Prop
  | tensorData, a, b => TensorData.Alike a.value b.value
  | _, a, b => a = b

variable {t : LibraryComponent}

theorem Alike.entry_eq {a b : t.Value} (h : t.Alike a b) : Loggable.entry a = Loggable.entry b := by
  cases t with
  | tensorData => exact LibraryType.Alike.entry_eq (t := .tensorComponent) h
  | _ => exact congrArg Loggable.entry h

end LibraryComponent

/-! ## Slots and archetypes -/

namespace Slot

variable {slot slot' : Slot}

/-- Whether two slots are of one component, and hold the same. -/
structure Alike (slot slot' : Slot) : Prop where
  schema : slot.schema = slot'.schema
  values : slot.values.Alike Eq slot'.values

theorem Alike.cell_eq (h : slot.Alike slot') (pool : Pool) : slot.cell pool = slot'.cell pool := by
  rw [cell, cell, h.schema, ComponentSchema.cellOfCollection, ComponentSchema.cellOfCollection,
    h.values.values?_eq]

section Filled

variable {α : Type} [Component α] {R : α → α → Prop}

theorem alike_batch (same : ∀ a b : α, R a b → Loggable.entry a = Loggable.entry b)
    {values values' : Collection α} (h : values.Alike R values') :
    (batch values).Alike (batch values') :=
  ⟨rfl, h.map same⟩

theorem alike_one (same : ∀ a b : α, R a b → Loggable.entry a = Loggable.entry b) {a b : α}
    (h : R a b) : (one a).Alike (one b) :=
  alike_batch same (.readable rfl rfl (.cons h .nil))

theorem rel_batch {o o' : Option (Collection α)} (h : Option.Rel (Collection.Alike Eq) o o') :
    Option.Rel Alike (o.map batch) (o'.map batch) := by
  obtain ⟨values⟩ | _ := h
  · exact .some (alike_batch (by rintro _ _ rfl; rfl) values)
  · exact .none

theorem rel_one {o o' : Option α} (h : o = o') : Option.Rel Alike (o.map one) (o'.map one) := by
  obtain rfl := h
  cases o with
  | none => exact .none
  | some a => exact .some (alike_one (R := Eq) (by rintro _ _ rfl; rfl) rfl)

end Filled

theorem forall₂_alike {slots slots' : List (Option Slot)}
    (h : List.Forall₂ (Option.Rel Alike) slots slots') :
    List.Forall₂ Alike (slots.filterMap id) (slots'.filterMap id) :=
  List.rel_filterMap (fun _ _ related => related) h

end Slot

theorem Composer.pushAll_eq {slots slots' : List Slot} (h : List.Forall₂ Slot.Alike slots slots')
    (c : Composer) (pool : Pool) : pushAll slots c pool = pushAll slots' c pool := by
  induction h generalizing c pool with
  | nil => rfl
  | cons head _ ih =>
    rw [pushAll, pushAll, push, push, head.cell_eq]
    split
    · exact ih _ _
    · rfl

namespace Archetype

/-- Whether two meshes hold the same, slot by slot. -/
structure Mesh3D.Alike (a b : Mesh3D) : Prop where
  vertexPositions : a.vertexPositions.Alike Eq b.vertexPositions
  meshProperties : a.meshProperties = b.meshProperties
  vertexNormals : Option.Rel (Collection.Alike Eq) a.vertexNormals b.vertexNormals
  vertexColors : Option.Rel (Collection.Alike Eq) a.vertexColors b.vertexColors
  meshMaterial : a.meshMaterial = b.meshMaterial
  classIds : Option.Rel (Collection.Alike Eq) a.classIds b.classIds
  instanceKeys : Option.Rel (Collection.Alike Eq) a.instanceKeys b.instanceKeys

theorem Mesh3D.alike_slots {a b : Mesh3D} (h : a.Alike b) :
    List.Forall₂ Slot.Alike (slots a) (slots b) := by
  refine Slot.forall₂_alike ?_
  refine .cons (Slot.rel_batch (.some h.vertexPositions)) ?_
  refine .cons (Slot.rel_one h.meshProperties) ?_
  refine .cons (Slot.rel_batch h.vertexNormals) ?_
  refine .cons (Slot.rel_batch h.vertexColors) ?_
  refine .cons (Slot.rel_one h.meshMaterial) ?_
  refine .cons (Slot.rel_batch h.classIds) ?_
  exact .cons (Slot.rel_batch h.instanceKeys) .nil

theorem Mesh3D.equalityRespects : EqualityRespects Mesh3D.Alike := by
  intro a b c d ab cd
  have batch {α : Type} [BEq α] {o p q r : Option (Collection α)}
      (h : Option.Rel (Collection.Alike Eq) o p) (h' : Option.Rel (Collection.Alike Eq) q r) :
      (o == q) = (p == r) :=
    (Collection.equalityRespects_alike .eq).option _ _ _ _ h h'
  have positions : (a.vertexPositions == c.vertexPositions) =
      (b.vertexPositions == d.vertexPositions) :=
    Collection.equalityRespects_alike .eq _ _ _ _ ab.vertexPositions cd.vertexPositions
  show a.eqv c = b.eqv d
  rw [eqv, eqv, positions, ab.meshProperties, cd.meshProperties,
    batch ab.vertexNormals cd.vertexNormals, batch ab.vertexColors cd.vertexColors,
    ab.meshMaterial, cd.meshMaterial, batch ab.classIds cd.classIds,
    batch ab.instanceKeys cd.instanceKeys]

end Archetype

namespace LibraryArchetype

instance (t : LibraryArchetype) : BEq t.Value := by
  cases t <;> exact inferInstance

/-- Whether two values of an archetype hold the same. -/
def Alike : (t : LibraryArchetype) → t.Value → t.Value → Prop
  | mesh3D, a, b => Archetype.Mesh3D.Alike a b
  | tensor, a, b => TensorData.Alike a.data.value b.data.value
  | pinhole, a, b => a = b
  | transform3D, a, b => a = b

variable {t : LibraryArchetype} {a b : t.Value}

theorem Alike.slots (h : t.Alike a b) :
    List.Forall₂ Slot.Alike (Archetype.slots a) (Archetype.slots b) := by
  have same {slots : List Slot} : List.Forall₂ Slot.Alike slots slots :=
    List.forall₂_same.mpr fun slot _ => ⟨rfl, .refl slot.values⟩
  cases t with
  | mesh3D => exact Archetype.Mesh3D.alike_slots h
  | tensor =>
    exact .cons (Slot.alike_one (fun _ _ => LibraryComponent.Alike.entry_eq (t := .tensorData)) h)
      .nil
  | pinhole => cases h; exact same
  | transform3D => cases h; exact same

theorem Alike.count_eq (h : t.Alike a b) : Archetype.count a = Archetype.count b := by
  cases t with
  | mesh3D => exact (Archetype.Mesh3D.Alike.vertexPositions h).length_eq
  | _ => rfl

theorem Alike.cells_eq (h : t.Alike a b) (pool : Pool) :
    Archetype.cells a pool = Archetype.cells b pool := by
  rw [Archetype.cells, Archetype.cells, Composer.pushAll_eq h.slots, h.count_eq]

theorem equalityRespects (t : LibraryArchetype) : EqualityRespects t.Alike := by
  intro a b c d ab cd
  cases t with
  | mesh3D => exact Archetype.Mesh3D.equalityRespects _ _ _ _ ab cd
  | tensor => exact TensorData.Alike.eqv_eq ab cd
  | _ => exact EqualityRespects.eq _ _ _ _ ab cd

end LibraryArchetype

/-! ## What is read and logged -/

/-- **How elements are held does not show.**  Tensors that hold the same have the same number of
elements and pass the same checks.  Values that hold the same count for the same bytes, and come to
the same column, cell or error with the same charges, as single values, in lists, in collections and
in archetypes.  No equality test tells them apart.  Buffers and tensors can be detached unless they
have a null buffer, and what is detached borrows nothing and holds the same as before. -/
theorem ownership_hidden :
    (∀ a b : TensorData, a.Alike b →
      a.elementCount = b.elementCount ∧ a.validate = b.validate) ∧
    (∀ (t : LibraryType) (xs ys : List t.Value), List.Forall₂ t.Alike xs ys →
      (xs.map fun a => (Loggable.entry a).heapBytes) =
        (ys.map fun b => (Loggable.entry b).heapBytes) ∧
      (∀ (b : PooledBuilder) (pool : Pool),
        b.fill pool (xs.map Loggable.entry) = b.fill pool (ys.map Loggable.entry)) ∧
      ∀ pool : Pool, Loggable.write xs pool = Loggable.write ys pool) ∧
    (∀ (t : LibraryComponent) (xs ys : Collection t.Value), xs.Alike t.Alike ys →
      ∀ pool : Pool, Component.cellOfCollection xs pool = Component.cellOfCollection ys pool) ∧
    (∀ (t : LibraryArchetype) (a b : t.Value), t.Alike a b →
      ∀ pool : Pool, Archetype.cells a pool = Archetype.cells b pool ∧
        Archetype.serialize a pool = Archetype.serialize b pool) ∧
    ((∀ t : LibraryType, EqualityRespects t.Alike ∧ EqualityRespects (Collection.Alike t.Alike)) ∧
      ∀ t : LibraryArchetype, EqualityRespects t.Alike) ∧
    (∀ b : TensorBuffer, ((∃ o, b.intoOwned = .ok o) ↔ b.isNull = false) ∧
      ∀ o, b.intoOwned = .ok o → (o.Alike b ∧ o.values.ownership ≠ .borrowed) ∧
        ∀ pool : Pool, Loggable.write [o] pool = Loggable.write [b] pool) ∧
    ∀ t : TensorData,
      ((∃ o, t.intoOwned = .ok o) ↔ t.shape.isNull = false ∧ t.buffer.isNull = false) ∧
      ∀ o, t.intoOwned = .ok o →
        (o.Alike t ∧ o.shape.ownership ≠ .borrowed ∧ o.buffer.values.ownership ≠ .borrowed) ∧
        ∀ pool : Pool, Loggable.write [o] pool = Loggable.write [t] pool := by
  have write {t : LibraryType} {xs ys : List t.Value} (h : List.Forall₂ t.Alike xs ys)
      (pool : Pool) : Loggable.write xs pool = Loggable.write ys pool := by
    rw [Loggable.write, Loggable.write, LibraryType.map_entry_eq h]
  refine ⟨fun a b h => ⟨h.elementCount_eq, h.validate_eq⟩, fun t xs ys h => ⟨?_, ?_, write h⟩,
    fun t xs ys h pool => ?_, fun t a b h pool => ⟨h.cells_eq pool, ?_⟩,
    ⟨fun t => ⟨t.equalityRespects, Collection.equalityRespects_alike t.equalityRespects⟩,
      fun t => t.equalityRespects⟩,
    fun b => ⟨TensorBuffer.exists_intoOwned_iff, fun o owned => ?_⟩,
    fun t => ⟨TensorData.exists_intoOwned_iff, fun o owned => ?_⟩⟩
  · exact Collection.Alike.map_eq_of_forall₂ h fun _ _ alike => by rw [alike.entry_eq]
  · intro b pool
    rw [LibraryType.map_entry_eq h]
  · exact (Slot.alike_batch (fun _ _ => LibraryComponent.Alike.entry_eq) h).cell_eq pool
  · rw [Archetype.serialize, Archetype.serialize, h.cells_eq pool]
  · have alike := TensorBuffer.alike_intoOwned owned
    exact ⟨⟨alike, TensorBuffer.ownership_intoOwned owned⟩,
      write (t := .tensorBuffer) (.cons alike .nil)⟩
  · have alike := TensorData.alike_intoOwned owned
    obtain ⟨shape, buffer⟩ := TensorData.intoOwned_eq_ok_iff.mp owned
    exact ⟨⟨alike, Collection.ownership_intoOwned shape, TensorBuffer.ownership_intoOwned buffer⟩,
      write (t := .tensorData) (.cons alike .nil)⟩

/-- A tensor with borrowed elements and one with its own, and two such meshes. -/
theorem ownership_hidden_lent :
    let lent : TensorData := ⟨.borrowed [.named 1 "rows"], ⟨.u8, .borrowed [7]⟩⟩
    let held : TensorData := ⟨.single (.named 1 "rows"), ⟨.u8, .owned [7]⟩⟩
    let mesh : Archetype.Mesh3D :=
      { vertexPositions := .borrowed [⟨.ones⟩], classIds := some (.null 2 (by decide)) }
    let mesh' := { mesh with vertexPositions := .owned [⟨.ones⟩] }
    (lent.Alike held ∧ mesh.Alike mesh') ∧ (lent.validate = .ok () ∧ held.validate = .ok ()) ∧
      (∀ pool : Pool, Loggable.write [lent] pool = Loggable.write [held] pool) ∧
      (∀ pool : Pool, Archetype.cells mesh pool = Archetype.cells mesh' pool) ∧
      ∃ o, lent.intoOwned = .ok o ∧
        ∀ pool : Pool, Loggable.write [o] pool = Loggable.write [lent] pool := by
  intro lent held mesh mesh'
  have alike : lent.Alike held := ⟨.of_toList_eq rfl rfl rfl, ⟨.of_toList_eq rfl rfl rfl⟩⟩
  have alike' : mesh.Alike mesh' :=
    ⟨.of_toList_eq rfl rfl rfl, rfl, .none, .none, rfl, .some (.refl _), .none⟩
  obtain ⟨tensors, lists, -, archetypes, -, -, detached⟩ := ownership_hidden
  have valid : lent.validate = .ok () := by rfl
  obtain ⟨o, owned⟩ := (detached lent).1.mpr ⟨rfl, rfl⟩
  exact ⟨⟨alike, alike'⟩, ⟨valid, (tensors lent held alike).2 ▸ valid⟩,
    (lists .tensorData [lent] [held] (.cons alike .nil)).2.2,
    fun pool => (archetypes .mesh3D mesh mesh' alike' pool).1,
    o, owned, ((detached lent).2 o owned).2⟩

end ColumnLog
