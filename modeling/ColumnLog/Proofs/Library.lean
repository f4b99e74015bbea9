import ColumnLog.Component.Camera
import ColumnLog.Component.Geometry
import ColumnLog.Component.Mesh
import ColumnLog.Component.Tensor
import ColumnLog.Proofs.Readable

/-!
# Readers of the loggable types

Every loggable type of the library can be read back.  A value is read with collections of its own:
whether the written one owned or borrowed its elements is not part of a column.

* A reader for every type, in the order in which the types are built on each other.
* `LibraryType` lists the types, with the values of each; `LibraryComponent` lists those that get a
  column of their own.
-/

set_option autoImplicit false

namespace ColumnLog

/-! ## Types whose values are all written -/

namespace Readable

variable {α : Type} {kind : NameKind}

/-- The reader of a type that rejects no value. -/
@[reducible]
def ofDatum [Loggable α kind] (datum : α → Datum) (read? : Datum → Option α)
    (start_eq : (Loggable.schema α).start = .new (Loggable.schema α).type)
    (entry : ∀ a, (Loggable.entry a).datum = .ok (datum a))
    (regular : (Loggable.schema α).type.Regular)
    (admits : ∀ a, (Loggable.schema α).type.Admits (datum a))
    (read?_datum : ∀ a, read? (datum a) = some a) : Readable α where
  Accepts _ := True
  datum := datum
  read? := read?
  settled a := a
  start_eq := start_eq
  regular := regular
  entry_of_accepts a _ := entry a
  entry_of_not_accepts _ h := absurd trivial h
  admits := admits
  read?_datum := read?_datum

end Readable

/-! ## Numbers, vectors and matrices -/

theorem DataType.regular_floats {size : Nat} (pos : 0 < size) (le : size ≤ Size.largestOffset) :
    (floats size).Regular :=
  .fixedSizeList .float32 pos le

/-- What the floats of an entry stand for. -/
def Datum.floats? {α : Type} (ofList? : List Binary32 → Option α) (d : Datum) : Option α :=
  (d.scalars? .float32).bind ofList?

@[simp]
theorem Datum.floats?_scalars {α : Type} (ofList? : List Binary32 → Option α)
    (values : List Binary32) : floats? ofList? (scalars .float32 values) = ofList? values := by
  rw [floats?, scalars?_scalars (p := .float32), Option.bind_some]

instance : Readable Binary32 :=
  .ofDatum (.scalar .float32) (Datum.scalar? .float32) rfl (fun _ => rfl) (.leaf _) (fun _ => rfl)
    fun x => Datum.scalar?_scalar (p := .float32) x

/-- The reader of a type whose values are `size` floats. -/
@[reducible]
def Readable.ofFloats {α : Type} {kind : NameKind} [Loggable α kind] (size : Nat)
    (toList : α → List Binary32) (ofList? : List Binary32 → Option α)
    (start_eq : (Loggable.schema α).start = .new (.floats size))
    (type_eq : (Loggable.schema α).type = .floats size)
    (entry : ∀ a, (Loggable.entry a).datum = .ok (.scalars .float32 (toList a)))
    (pos : 0 < size) (le : size ≤ Size.largestOffset) (length : ∀ a, (toList a).length = size)
    (read : ∀ a, ofList? (toList a) = some a) : Readable α :=
  .ofDatum (fun a => .scalars .float32 (toList a)) (Datum.floats? ofList?)
    (by rw [start_eq, type_eq]) entry (by rw [type_eq]; exact DataType.regular_floats pos le)
    (fun a => by rw [type_eq]; exact DataType.admits_scalars (length a))
    fun a => (Datum.floats?_scalars ofList? _).trans (read a)

instance : Readable Vec2D :=
  .ofFloats 2 Vec2D.toList Vec2D.ofList? rfl rfl (fun _ => rfl) (by decide) (by decide)
    (fun _ => rfl) fun _ => rfl

instance : Readable Vec3D :=
  .ofFloats 3 Vec3D.toList Vec3D.ofList? rfl rfl (fun _ => rfl) (by decide) (by decide)
    (fun _ => rfl) fun _ => rfl

instance : Readable Vec4D :=
  .ofFloats 4 Vec4D.toList Vec4D.ofList? rfl rfl (fun _ => rfl) (by decide) (by decide)
    (fun _ => rfl) fun _ => rfl

instance : Readable Mat3x3 :=
  .ofFloats 9 Mat3x3.toList Mat3x3.ofList? rfl rfl (fun _ => rfl) (by decide) (by decide)
    (fun _ => rfl) fun _ => rfl

instance : Readable Mat4x4 :=
  .ofFloats 16 Mat4x4.toList Mat4x4.ofList? rfl rfl (fun _ => rfl) (by decide) (by decide)
    (fun _ => rfl) fun _ => rfl

instance : Readable Quaternion :=
  .ofFloats 4 Quaternion.toList Quaternion.ofList? rfl rfl (fun _ => rfl) (by decide) (by decide)
    (fun _ => rfl) fun _ => rfl

/-- The colour that a slot holds. -/
def Rgba32.read? (d : Datum) : Option Rgba32 := (d.scalar? .uint32).map mk

theorem Rgba32.read?_scalar (c : Rgba32) : read? (.scalar .uint32 c.packed) = some c := by
  rw [read?, Datum.scalar?_scalar, Option.map_some]

instance : Readable Rgba32 :=
  .ofDatum (fun c => .scalar .uint32 c.packed) Rgba32.read? rfl (fun _ => rfl) (.leaf _)
    (fun _ => rfl) Rgba32.read?_scalar

instance : Readable ClassId :=
  .ofDatum (fun id => .scalar .uint16 id.value) (fun d => (d.scalar? .uint16).map ClassId.mk) rfl
    (fun _ => rfl) (.leaf _) (fun _ => rfl) fun id => by simp

/-! ## Angles and rotations -/

namespace Angle

/-- The angle that a slot holds. -/
def read? : Datum → Option Angle
  | .variant 1 d => (d.scalar? .float32).map inRadians
  | .variant 2 d => (d.scalar? .float32).map inDegrees
  | _ => none

@[simp]
theorem read?_datum (a : Angle) : read? a.datum = some a := by
  cases a <;> simp [datum, read?]

theorem regular : type.Regular := by
  refine .union (by simp [Field.required]) ?_
  refine Field.regular_cons (.leaf _) ?_
  refine Field.regular_cons (.leaf _) ?_
  exact Field.regular_nil

theorem admits (a : Angle) : type.Admits a.datum := by
  cases a with
  | inRadians value => exact ⟨by decide, Field.allows_of_admits rfl⟩
  | inDegrees value => exact ⟨by decide, Field.allows_of_admits rfl⟩

instance : Readable Angle := .ofDatum datum read? rfl (fun _ => rfl) regular admits read?_datum

end Angle

namespace RotationAxisAngle

/-- The rotation that a slot holds. -/
def read? : Datum → Option RotationAxisAngle
  | .record [axis, angle] => do
    return ⟨← axis.floats? Vec3D.ofList?, ← Angle.read? angle⟩
  | _ => none

@[simp]
theorem read?_datum (r : RotationAxisAngle) : read? r.datum = some r := by
  simp [datum, read?]

theorem regular : type.Regular := by
  refine .struct (by simp) ?_
  refine Field.regular_cons (DataType.regular_floats (by decide) (by decide)) ?_
  refine Field.regular_cons Angle.regular ?_
  exact Field.regular_nil

theorem admits (r : RotationAxisAngle) : type.Admits r.datum :=
  ⟨Field.allows_of_admits (DataType.admits_scalars rfl), Field.allows_of_admits r.angle.admits,
    trivial⟩

instance : Readable RotationAxisAngle :=
  .ofDatum datum read? rfl (fun _ => rfl) regular admits read?_datum

end RotationAxisAngle

namespace Rotation3D

/-- The rotation that a slot holds. -/
def read? : Datum → Option Rotation3D
  | .variant 1 d => (d.floats? Quaternion.ofList?).map quaternion
  | .variant 2 d => (RotationAxisAngle.read? d).map axisAngle
  | _ => none

@[simp]
theorem read?_datum (r : Rotation3D) : read? r.datum = some r := by
  cases r <;> simp [datum, read?]

theorem regular : type.Regular := by
  refine .union (by simp [Field.required]) ?_
  refine Field.regular_cons (DataType.regular_floats (by decide) (by decide)) ?_
  refine Field.regular_cons RotationAxisAngle.regular ?_
  exact Field.regular_nil

theorem admits (r : Rotation3D) : type.Admits r.datum := by
  cases r with
  | quaternion q =>
    exact ⟨by decide, Field.allows_of_admits (DataType.admits_scalars (p := .float32) rfl)⟩
  | axisAngle r => exact ⟨by decide, Field.allows_of_admits r.admits⟩

instance : Readable Rotation3D := .ofDatum datum read? rfl (fun _ => rfl) regular admits read?_datum

end Rotation3D

/-! ## Scales and transforms -/

namespace Scale3D

/-- The scale that a slot holds. -/
def read? : Datum → Option Scale3D
  | .variant 1 d => (d.floats? Vec3D.ofList?).map perAxis
  | .variant 2 d => (d.scalar? .float32).map uniform
  | _ => none

@[simp]
theorem read?_datum (s : Scale3D) : read? s.datum = some s := by
  cases s <;> simp [datum, read?]

theorem regular : type.Regular := by
  refine .union (by simp [Field.required]) ?_
  refine Field.regular_cons (DataType.regular_floats (by decide) (by decide)) ?_
  refine Field.regular_cons (.leaf _) ?_
  exact Field.regular_nil

theorem admits (s : Scale3D) : type.Admits s.datum := by
  cases s with
  | perAxis factors =>
    exact ⟨by decide, Field.allows_of_admits (DataType.admits_scalars (p := .float32) rfl)⟩
  | uniform factor => exact ⟨by decide, Field.allows_of_admits rfl⟩

instance : Readable Scale3D := .ofDatum datum read? rfl (fun _ => rfl) regular admits read?_datum

end Scale3D

theorem Datum.option?_floats {α : Type} {toList : α → List Binary32}
    {ofList? : List Binary32 → Option α} (read : ∀ a, ofList? (toList a) = some a) (o : Option α) :
    option? (floats? ofList?) (ofOption (fun a => scalars .float32 (toList a)) o) = some o :=
  option?_ofOption _ (fun a => by rw [floats?_scalars, read]) (fun _ => by simp [scalars]) o

theorem Field.allows_floats {α : Type} {name : String} {size : Nat} (toList : α → List Binary32)
    (h : ∀ a, (toList a).length = size) (o : Option α) :
    (optional name (.floats size)).Allows (.ofOption (fun a => .scalars .float32 (toList a)) o) :=
  allows_ofOption _ (fun a => DataType.admits_scalars (h a)) o

namespace TranslationAndMat3x3

/-- The transform that a slot holds. -/
def read? : Datum → Option TranslationAndMat3x3
  | .record [translation, matrix, fromParent] => do
    return ⟨← translation.option? (Datum.floats? Vec3D.ofList?),
      ← matrix.option? (Datum.floats? Mat3x3.ofList?), ← fromParent.scalar? .boolean⟩
  | _ => none

@[simp]
theorem read?_datum (t : TranslationAndMat3x3) : read? t.datum = some t := by
  simp [datum, read?, Datum.option?_floats Vec3D.ofList?_toList,
    Datum.option?_floats Mat3x3.ofList?_toList]

theorem regular : type.Regular := by
  refine .struct (by simp) ?_
  refine Field.regular_cons (DataType.regular_floats (by decide) (by decide)) ?_
  refine Field.regular_cons (DataType.regular_floats (by decide) (by decide)) ?_
  refine Field.regular_cons (.leaf _) ?_
  exact Field.regular_nil

theorem admits (t : TranslationAndMat3x3) : type.Admits t.datum :=
  ⟨Field.allows_floats Vec3D.toList (fun _ => rfl) _,
    Field.allows_floats Mat3x3.toList (fun _ => rfl) _, Field.allows_of_admits rfl, trivial⟩

instance : Readable TranslationAndMat3x3 :=
  .ofDatum datum read? rfl (fun _ => rfl) regular admits read?_datum

end TranslationAndMat3x3

namespace TranslationRotationScale3D

/-- The transform that a slot holds. -/
def read? : Datum → Option TranslationRotationScale3D
  | .record [translation, rotation, scale, fromParent] => do
    return ⟨← translation.option? (Datum.floats? Vec3D.ofList?),
      ← rotation.option? Rotation3D.read?, ← scale.option? Scale3D.read?,
      ← fromParent.scalar? .boolean⟩
  | _ => none

@[simp]
theorem read?_datum (t : TranslationRotationScale3D) : read? t.datum = some t := by
  have rotation := Datum.option?_ofOption _ Rotation3D.read?_datum
    (fun r => r.admits.ne_null) t.rotation
  have scale := Datum.option?_ofOption _ Scale3D.read?_datum (fun s => s.admits.ne_null) t.scale
  simp [datum, read?, Datum.option?_floats Vec3D.ofList?_toList, rotation, scale]

theorem regular : type.Regular := by
  refine .struct (by simp) ?_
  refine Field.regular_cons (DataType.regular_floats (by decide) (by decide)) ?_
  refine Field.regular_cons Rotation3D.regular ?_
  refine Field.regular_cons Scale3D.regular ?_
  refine Field.regular_cons (.leaf _) ?_
  exact Field.regular_nil

theorem admits (t : TranslationRotationScale3D) : type.Admits t.datum :=
  ⟨Field.allows_floats Vec3D.toList (fun _ => rfl) _, Field.allows_ofOption _ Rotation3D.admits _,
    Field.allows_ofOption _ Scale3D.admits _, Field.allows_of_admits rfl, trivial⟩

instance : Readable TranslationRotationScale3D :=
  .ofDatum datum read? rfl (fun _ => rfl) regular admits read?_datum

end TranslationRotationScale3D

namespace Transform3D

/-- The transform that a slot holds. -/
def read? : Datum → Option Transform3D
  | .variant 1 d => (TranslationAndMat3x3.read? d).map translationAndMat3x3
  | .variant 2 d => (TranslationRotationScale3D.read? d).map translationRotationScale
  | _ => none

@[simp]
theorem read?_datum (t : Transform3D) : read? t.datum = some t := by
  cases t <;> simp [datum, read?]

theorem regular : type.Regular := by
  refine .union (by simp [Field.required]) ?_
  refine Field.regular_cons TranslationAndMat3x3.regular ?_
  refine Field.regular_cons TranslationRotationScale3D.regular ?_
  exact Field.regular_nil

theorem admits (t : Transform3D) : type.Admits t.datum := by
  cases t with
  | translationAndMat3x3 t => exact ⟨by decide, Field.allows_of_admits t.admits⟩
  | translationRotationScale t => exact ⟨by decide, Field.allows_of_admits t.admits⟩

instance : Readable Transform3D :=
  .ofDatum datum read? rfl (fun _ => rfl) regular admits read?_datum

end Transform3D

/-! ## Parts of meshes -/

namespace MeshProperties

/-- The properties that a slot holds. -/
def read? : Datum → Option MeshProperties
  | .record [indices] => do return ⟨← indices.option? (Datum.scalars? .uint32)⟩
  | _ => none

@[simp]
theorem read?_datum (m : MeshProperties) : read? m.datum = some m := by
  have indices := Datum.option?_ofOption _ (Datum.scalars?_scalars (p := .uint32))
    (fun _ => by simp [Datum.scalars]) m.indices
  simp [datum, read?, indices]

theorem regular : type.Regular := by
  refine .struct (by simp) ?_
  refine Field.regular_cons (.list (.leaf _)) ?_
  exact Field.regular_nil

theorem admits (m : MeshProperties) : type.Admits m.datum :=
  ⟨Field.allows_ofOption (fun indices : List UInt32 => .scalars .uint32 indices)
    (DataType.admits_items _ (DataType.admits_scalar .uint32)) _, trivial⟩

instance : Readable MeshProperties :=
  .ofDatum datum read? rfl (fun _ => rfl) regular admits read?_datum

end MeshProperties

namespace Material

/-- The material that a slot holds. -/
def read? : Datum → Option Material
  | .record [albedo] => do return ⟨← albedo.option? Rgba32.read?⟩
  | _ => none

@[simp]
theorem read?_datum (m : Material) : read? m.datum = some m := by
  have albedo := Datum.option?_ofOption _ Rgba32.read?_scalar (fun _ => by simp) m.albedoFactor
  simp [datum, read?, albedo]

theorem regular : type.Regular := by
  refine .struct (by simp) ?_
  refine Field.regular_cons (.leaf _) ?_
  exact Field.regular_nil

theorem admits (m : Material) : type.Admits m.datum :=
  ⟨Field.allows_ofOption (fun c : Rgba32 => .scalar .uint32 c.packed)
    (fun c => DataType.admits_scalar .uint32 c.packed) _, trivial⟩

instance : Readable Material := .ofDatum datum read? rfl (fun _ => rfl) regular admits read?_datum

end Material

/-! ## Tensors -/

namespace TensorDimension

/-- The dimension that a slot holds. -/
def read? : Datum → Option TensorDimension
  | .record [size, name] => do
    return ⟨← size.scalar? .uint64, ← name.option? (Datum.scalar? .utf8)⟩
  | _ => none

@[simp]
theorem read?_datum (d : TensorDimension) : read? d.datum = some d := by
  have name :=
    Datum.option?_ofOption _ (Datum.scalar?_scalar (p := .utf8)) (fun _ => by simp) d.name
  simp [datum, read?, name]

theorem regular : type.Regular := by
  refine .struct (by simp) ?_
  refine Field.regular_cons (.leaf _) ?_
  refine Field.regular_cons (.leaf _) ?_
  exact Field.regular_nil

theorem admits (d : TensorDimension) : type.Admits d.datum :=
  ⟨Field.allows_of_admits rfl, Field.allows_ofOption _ (DataType.admits_scalar .utf8) _, trivial⟩

instance : Readable TensorDimension :=
  .ofDatum datum read? rfl (fun _ => rfl) regular admits read?_datum

end TensorDimension

namespace TensorBuffer

/-- The buffer with elements of its own. -/
def settled (b : TensorBuffer) : TensorBuffer := ⟨b.kind, .owned b.values.toList⟩

/-- The buffer that a slot holds. -/
def read? : Datum → Option TensorBuffer
  | .variant id d =>
    match ElementKind.ofTag id.toNat with
    | .ok kind => (d.scalars? kind.primitive).map fun values => ⟨kind, .owned values⟩
    | .error _ => none
  | _ => none

@[simp]
theorem read?_datum (b : TensorBuffer) : read? b.datum = some b.settled := by
  simp [datum, read?, settled, ElementKind.ofTag_tag]

theorem regular : type.Regular := by
  refine .union ?_ ?_
  · intro f hf
    obtain ⟨kind, -, rfl⟩ := List.mem_map.mp hf
    rfl
  · intro f hf
    obtain ⟨kind, -, rfl⟩ := List.mem_map.mp hf
    exact .list (.leaf _)

theorem admits (b : TensorBuffer) : type.Admits b.datum := by
  have variant (kind : ElementKind) :
      0 < kind.tag ∧ (DataType.nullMarkers :: ElementKind.all.map fun kind =>
        Field.required kind.name (.list (.item (.leaf kind.primitive))))[kind.tag]? =
          some (.required kind.name (.list (.item (.leaf kind.primitive)))) := by
    cases kind <;> exact ⟨by decide, rfl⟩
  obtain ⟨pos, field⟩ := variant b.kind
  refine ⟨Int.ofNat_lt.mpr pos, (Field.allowsAt_iff _ _ _).mpr ⟨_, field, ?_⟩⟩
  exact Field.allows_of_admits (DataType.admits_items _ (DataType.admits_scalar _) _)

theorem checkedDatum_of_isNull {b : TensorBuffer} (h : b.isNull = true) :
    ∃ e, b.checkedDatum = .error e := ⟨_, by rw [checkedDatum, if_pos h]⟩

instance : Readable TensorBuffer where
  Accepts b := b.isNull = false
  datum := datum
  read? := read?
  settled := settled
  start_eq := rfl
  regular := regular
  entry_of_accepts b h := by
    show b.checkedDatum = _
    rw [checkedDatum, if_neg (by simp [h])]
  entry_of_not_accepts b h := checkedDatum_of_isNull (by simpa using h)
  admits := admits
  read?_datum := read?_datum

end TensorBuffer

namespace TensorData

/-- The tensor with a shape and elements of its own. -/
def settled (t : TensorData) : TensorData := ⟨.owned t.shape.toList, t.buffer.settled⟩

/-- Whether the shape and the elements are there and fit each other: the sizes multiply to a machine
word, and unless the elements are an encoded image there are as many of them. -/
def Consistent (t : TensorData) : Prop :=
  t.shape.isNull = false ∧ t.buffer.isNull = false ∧
    ∃ count, product? 1 t.shape.toList = some count ∧
      (t.buffer.kind.isEncoded = true ∨ t.buffer.length = count)

/-- The tensor that a slot holds. -/
def read? : Datum → Option TensorData
  | .record [.items dims, buffer] => do
    return ⟨.owned (← dims.mapM TensorDimension.read?), ← TensorBuffer.read? buffer⟩
  | _ => none

@[simp]
theorem read?_datum (t : TensorData) : read? t.datum = some t.settled := by
  have dims : (t.shape.toList.map TensorDimension.datum).mapM TensorDimension.read? =
      some t.shape.toList := by
    induction t.shape.toList with
    | nil => rfl
    | cons d dims ih => simp [ih]
  simp [datum, read?, settled, dims]

theorem regular : type.Regular := by
  refine .struct (by simp) ?_
  refine Field.regular_cons (.list TensorDimension.regular) ?_
  refine Field.regular_cons TensorBuffer.regular ?_
  exact Field.regular_nil

theorem admits (t : TensorData) : type.Admits t.datum :=
  ⟨Field.allows_of_admits (DataType.admits_items _ TensorDimension.admits _),
    Field.allows_of_admits t.buffer.admits, trivial⟩

theorem elementCount_eq_ok_iff {t : TensorData} {count : Nat} :
    t.elementCount = .ok count ↔
      t.shape.isNull = false ∧ product? 1 t.shape.toList = some count := by
  cases h : t.shape.values? with
  | error e =>
    have null : t.shape.isNull ≠ false := fun hn => by
      rw [Collection.values?_eq_ok_iff.mpr ⟨hn, rfl⟩] at h
      cases h
    rw [elementCount, h]
    exact ⟨nofun, fun h => absurd h.1 null⟩
  | ok dims =>
    obtain ⟨present, rfl⟩ := Collection.values?_eq_ok_iff.mp h
    rw [elementCount, h]
    cases product : product? 1 t.shape.toList with
    | none => simp [product, bind, Except.bind, throw, throwThe, MonadExceptOf.throw]
    | some n =>
      simp only [product, bind, Except.bind, pure, Except.pure, Except.ok.injEq, Option.some.injEq]
      exact ⟨fun h => ⟨present, h⟩, And.right⟩

theorem validate_eq_ok_iff {t : TensorData} : t.validate = .ok () ↔ t.Consistent := by
  cases h : t.elementCount with
  | error e =>
    have none (count : Nat) :
        ¬ (t.shape.isNull = false ∧ product? 1 t.shape.toList = some count) := fun hc => by
      rw [elementCount_eq_ok_iff.mpr hc] at h
      cases h
    rw [validate, h]
    exact ⟨nofun, fun ⟨shape, _, count, product, _⟩ => absurd ⟨shape, product⟩ (none count)⟩
  | ok count =>
    obtain ⟨shape, product⟩ := elementCount_eq_ok_iff.mp h
    rw [validate, h]
    cases null : t.buffer.isNull <;> cases encoded : t.buffer.kind.isEncoded <;>
      by_cases length : t.buffer.length = count <;>
      simp [Consistent, shape, product, null, encoded, length, bind, Except.bind, pure, Except.pure]

theorem checkedDatum_of_consistent {t : TensorData} (h : t.Consistent) :
    t.checkedDatum = .ok t.datum := by
  rw [checkedDatum, validate_eq_ok_iff.mpr h]
  rfl

theorem checkedDatum_of_not_consistent {t : TensorData} (h : ¬ t.Consistent) :
    ∃ e, t.checkedDatum = .error e := by
  cases hv : t.validate with
  | ok u => exact absurd (validate_eq_ok_iff.mp hv) h
  | error e => exact ⟨e, by rw [checkedDatum, hv]; rfl⟩

instance : Readable TensorData where
  Accepts := Consistent
  datum := datum
  read? := read?
  settled := settled
  start_eq := rfl
  regular := regular
  entry_of_accepts _ h := checkedDatum_of_consistent h
  entry_of_not_accepts _ h := checkedDatum_of_not_consistent h
  admits := admits
  read?_datum := read?_datum

end TensorData

/-! ## Components -/

namespace Component

instance : Readable Position3D := .wrapping Position3D.mk

instance : Readable Vector3D := .wrapping Vector3D.mk

instance : Readable Resolution := .wrapping Resolution.mk

instance : Readable PinholeProjection := .wrapping PinholeProjection.mk

instance : Readable Transform3D := .wrapping Transform3D.mk

instance : Readable Color := .wrapping Color.mk

instance : Readable ClassId := .wrapping ClassId.mk

instance : Readable MeshProperties := .wrapping MeshProperties.mk

instance : Readable Material := .wrapping Material.mk

instance : Readable TensorData := .wrapping TensorData.mk

instance : Readable InstanceKey :=
  .ofDatum (fun key => .scalar .uint64 key.value) (fun d => (d.scalar? .uint64).map InstanceKey.mk)
    rfl (fun _ => rfl) (.leaf _) (fun _ => rfl) fun key => by simp

instance : Readable ViewCoordinates :=
  .ofDatum (fun v => .scalars .uint8 v.toList)
    (fun d => (d.scalars? .uint8).bind ViewCoordinates.ofList?) rfl (fun _ => rfl)
    (.fixedSizeList _ (by decide) (by decide)) (fun _ => DataType.admits_scalars rfl)
    fun v => by simp

end Component

/-! ## The types of the library -/

/-- The loggable types. -/
inductive LibraryType where
  | float32
  | vec2D
  | vec3D
  | vec4D
  | mat3x3
  | mat4x4
  | quaternion
  | angle
  | rotationAxisAngle
  | rotation3D
  | scale3D
  | translationAndMat3x3
  | translationRotationScale3D
  | transform3D
  | rgba32
  | classId
  | meshProperties
  | material
  | tensorDimension
  | tensorBuffer
  | tensorData
  | positionComponent
  | vectorComponent
  | resolutionComponent
  | pinholeProjectionComponent
  | transformComponent
  | colorComponent
  | classIdComponent
  | instanceKeyComponent
  | meshPropertiesComponent
  | materialComponent
  | tensorComponent
  | viewCoordinatesComponent
  deriving DecidableEq, Repr

namespace LibraryType

/-- The values of a type. -/
@[reducible]
def Value : LibraryType → Type
  | float32 => Binary32
  | vec2D => Vec2D
  | vec3D => Vec3D
  | vec4D => Vec4D
  | mat3x3 => Mat3x3
  | mat4x4 => Mat4x4
  | quaternion => Quaternion
  | angle => Angle
  | rotationAxisAngle => RotationAxisAngle
  | rotation3D => Rotation3D
  | scale3D => Scale3D
  | translationAndMat3x3 => TranslationAndMat3x3
  | translationRotationScale3D => TranslationRotationScale3D
  | transform3D => Transform3D
  | rgba32 => Rgba32
  | classId => ClassId
  | meshProperties => MeshProperties
  | material => Material
  | tensorDimension => TensorDimension
  | tensorBuffer => TensorBuffer
  | tensorData => TensorData
  | positionComponent => Component.Position3D
  | vectorComponent => Component.Vector3D
  | resolutionComponent => Component.Resolution
  | pinholeProjectionComponent => Component.PinholeProjection
  | transformComponent => Component.Transform3D
  | colorComponent => Component.Color
  | classIdComponent => Component.ClassId
  | instanceKeyComponent => Component.InstanceKey
  | meshPropertiesComponent => Component.MeshProperties
  | materialComponent => Component.Material
  | tensorComponent => Component.TensorData
  | viewCoordinatesComponent => Component.ViewCoordinates

/-- Whether the type is a datatype or a component. -/
@[reducible]
def kind : LibraryType → NameKind
  | positionComponent | vectorComponent | resolutionComponent | pinholeProjectionComponent
  | transformComponent | colorComponent | classIdComponent | instanceKeyComponent
  | meshPropertiesComponent | materialComponent | tensorComponent | viewCoordinatesComponent =>
    .component
  | _ => .datatype

instance (t : LibraryType) : Loggable t.Value t.kind := by
  cases t <;> exact inferInstance

instance (t : LibraryType) : Readable t.Value := by
  cases t <;> exact inferInstance

/-- The value with elements of its own: tensors and their buffers may hold elements of the caller,
all other values are as they are. -/
def settled : (t : LibraryType) → t.Value → t.Value
  | tensorBuffer, b => b.settled
  | tensorData, t => t.settled
  | tensorComponent, t => ⟨t.value.settled⟩
  | _, v => v

theorem readable_settled (t : LibraryType) (v : t.Value) : Readable.settled v = t.settled v := by
  cases t <;> rfl

end LibraryType

/-- The types that get a column of their own. -/
inductive LibraryComponent where
  | position3D
  | vector3D
  | resolution
  | pinholeProjection
  | transform3D
  | color
  | classId
  | instanceKey
  | meshProperties
  | material
  | tensorData
  | viewCoordinates
  deriving DecidableEq, Repr

namespace LibraryComponent

/-- The values of a component. -/
@[reducible]
def Value : LibraryComponent → Type
  | position3D => Component.Position3D
  | vector3D => Component.Vector3D
  | resolution => Component.Resolution
  | pinholeProjection => Component.PinholeProjection
  | transform3D => Component.Transform3D
  | color => Component.Color
  | classId => Component.ClassId
  | instanceKey => Component.InstanceKey
  | meshProperties => Component.MeshProperties
  | material => Component.Material
  | tensorData => Component.TensorData
  | viewCoordinates => Component.ViewCoordinates

instance (t : LibraryComponent) : Component t.Value := by
  cases t <;> exact inferInstance

instance (t : LibraryComponent) : Readable t.Value := by
  cases t <;> exact inferInstance

theorem cell_eq (t : LibraryComponent) : Component.cell t.Value = .component := by cases t <;> rfl

end LibraryComponent
end ColumnLog
