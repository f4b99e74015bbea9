import ColumnLog.Value.Matrix
import ColumnLog.Value.Rotation

/-!
# Scales and transforms

* `Scale3D` scales every axis on its own, or all alike.
* `TranslationAndMat3x3` and `TranslationRotationScale3D` are the two ways to give a transform;
  their parts may be missing.
* `Transform3D` is a transform given in either way.
-/

set_option autoImplicit false

namespace ColumnLog

/-- A scale in space. -/
inductive Scale3D where
  | perAxis (factors : Vec3D)
  | uniform (factor : Binary32)
  deriving DecidableEq, BEq, Inhabited

namespace Scale3D

/-- Union of the representations. -/
def type : DataType :=
  .union [.required "ThreeD" (.floats 3), .required "Uniform" (.leaf .float32)]

/-- The representation, and the scale in it. -/
def datum : Scale3D → Datum
  | perAxis factors => .variant 1 (.scalars .float32 factors.toList)
  | uniform factor => .variant 2 (.scalar .float32 factor)

instance : Loggable Scale3D .datatype where
  schema := { name := .ofShort "Scale3D", type, slotBytes := 16 }
  entry s := .ofDatum s.datum

end Scale3D

/-- A matrix, then a translation. -/
structure TranslationAndMat3x3 where
  translation : Option Vec3D := none
  matrix : Option Mat3x3 := none
  /-- Whether the transform leads from the parent space into this one. -/
  fromParent : Bool := false
  deriving DecidableEq, BEq, Inhabited

namespace TranslationAndMat3x3

/-- The transform that changes nothing. -/
def identity : TranslationAndMat3x3 := {}

/-- A matrix, then a translation. -/
def ofParts (translation : Vec3D) (matrix : Mat3x3) : TranslationAndMat3x3 :=
  { translation := some translation, matrix := some matrix }

/-- A translation only. -/
def ofTranslation (translation : Vec3D) : TranslationAndMat3x3 :=
  { translation := some translation }

/-- A matrix only. -/
def ofMatrix (matrix : Mat3x3) : TranslationAndMat3x3 := { matrix := some matrix }

/-- The transform, leading from the parent space into this one. -/
def markFromParent (t : TranslationAndMat3x3) : TranslationAndMat3x3 :=
  { t with fromParent := true }

/-- Record of the parts. -/
def type : DataType :=
  .struct
    [.optional "translation" (.floats 3), .optional "mat3x3" (.floats 9),
      .required "from_parent" (.leaf .boolean)]

/-- The parts. -/
def datum (t : TranslationAndMat3x3) : Datum :=
  .record
    [.ofOption (fun v : Vec3D => .scalars .float32 v.toList) t.translation,
      .ofOption (fun m : Mat3x3 => .scalars .float32 m.toList) t.matrix,
      .scalar .boolean t.fromParent]

instance : Loggable TranslationAndMat3x3 .datatype where
  schema := { name := .ofShort "TranslationAndMat3x3", type, slotBytes := 60 }
  entry t := .ofDatum t.datum

end TranslationAndMat3x3

/-- A scale, then a rotation, then a translation. -/
structure TranslationRotationScale3D where
  translation : Option Vec3D := none
  rotation : Option Rotation3D := none
  scale : Option Scale3D := none
  /-- Whether the transform leads from the parent space into this one. -/
  fromParent : Bool := false
  deriving DecidableEq, BEq, Inhabited

namespace TranslationRotationScale3D

/-- The transform that changes nothing. -/
def identity : TranslationRotationScale3D := {}

/-- A translation only. -/
def ofTranslation (translation : Vec3D) : TranslationRotationScale3D :=
  { translation := some translation }

/-- A rotation only. -/
def ofRotation (rotation : Rotation3D) : TranslationRotationScale3D := { rotation := some rotation }

/-- A scale only. -/
def ofScale (scale : Scale3D) : TranslationRotationScale3D := { scale := some scale }

/-- The transform with another translation. -/
def withTranslation (t : TranslationRotationScale3D) (translation : Vec3D) :
    TranslationRotationScale3D :=
  { t with translation := some translation }

/-- The transform with another rotation. -/
def withRotation (t : TranslationRotationScale3D) (rotation : Rotation3D) :
    TranslationRotationScale3D :=
  { t with rotation := some rotation }

/-- The transform with another scale. -/
def withScale (t : TranslationRotationScale3D) (scale : Scale3D) : TranslationRotationScale3D :=
  { t with scale := some scale }

/-- The transform, leading from the parent space into this one. -/
def markFromParent (t : TranslationRotationScale3D) : TranslationRotationScale3D :=
  { t with fromParent := true }

/-- Record of the parts. -/
def type : DataType :=
  .struct
    [.optional "translation" (.floats 3), .optional "rotation" Rotation3D.type,
      .optional "scale" Scale3D.type, .required "from_parent" (.leaf .boolean)]

/-- The parts. -/
def datum (t : TranslationRotationScale3D) : Datum :=
  .record
    [.ofOption (fun v : Vec3D => .scalars .float32 v.toList) t.translation,
      .ofOption Rotation3D.datum t.rotation, .ofOption Scale3D.datum t.scale,
      .scalar .boolean t.fromParent]

instance : Loggable TranslationRotationScale3D .datatype where
  schema := { name := .ofShort "TranslationRotationScale3D", type, slotBytes := 56 }
  entry t := .ofDatum t.datum

end TranslationRotationScale3D

/-- A transform in space. -/
inductive Transform3D where
  | translationAndMat3x3 (t : TranslationAndMat3x3)
  | translationRotationScale (t : TranslationRotationScale3D)
  deriving DecidableEq, BEq

namespace Transform3D

/-- The transform that changes nothing. -/
def identity : Transform3D := translationRotationScale .identity

instance : Inhabited Transform3D := ⟨identity⟩

/-- Union of the representations. -/
def type : DataType :=
  .union
    [.required "TranslationAndMat3x3" TranslationAndMat3x3.type,
      .required "TranslationRotationScale" TranslationRotationScale3D.type]

/-- The representation, and the transform in it. -/
def datum : Transform3D → Datum
  | translationAndMat3x3 t => .variant 1 t.datum
  | translationRotationScale t => .variant 2 t.datum

instance : Loggable Transform3D .datatype where
  schema := { name := .ofShort "Transform3D", type, slotBytes := 60 }
  entry t := .ofDatum t.datum

end Transform3D
end ColumnLog
