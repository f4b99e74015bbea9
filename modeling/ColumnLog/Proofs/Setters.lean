import ColumnLog.Proofs.Ownership

/-!
# Setters

The optional slots of an archetype are filled by calls, each of which sets one slot.  The order of
the calls does not show in what is logged: a slot holds what the last call for it has set, and the
slots are logged in the order of their declaration.

* `Setters` describes the optional slots of an archetype and the calls that set them.  Its laws are
  that a call sets one slot and nothing else, and that there is nothing but the slots.
* `Setters.setAll` makes a sequence of calls, `Setters.last?` is what such a sequence sets last.
* `Setters.After` tells what there is after some calls.
* `Archetype.Mesh3D.setters` and `Archetype.Pinhole.setters` are those of meshes and cameras.
* `LibraryArchetype.last_calls_count` is the result, for every archetype.
-/

set_option autoImplicit false

namespace ColumnLog

theorem Slot.Alike.refl (slot : Slot) : slot.Alike slot := ⟨rfl, .refl slot.values⟩

/-- The optional slots of an archetype, with what they hold, and the calls that set them. -/
structure Setters (α : Type) [Archetype α] where
  /-- The optional slots. -/
  Field : Type
  [decEq : DecidableEq Field]
  /-- The optional slots in the order of their declaration. -/
  fields : List Field
  /-- What is set. -/
  Content : Field → Type
  held : (f : Field) → α → Option (Content f)
  set : (f : Field) → Content f → α → α
  /-- What the required slot holds, which is the first. -/
  Required : Type
  required : α → Required
  /-- How the required slot is written. -/
  requiredSlot : Required → Slot
  /-- How an optional slot is written. -/
  slot : (f : Field) → Content f → Slot
  count : Required → Nat
  held_set (f : Field) (c : Content f) (a : α) : held f (set f c a) = some c
  held_set_of_ne {f g : Field} (ne : f ≠ g) (c : Content f) (a : α) :
    held g (set f c a) = held g a
  required_set (f : Field) (c : Content f) (a : α) : required (set f c a) = required a
  ext {a b : α} (required_eq : required a = required b) (held_eq : ∀ f, held f a = held f b) :
    a = b
  slots_eq (a : α) : Archetype.slots a =
    requiredSlot (required a) :: fields.filterMap fun f => (held f a).map (slot f)
  count_eq (a : α) : Archetype.count a = count (required a)

namespace Setters

attribute [instance] decEq

variable {α : Type} [Archetype α]

/-- The setters of an archetype that has no slot but the required one. -/
def ofRequired (slot : α → Slot) (count : α → Nat)
    (slots_eq : ∀ a : α, Archetype.slots a = [slot a])
    (count_eq : ∀ a : α, Archetype.count a = count a) : Setters α where
  Field := Empty
  fields := []
  Content := nofun
  held := nofun
  set := nofun
  Required := α
  required := id
  requiredSlot := slot
  slot := nofun
  count := count
  held_set := nofun
  held_set_of_ne {f} := f.elim
  required_set := nofun
  ext required_eq _ := required_eq
  slots_eq := slots_eq
  count_eq := count_eq

/-! ## Calls -/

/-- A call: the slot that it sets, and to what. -/
structure Call (S : Setters α) where
  field : S.Field
  content : S.Content field

variable {S : Setters α} {f g : S.Field} {call : S.Call} {calls calls' : List S.Call} {a b : α}

/-- What a call sets a slot to, if it is the slot that it sets. -/
def Call.content? (f : S.Field) (call : S.Call) : Option (S.Content f) :=
  if h : call.field = f then some (h ▸ call.content) else .none

theorem Call.content?_self (f : S.Field) (c : S.Content f) : content? f ⟨f, c⟩ = some c :=
  dif_pos rfl

theorem Call.content?_of_ne (ne : call.field ≠ f) : call.content? f = .none := dif_neg ne

/-- Makes a call. -/
def Call.apply (call : S.Call) (a : α) : α := S.set call.field call.content a

theorem Call.held_apply (f : S.Field) (call : S.Call) (a : α) :
    S.held f (call.apply a) = (call.content? f).or (S.held f a) := by
  by_cases h : call.field = f
  · obtain ⟨field, content⟩ := call
    obtain rfl := h
    rw [content?_self, Option.some_or, apply, S.held_set]
  · rw [content?_of_ne h, Option.none_or, apply, S.held_set_of_ne h]

/-! ## Sequences of calls -/

/-- Makes some calls, one after the other. -/
def setAll (S : Setters α) (calls : List S.Call) (a : α) : α :=
  calls.foldl (fun a call => call.apply a) a

theorem setAll_concat (calls : List S.Call) (call : S.Call) (a : α) :
    S.setAll (calls ++ [call]) a = call.apply (S.setAll calls a) := by
  rw [setAll, List.foldl_append]
  rfl

/-- What a slot is set to last, if it is set. -/
def last? (S : Setters α) (f : S.Field) (calls : List S.Call) : Option (S.Content f) :=
  calls.reverse.findSome? (Call.content? f)

theorem last?_concat (f : S.Field) (calls : List S.Call) (call : S.Call) :
    S.last? f (calls ++ [call]) = (call.content? f).or (S.last? f calls) := by
  rw [last?, List.reverse_concat, List.findSome?_cons, last?]
  cases call.content? f <;> rfl

/-- What there is after some calls: a slot holds what was set last, or what it held before if it
was not set; the required slot holds what it held. -/
structure After (S : Setters α) (a : α) (calls : List S.Call) (b : α) : Prop where
  required_eq : S.required b = S.required a
  held_eq : ∀ f, S.held f b = (S.last? f calls).or (S.held f a)

theorem After.apply (h : S.After a calls b) (call : S.Call) :
    S.After a (calls ++ [call]) (call.apply b) where
  required_eq := (S.required_set _ _ _).trans h.required_eq
  held_eq f := by rw [Call.held_apply, h.held_eq, last?_concat, Option.or_assoc]

theorem after_setAll (S : Setters α) (calls : List S.Call) (a : α) :
    S.After a calls (S.setAll calls a) := by
  induction calls using List.reverseRecOn with
  | nil => exact ⟨rfl, fun _ => rfl⟩
  | append_singleton calls call ih =>
    rw [setAll_concat]
    exact ih.apply call

/-- The slots are in the order of their declaration, whatever the order of the calls was. -/
theorem After.slots_eq (h : S.After a calls b) : Archetype.slots b =
    S.requiredSlot (S.required a) ::
      S.fields.filterMap fun f => ((S.last? f calls).or (S.held f a)).map (S.slot f) := by
  simp only [S.slots_eq b, h.required_eq, h.held_eq]

theorem After.count_eq (h : S.After a calls b) : Archetype.count b = Archetype.count a := by
  rw [S.count_eq, S.count_eq, h.required_eq]

/-- Calls that set the same last make the same. -/
theorem setAll_eq (same : ∀ f, S.last? f calls = S.last? f calls') (a : α) :
    S.setAll calls a = S.setAll calls' a := by
  have after := S.after_setAll calls a
  have after' := S.after_setAll calls' a
  refine S.ext (after.required_eq.trans after'.required_eq.symm) fun f => ?_
  rw [after.held_eq, after'.held_eq, same]

theorem set_comm (ne : f ≠ g) (c : S.Content f) (d : S.Content g) (a : α) :
    S.set f c (S.set g d a) = S.set g d (S.set f c a) := by
  refine S.ext (by simp only [S.required_set]) fun field => ?_
  by_cases hf : f = field
  · obtain rfl := hf
    rw [S.held_set, S.held_set_of_ne ne.symm, S.held_set]
  · by_cases hg : g = field
    · obtain rfl := hg
      rw [S.held_set_of_ne hf, S.held_set, S.held_set]
    · rw [S.held_set_of_ne hf, S.held_set_of_ne hg, S.held_set_of_ne hg, S.held_set_of_ne hf]

theorem set_set (c d : S.Content f) (a : α) : S.set f c (S.set f d a) = S.set f c a := by
  refine S.ext (by simp only [S.required_set]) fun field => ?_
  by_cases h : f = field
  · obtain rfl := h
    rw [S.held_set, S.held_set]
  · rw [S.held_set_of_ne h, S.held_set_of_ne h, S.held_set_of_ne h]

/-! ## What is logged -/

/-- Whether two sequences of calls end alike: each slot that one of them sets is set by the other
too, last to something that holds the same, in whatever way it is held. -/
def EndAlike (S : Setters α) (calls calls' : List S.Call) : Prop :=
  ∀ f, Option.Rel (fun c d => (S.slot f c).Alike (S.slot f d)) (S.last? f calls) (S.last? f calls')

theorem EndAlike.of_eq (same : ∀ f, S.last? f calls = S.last? f calls') :
    S.EndAlike calls calls' := by
  intro f
  rw [same f]
  cases S.last? f calls' with
  | none => exact .none
  | some c => exact .some (.refl _)

theorem EndAlike.slots (alike : S.EndAlike calls calls') (a : α) :
    List.Forall₂ Slot.Alike (Archetype.slots (S.setAll calls a))
      (Archetype.slots (S.setAll calls' a)) := by
  rw [(S.after_setAll calls a).slots_eq, (S.after_setAll calls' a).slots_eq]
  refine .cons (.refl _) ?_
  have held (f : S.Field) : Option.Rel Slot.Alike
      (((S.last? f calls).or (S.held f a)).map (S.slot f))
      (((S.last? f calls').or (S.held f a)).map (S.slot f)) := by
    have last := alike f
    revert last
    generalize S.last? f calls = o, S.last? f calls' = o'
    rintro (same | _)
    · exact .some same
    · -- what no call sets is as it was at the start, on both sides
      rw [Option.none_or]
      cases S.held f a with
      | none => exact .none
      | some c => exact .some (.refl _)
  exact List.rel_filterMap (R := Eq) (fun _ _ same => same ▸ held _)
    (List.forall₂_same.mpr fun _ _ => rfl)

end Setters

/-! ## Meshes -/

namespace Archetype.Mesh3D

/-- The optional slots of a mesh. -/
inductive Field where
  | meshProperties
  | vertexNormals
  | vertexColors
  | meshMaterial
  | classIds
  | instanceKeys
  deriving DecidableEq

namespace Field

/-- What a slot of a mesh holds. -/
@[reducible]
def Content : Field → Type
  | meshProperties => Component.MeshProperties
  | vertexNormals => Collection Component.Vector3D
  | vertexColors => Collection Component.Color
  | meshMaterial => Component.Material
  | classIds => Collection Component.ClassId
  | instanceKeys => Collection Component.InstanceKey

/-- What a slot of a mesh holds, if it is filled. -/
def held : (f : Field) → Mesh3D → Option f.Content
  | meshProperties, m => m.meshProperties
  | vertexNormals, m => m.vertexNormals
  | vertexColors, m => m.vertexColors
  | meshMaterial, m => m.meshMaterial
  | classIds, m => m.classIds
  | instanceKeys, m => m.instanceKeys

/-- The setter of a slot of a mesh. -/
def set : (f : Field) → f.Content → Mesh3D → Mesh3D
  | meshProperties, properties, m => m.withMeshProperties properties
  | vertexNormals, normals, m => m.withVertexNormals normals
  | vertexColors, colors, m => m.withVertexColors colors
  | meshMaterial, material, m => m.withMeshMaterial material
  | classIds, ids, m => m.withClassIds ids
  | instanceKeys, keys, m => m.withInstanceKeys keys

/-- How a slot of a mesh is written. -/
def slot : (f : Field) → f.Content → Slot
  | meshProperties => .one
  | vertexNormals => .batch
  | vertexColors => .batch
  | meshMaterial => .one
  | classIds => .batch
  | instanceKeys => .batch

end Field

/-- The setters of meshes. -/
def setters : Setters Mesh3D where
  Field := Field
  fields :=
    [.meshProperties, .vertexNormals, .vertexColors, .meshMaterial, .classIds, .instanceKeys]
  Content := Field.Content
  held := Field.held
  set := Field.set
  Required := Collection Component.Position3D
  required := vertexPositions
  requiredSlot := .batch
  slot := Field.slot
  count := Collection.length
  held_set f c m := by cases f <;> rfl
  held_set_of_ne {f g} ne c m := by
    cases f <;> cases g <;> first | rfl | exact absurd rfl ne
  required_set f c m := by cases f <;> rfl
  ext {a b} required_eq held_eq := by
    obtain ⟨⟩ := a
    obtain ⟨⟩ := b
    rw [mk.injEq]
    exact ⟨required_eq, held_eq .meshProperties, held_eq .vertexNormals, held_eq .vertexColors,
      held_eq .meshMaterial, held_eq .classIds, held_eq .instanceKeys⟩
  slots_eq _ := rfl
  count_eq _ := rfl

end Archetype.Mesh3D

/-! ## Cameras -/

namespace Archetype.Pinhole

/-- The optional slots of a camera. -/
inductive Field where
  | resolution
  | cameraAxes
  deriving DecidableEq

namespace Field

/-- What a slot of a camera holds. -/
@[reducible]
def Content : Field → Type
  | resolution => Component.Resolution
  | cameraAxes => Component.ViewCoordinates

/-- What a slot of a camera holds, if it is filled. -/
def held : (f : Field) → Pinhole → Option f.Content
  | resolution, p => p.resolution
  | cameraAxes, p => p.cameraAxes

/-- The setter of a slot of a camera. -/
def set : (f : Field) → f.Content → Pinhole → Pinhole
  | resolution, size, p => p.withResolution size
  | cameraAxes, axes, p => p.withCameraAxes axes

/-- How a slot of a camera is written. -/
def slot : (f : Field) → f.Content → Slot
  | resolution => .one
  | cameraAxes => .one

end Field

/-- The setters of cameras. -/
def setters : Setters Pinhole where
  Field := Field
  fields := [.resolution, .cameraAxes]
  Content := Field.Content
  held := Field.held
  set := Field.set
  Required := Component.PinholeProjection
  required := imageFromCamera
  requiredSlot := .one
  slot := Field.slot
  count _ := 1
  held_set f c p := by cases f <;> rfl
  held_set_of_ne {f g} ne c p := by
    cases f <;> cases g <;> first | rfl | exact absurd rfl ne
  required_set f c p := by cases f <;> rfl
  ext {a b} required_eq held_eq := by
    obtain ⟨⟩ := a
    obtain ⟨⟩ := b
    rw [mk.injEq]
    exact ⟨required_eq, held_eq .resolution, held_eq .cameraAxes⟩
  slots_eq _ := rfl
  count_eq _ := rfl

end Archetype.Pinhole

/-! ## The archetypes of the library -/

namespace LibraryArchetype

/-- The setters of an archetype. -/
def setters : (t : LibraryArchetype) → Setters t.Value
  | mesh3D => Archetype.Mesh3D.setters
  | pinhole => Archetype.Pinhole.setters
  | tensor => .ofRequired (fun t => .one t.data) (fun _ => 1) (fun _ => rfl) fun _ => rfl
  | transform3D => .ofRequired (fun t => .one t.transform) (fun _ => 1) (fun _ => rfl) fun _ => rfl

/-- **The last call of each setter counts.**  Sequences of calls that end alike make archetypes that
are logged alike: with the same cells or the same error, and the same charges, on every pool.  If
they set the same last, the archetypes are the same.  What is logged are the slots as they are
declared, each with what was set last, be it a null buffer, or with what it held before.  Calls for
different slots can be swapped, and a call for the same slot takes the place of an earlier one. -/
theorem last_calls_count (t : LibraryArchetype) (start : t.Value)
    (calls calls' : List t.setters.Call) (alike : t.setters.EndAlike calls calls') :
    (∀ pool, Archetype.cells (t.setters.setAll calls start) pool =
        Archetype.cells (t.setters.setAll calls' start) pool ∧
      Archetype.serialize (t.setters.setAll calls start) pool =
        Archetype.serialize (t.setters.setAll calls' start) pool) ∧
    (∀ others, (∀ f, t.setters.last? f calls = t.setters.last? f others) →
      t.setters.EndAlike calls others ∧
      t.setters.setAll calls start = t.setters.setAll others start) ∧
    t.setters.After start calls (t.setters.setAll calls start) ∧
    Archetype.slots (t.setters.setAll calls start) =
      t.setters.requiredSlot (t.setters.required start) :: t.setters.fields.filterMap (fun f =>
        ((t.setters.last? f calls).or (t.setters.held f start)).map (t.setters.slot f)) ∧
    (∀ (f g : t.setters.Field) (c : t.setters.Content f) (d : t.setters.Content g) (a : t.Value),
      f ≠ g → t.setters.set f c (t.setters.set g d a) = t.setters.set g d (t.setters.set f c a)) ∧
    ∀ (f : t.setters.Field) (c d : t.setters.Content f) (a : t.Value),
      t.setters.set f c (t.setters.set f d a) = t.setters.set f c a := by
  have after := t.setters.after_setAll calls start
  have after' := t.setters.after_setAll calls' start
  have cells (pool : Pool) : Archetype.cells (t.setters.setAll calls start) pool =
      Archetype.cells (t.setters.setAll calls' start) pool := by
    rw [Archetype.cells, Archetype.cells, Composer.pushAll_eq (alike.slots start),
      after.count_eq, after'.count_eq]
  refine ⟨fun pool => ⟨cells pool, ?_⟩,
    fun others same => ⟨.of_eq same, Setters.setAll_eq same start⟩, after, after.slots_eq,
    fun f g c d a ne => Setters.set_comm ne c d a, fun f c d a => Setters.set_set c d a⟩
  rw [Archetype.serialize, Archetype.serialize, cells]

/-- Calls in another order, of which some would make the mesh fail and are overridden; the colours
are owned in one mesh and borrowed in the other. -/
theorem last_calls_count_mesh :
    let mesh : Archetype.Mesh3D := { vertexPositions := .borrowed [⟨.ones⟩, ⟨.ones⟩] }
    let calls : List mesh3D.setters.Call :=
      [⟨.vertexColors, .null 3 (by decide)⟩, ⟨.classIds, .single ⟨⟨7⟩⟩⟩,
        ⟨.vertexColors, .owned [⟨⟨255⟩⟩, ⟨⟨255⟩⟩]⟩]
    let calls' : List mesh3D.setters.Call :=
      [⟨.vertexColors, .borrowed [⟨⟨255⟩⟩, ⟨⟨255⟩⟩]⟩, ⟨.classIds, .null 1 (by decide)⟩,
        ⟨.classIds, .single ⟨⟨7⟩⟩⟩]
    mesh3D.setters.EndAlike calls calls' ∧
      (∀ pool, Archetype.cells (mesh3D.setters.setAll calls mesh) pool =
        Archetype.cells (mesh3D.setters.setAll calls' mesh) pool) ∧
      ((Archetype.slots (mesh3D.setters.setAll calls mesh)).map fun slot => slot.schema.name.text) =
        ["stratalog.components.Position3D", "stratalog.components.Color",
          "stratalog.components.ClassId"] ∧
      (Archetype.cells (mesh3D.setters.setAll calls' mesh) (.bounded "small" 24)).result.isOk := by
  intro mesh calls calls'
  have alike : mesh3D.setters.EndAlike calls calls' := by
    intro f
    cases f with
    | vertexColors => exact .some ⟨rfl, .of_toList_eq rfl rfl rfl⟩
    | classIds => exact .some (.refl _)
    | _ => exact .none
  obtain ⟨same, -, -, slots, -, -⟩ := last_calls_count mesh3D mesh calls calls' alike
  refine ⟨alike, fun pool => (same pool).1, ?_, ?_⟩
  · rw [slots]
    rfl
  · rw [← (same _).1]
    decide +kernel

end LibraryArchetype
end ColumnLog
