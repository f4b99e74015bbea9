import ColumnLog.Proofs.Impartial
import ColumnLog.Proofs.Layout
import ColumnLog.Proofs.Read
import ColumnLog.Proofs.Rejection
import Mathlib.Order.Bounds.Basic

/-!
# Buffers from bytes, and back

A buffer is read from little-endian bytes, group by group, and written to a union with a list for
each kind.  Nothing is lost on the way: the items of the list that the union points at, written
back, are the bytes again.  Truth values are the exception, since every byte but zero stands for the
same one.

* `ElementKind.littleEndian` writes a number, `ElementKind.toBytes` an element;
  `ElementKind.toBytes_ofBytes` is the way back.
* `ElementKind.Spells` tells which elements stand for some bytes, `ElementKind.decodeChecked` looks
  at the length of every group.
* `TensorBuffer.encode_singleton` says when the column of one buffer can be made.
* `TensorBuffer.decode_exact` is the result, for every kind.
-/

set_option autoImplicit false

namespace ColumnLog
namespace ElementKind

variable {kind : ElementKind} {bytes group : List UInt8} {width count : Nat}

/-! ## Numbers -/

/-- The bytes of a number, as many as asked for, the first one counting ones. -/
def littleEndian : Nat → Nat → List UInt8
  | 0, _ => []
  | width + 1, n => UInt8.ofNat n :: littleEndian width (n / 256)

theorem ofLittleEndian_cons (b : UInt8) (bytes : List UInt8) :
    ofLittleEndian (b :: bytes) = b.toNat + 256 * ofLittleEndian bytes := rfl

theorem ofLittleEndian_lt (bytes : List UInt8) : ofLittleEndian bytes < 256 ^ bytes.length := by
  induction bytes with
  | nil => exact Nat.one_pos
  | cons b bytes ih =>
    have byte : b.toNat < 256 := b.toNat_lt
    rw [ofLittleEndian_cons, List.length_cons, Nat.pow_succ]
    omega

theorem littleEndian_ofLittleEndian (bytes : List UInt8) :
    littleEndian bytes.length (ofLittleEndian bytes) = bytes := by
  induction bytes with
  | nil => rfl
  | cons b bytes ih =>
    have byte : b.toNat < 256 := b.toNat_lt
    have low : UInt8.ofNat (b.toNat + 256 * ofLittleEndian bytes) = b := by
      refine UInt8.toNat_inj.mp ?_
      rw [UInt8.toNat_ofNat']
      omega
    have high : (b.toNat + 256 * ofLittleEndian bytes) / 256 = ofLittleEndian bytes := by omega
    rw [List.length_cons, littleEndian, ofLittleEndian_cons, low, high, ih]

/-! ## Elements -/

theorem width_pos (kind : ElementKind) : 0 < kind.width := by cases kind <;> decide

/-- The bytes of an element. -/
def toBytes (kind : ElementKind) (x : kind.Element) : List UInt8 :=
  littleEndian kind.width (kind.primitive.toWord x)

/-- A word of the width of the kind is kept in full, sign and payload included. -/
theorem toWord_ofWord (ne : kind ≠ bool) {word : Nat} (lt : word < 256 ^ kind.width) :
    kind.primitive.toWord (kind.primitive.ofWord word) = word := by
  cases kind with
  | bool => exact absurd rfl ne
  | _ =>
    simp only [Primitive.ofWord, Primitive.toWord, Int8.ofNat, Int16.ofNat, Int32.ofNat,
      Int64.ofNat]
    simp only [width] at lt
    first
      | exact UInt8.toNat_ofNat_of_lt' lt
      | exact UInt16.toNat_ofNat_of_lt' lt
      | exact UInt32.toNat_ofNat_of_lt' lt
      | exact UInt64.toNat_ofNat_of_lt' lt

/-- An element written back is the group that it was read from. -/
theorem toBytes_ofBytes (ne : kind ≠ bool) (whole : group.length = kind.width) :
    kind.toBytes (kind.ofBytes group) = group := by
  have lt := ofLittleEndian_lt group
  rw [whole] at lt
  rw [toBytes, ofBytes, toWord_ofWord ne lt, ← whole, littleEndian_ofLittleEndian]

/-! ## Groups -/

@[simp]
theorem length_groups (width count : Nat) (bytes : List UInt8) :
    (groups width count bytes).length = count := by
  induction count generalizing bytes with
  | zero => rfl
  | succ count ih => rw [groups, List.length_cons, ih]

/-- The groups are all of the bytes, in order. -/
theorem flatten_groups (all : bytes.length = count * width) :
    (groups width count bytes).flatten = bytes := by
  induction count generalizing bytes with
  | zero =>
    rw [Nat.zero_mul] at all
    rw [List.eq_nil_of_length_eq_zero all]
    rfl
  | succ count ih =>
    rw [groups, List.flatten_cons, ih, List.take_append_drop]
    rw [List.length_drop, all, Nat.succ_mul, Nat.add_sub_cancel]

/-- No group is cut short. -/
theorem length_of_mem_groups (all : bytes.length = count * width)
    (mem : group ∈ groups width count bytes) : group.length = width := by
  induction count generalizing bytes with
  | zero => cases mem
  | succ count ih =>
    rw [Nat.succ_mul] at all
    rcases List.mem_cons.mp mem with rfl | mem
    · rw [List.length_take]
      omega
    · refine ih ?_ mem
      rw [List.length_drop]
      omega

theorem groups_one (bytes : List UInt8) : groups 1 bytes.length bytes = bytes.map ([·]) := by
  induction bytes with
  | nil => rfl
  | cons b bytes ih => rw [List.length_cons, groups, List.map_cons, ← ih]; rfl

/-- The element of a group, with a report of a group that has another length. -/
def ofGroup (kind : ElementKind) (group : List UInt8) : Except LogError kind.Element :=
  if group.length = kind.width then .ok (kind.ofBytes group)
  else .error (.sizeMismatch kind.width group.length "tensor element bytes")

/-- The elements that the bytes consist of, with a look at the length of every group. -/
def decodeChecked (kind : ElementKind) (bytes : List UInt8) :
    Except LogError (List kind.Element) :=
  if bytes.length % kind.width = 0 then
    (groups kind.width (bytes.length / kind.width) bytes).mapM kind.ofGroup
  else
    .error (.sizeMismatch (Size.nextMultiple bytes.length kind.width) bytes.length
      (kind.name ++ " tensor bytes (" ++ toString kind.width ++ " per element)"))

theorem mapM_ofGroup {gs : List (List UInt8)} (whole : ∀ g ∈ gs, g.length = kind.width) :
    gs.mapM kind.ofGroup = .ok (gs.map kind.ofBytes) := by
  induction gs with
  | nil => rfl
  | cons g gs ih =>
    have head : kind.ofGroup g = .ok (kind.ofBytes g) := if_pos (whole g List.mem_cons_self)
    rw [List.mapM_cons, head, ih fun g mem => whole g (List.mem_cons_of_mem _ mem)]
    rfl

/-- The report of a group of another length is never given. -/
theorem decodeChecked_eq (kind : ElementKind) (bytes : List UInt8) :
    kind.decodeChecked bytes = kind.decode bytes := by
  rw [decodeChecked, decode]
  split
  · next whole =>
    have all : bytes.length = bytes.length / kind.width * kind.width :=
      (Nat.div_mul_cancel (Nat.dvd_of_mod_eq_zero whole)).symm
    exact mapM_ofGroup fun g mem => length_of_mem_groups all mem
  · rfl

/-- Whether the elements are those that the bytes stand for: written back they are the bytes again,
and truth values are true where the byte is not zero. -/
def Spells : (kind : ElementKind) → List kind.Element → List UInt8 → Prop
  | bool, values, bytes => values = bytes.map (· != 0)
  | kind, values, bytes => values.flatMap kind.toBytes = bytes

theorem spells_iff (ne : kind ≠ bool) (values : List kind.Element) (bytes : List UInt8) :
    kind.Spells values bytes ↔ values.flatMap kind.toBytes = bytes := by
  cases kind with
  | bool => exact absurd rfl ne
  | _ => exact Iff.rfl

theorem spells_bool (bytes : List UInt8) :
    bool.Spells ((groups 1 bytes.length bytes).map bool.ofBytes) bytes := by
  rw [Spells, groups_one, List.map_map]
  refine List.map_congr_left fun b _ => ?_
  have same : b.toNat = 0 ↔ b = 0 := UInt8.toNat_inj (b := 0)
  show (b.toNat + 256 * 0 != 0) = (b != 0)
  rw [Bool.eq_iff_iff, bne_iff_ne, bne_iff_ne, Nat.mul_zero, Nat.add_zero, Ne, Ne, same]

/-- The elements of whole groups are those that the bytes stand for. -/
theorem spells_groups (kind : ElementKind) (all : bytes.length = count * kind.width) :
    kind.Spells ((groups kind.width count bytes).map kind.ofBytes) bytes := by
  by_cases truth : kind = bool
  · subst truth
    rw [width, Nat.mul_one] at all
    rw [← all]
    exact spells_bool bytes
  · have back : (groups kind.width count bytes).map (kind.toBytes ∘ kind.ofBytes) =
        groups kind.width count bytes := by
      refine (List.map_congr_left fun g mem => ?_).trans (List.map_id _)
      exact toBytes_ofBytes truth (length_of_mem_groups all mem)
    rw [spells_iff truth, List.flatMap_map, List.flatMap_def]
    exact (congrArg List.flatten back).trans (flatten_groups all)

end ElementKind

/-! ## The column of one buffer -/

namespace Builder

theorem appendItems_scalars (p : Primitive) (values : List p.Value) (blank : Option p.Value)
    (slots : Array (Option p.Value)) :
    appendItems (values.map (.scalar p)) (leaf p blank slots) =
      .ok () (leaf p blank (slots ++ (values.map some).toArray)) := by
  induction values generalizing slots with
  | nil => simp [appendItems]
  | cons x values ih =>
    rw [List.map_cons, appendItems, append, dif_pos rfl]
    simp only [ih]
    simp

theorem append_scalars (item : Field) (offsets : Array Nat) (mask : Array Bool) (p : Primitive)
    (values : List p.Value) (blank : Option p.Value) (slots : Array (Option p.Value)) :
    append (.scalars p values) (list item offsets mask (leaf p blank slots)) =
      closeEntry (list item offsets mask (leaf p blank (slots ++ (values.map some).toArray))) := by
  rw [Datum.scalars, append, appendItems_scalars]

theorem workAt_of_getElem? {α : Type} (work : Builder → Outcome Builder α) {bs : List Builder}
    {k : Nat} {b : Builder} (h : bs[k]? = some b) :
    workAt work k bs = (work b).mapState fun b => bs.set k b := by
  induction bs generalizing k with
  | nil => cases h
  | cons c bs ih =>
    cases k with
    | zero =>
      cases h
      rfl
    | succ k =>
      rw [workAt, ih h]
      cases work b <;> rfl

theorem getElem?_holdingVariants (id : Nat) (fields : List Field) (data : List Datum) (k : Nat) :
    (holdingVariants id fields data)[k]? =
      fields[k]?.map fun f => holdingField f (Datum.contents (id + k) data) := by
  induction fields generalizing id k with
  | nil => simp [holdingVariants]
  | cons f fs ih =>
    cases k with
    | zero => simp [holdingVariants]
    | succ k => simp [holdingVariants, ih, Nat.add_right_comm, Nat.add_assoc]

end Builder

namespace TensorBuffer

variable {b : TensorBuffer}

/-- The field of the elements of a kind. -/
def elements (kind : ElementKind) : Field :=
  .required kind.name (.list (.item (.leaf kind.primitive)))

theorem getElem?_elements (kind : ElementKind) :
    (ElementKind.all.map elements)[kind.tag - 1]? = some (elements kind) := by
  cases kind <;> rfl

theorem accepts_tag (kind : ElementKind) :
    (UnionSlots.recorded (List.range (ElementKind.all.length + 1)) []).accepts kind.tag = true := by
  cases kind <;> decide

/-- The builder of the elements of a kind, without a slot. -/
theorem getElem?_holdingVariants_nil (kind : ElementKind) :
    (Builder.holdingVariants 1 (ElementKind.all.map elements) [])[kind.tag - 1]? =
      some (.list (.item (.leaf kind.primitive)) #[0] #[]
        (.leaf kind.primitive (some kind.primitive.zero) #[])) := by
  rw [Builder.getElem?_holdingVariants, getElem?_elements]
  rfl

/-- The elements of a buffer go to the list of their kind, unless they are more than its offsets
count. -/
theorem append_datum_nil (present : b.isNull = false) :
    (b.length ≤ Size.largestOffset →
      ∃ later, Builder.append b.datum (.holding false type []) = .ok () later) ∧
    (Size.largestOffset < b.length →
      ∃ left, Builder.append b.datum (.holding false type []) =
        .error (Builder.overflow b.length) left) := by
  obtain ⟨k, tag⟩ : ∃ k, b.kind.tag = k + 1 :=
    Nat.exists_eq_succ_of_ne_zero (Nat.ne_of_gt (tag_pos b.kind))
  have accepts := accepts_tag b.kind
  have child := getElem?_holdingVariants_nil b.kind
  rw [tag] at accepts child
  have placed := Builder.workAt_of_getElem?
    (Builder.append (.scalars b.kind.primitive b.values.toList)) child
  rw [Builder.append_scalars, Builder.closeEntry] at placed
  have count : (Builder.leaf b.kind.primitive (some b.kind.primitive.zero)
      (#[] ++ (b.values.toList.map some).toArray)).length = b.length := by
    simp [Builder.length, length, Collection.length_eq_of_isNull_eq_false present]
  rw [count, Nat.add_sub_cancel] at placed
  have appended : Builder.append b.datum (.holding false type []) =
      (Builder.workAt (Builder.append (.scalars b.kind.primitive b.values.toList)) k
        (Builder.holdingVariants 1 (ElementKind.all.map elements) [])).mapState
      (.denseUnion (List.range (ElementKind.all.length + 1))
        (DataType.nullMarkers :: ElementKind.all.map elements)
        ((UnionSlots.recorded (List.range (ElementKind.all.length + 1)) []).record (k + 1))) := by
    rw [datum, tag]
    show Builder.append _ (.denseUnion (List.range (ElementKind.all.length + 1)) _
      (.recorded (List.range (ElementKind.all.length + 1)) []) _) = _
    rw [Builder.append, if_pos accepts, Int.toNat_natCast]
    rfl
  rw [appended, placed]
  refine ⟨fun le => ?_, fun gt => ?_⟩
  · rw [if_pos le]
    exact ⟨_, rfl⟩
  · rw [if_neg (Nat.not_le.mpr gt)]
    exact ⟨_, rfl⟩

/-- The column of one buffer can be made unless it has more elements than offsets count. -/
theorem encode_singleton (present : b.isNull = false) :
    (b.length ≤ Size.largestOffset →
      (Loggable.schema TensorBuffer).encode [Loggable.entry b] =
        .ok (type.columnOf false [b.datum])) ∧
    (Size.largestOffset < b.length →
      (Loggable.schema TensorBuffer).encode [Loggable.entry b] =
        .error (Builder.overflow b.length)) := by
  have written : (Loggable.entry b).datum = .ok b.datum :=
    Readable.entry_of_accepts (α := TensorBuffer) b present
  have start : (Loggable.schema TensorBuffer).start = .holding false type [] :=
    Readable.newBuilder_eq_holding (α := TensorBuffer) 0
  have steps : Builder.addAll [some (Loggable.entry b)] (Loggable.schema TensorBuffer).start =
      Builder.append b.datum (.holding false type []) := by
    rw [start, Builder.addAll, Builder.step, Builder.add_of_ok written]
    cases Builder.append b.datum (.holding false type []) <;> rfl
  obtain ⟨fits, beyond⟩ := append_datum_nil present
  refine ⟨fun le => ?_, fun gt => ?_⟩
  · obtain ⟨later, ok⟩ := fits le
    have one : [b].length ≤ Size.largestOffset := by
      rw [List.length_singleton]
      decide
    have encoded := Readable.encode_of_addAll one (steps.trans ok)
    have slots : Builder.slotsOf (Loggable.steps [some b]) = [b.datum] :=
      Readable.slotsOf_steps fun a mem => by
        cases List.mem_singleton.mp mem
        exact present
    rwa [List.map_singleton, List.map_singleton, slots] at encoded
  · obtain ⟨left, error⟩ := beyond gt
    rw [Schema.encode, List.map_singleton, steps, error]

/-- On a pool that has room for its bytes, a buffer is written as if there were no pool. -/
theorem write_singleton (b : TensorBuffer) {pool : Pool} (reachable : pool.Reachable)
    (enough : (Loggable.schema TensorBuffer).slotBytes + b.bytes ≤ pool.room) :
    (Loggable.write [b] pool).result =
      (Loggable.schema TensorBuffer).encode [Loggable.entry b] := by
  refine (LibraryType.foreseen_write .tensorBuffer [b]).granted pool reachable ?_
  refine Nat.le_trans (Nat.add_le_add ?_ ?_) enough
  · rw [Schema.slotNeed, List.length_map, List.length_singleton, Nat.one_mul]
    exact Nat.min_le_left _ _
  · rw [Entry.heapNeed, List.map_singleton, List.map_singleton, List.sum_singleton]
    exact Nat.min_le_left _ _

/-- Whether a column has one slot, which points at a list of these elements. -/
structure Holds (kind : ElementKind) (values : List kind.Element) (c : Column) : Prop where
  type : c.type = TensorBuffer.type
  length : c.length = 1
  slot : c.read? 0 = some (.variant kind.tag (.scalars kind.primitive values))
  /-- The parts as they are stored: the id of the kind, the place in its child, and in the child the
  offsets and the elements. -/
  stored : ∃ ids fields children mask,
    c = .denseUnion ids fields #[kind.tag] #[0] children ∧
    children[kind.tag]? = some (.list (.item (.leaf kind.primitive)) #[0, values.length] mask
      (.leaf kind.primitive (values.map some).toArray))

theorem holds_columnOf (kind : ElementKind) (values : List kind.Element) :
    Holds kind values (type.columnOf false [(⟨kind, .owned values⟩ : TensorBuffer).datum]) := by
  have stores : type.Stores [(⟨kind, .owned values⟩ : TensorBuffer).datum] := by
    intro d mem
    rw [List.mem_singleton.mp mem]
    exact .inr (admits _)
  have child : (DataType.nullMarkers :: ElementKind.all.map elements)[kind.tag]? =
      some (elements kind) := by
    cases kind <;> rfl
  have contents : Datum.contents kind.tag [(⟨kind, .owned values⟩ : TensorBuffer).datum] =
      [.scalars kind.primitive values] := by
    rw [datum, Datum.contents_singleton, Datum.tag_variant, Int.toNat_natCast, if_pos rfl]
    rfl
  refine ⟨DataType.type_columnOf _ _ _, DataType.length_columnOf _ _ _,
    DataType.read?_columnOf regular stores rfl, _, _, _,
    Datum.maskOf [.scalars kind.primitive values], rfl, ?_⟩
  show (Field.variantColumns 0 (DataType.nullMarkers :: ElementKind.all.map elements) _)[
    kind.tag]? = _
  rw [DataType.getElem?_variantColumns, child, Option.map_some, Nat.zero_add, contents, elements]
  simp [Field.required, Field.item, Field.columnOf, DataType.columnOf, Datum.scalars, bounds,
    List.range_succ]

/-! ## The result -/

variable {kind : ElementKind} {bytes : List UInt8}

/-- The report of bytes that are no whole elements names the least number of bytes that would do. -/
theorem isLeast_nextMultiple {width : Nat} (pos : 0 < width) (n : Nat) :
    IsLeast {m | n ≤ m ∧ width ∣ m} (Size.nextMultiple n width) := by
  refine ⟨⟨?_, Nat.dvd_mul_left _ _⟩, fun m ⟨le, whole⟩ => ?_⟩
  · have covered := Nat.lt_div_mul_add pos (a := n + width - 1)
    rw [Size.nextMultiple]
    omega
  · obtain ⟨count, rfl⟩ := whole
    rw [Size.nextMultiple, Nat.mul_comm]
    refine Nat.mul_le_mul_left _ (Nat.le_of_lt_succ ?_)
    rw [Nat.div_lt_iff_lt_mul pos, Nat.succ_mul, Nat.mul_comm]
    omega

/-- What whole bytes come to: a buffer of the elements that they stand for, and its column. -/
structure Reinterprets (kind : ElementKind) (bytes : List UInt8) (values : List kind.Element) :
    Prop where
  decoded : decode kind bytes = .ok ⟨kind, .owned values⟩
  spells : kind.Spells values bytes
  length : values.length = bytes.length / kind.width
  size : bytes.length ≤ Size.largest →
    (⟨kind, .owned values⟩ : TensorBuffer).bytes = bytes.length
  written : ∀ pool : Pool, pool.Reachable →
    (Loggable.schema TensorBuffer).slotBytes + bytes.length ≤ pool.room →
    values.length ≤ Size.largestOffset →
      ∃ c, (Loggable.write [(⟨kind, .owned values⟩ : TensorBuffer)] pool).result = .ok c ∧
        Holds kind values c
  /-- More elements than the offsets of a list count cannot be written. -/
  overflow : ∀ pool : Pool, pool.Reachable →
    (Loggable.schema TensorBuffer).slotBytes + bytes.length ≤ pool.room →
    Size.largestOffset < values.length →
      (Loggable.write [(⟨kind, .owned values⟩ : TensorBuffer)] pool).result =
        .error (.sizeMismatch Size.largestOffset values.length "list offsets")

theorem reinterprets_groups (whole : kind.width ∣ bytes.length) :
    Reinterprets kind bytes
      ((ElementKind.groups kind.width (bytes.length / kind.width) bytes).map kind.ofBytes) := by
  have all : bytes.length = bytes.length / kind.width * kind.width :=
    (Nat.div_mul_cancel whole).symm
  generalize values_eq :
    (ElementKind.groups kind.width (bytes.length / kind.width) bytes).map kind.ofBytes = values
  have count : values.length = bytes.length / kind.width := by
    rw [← values_eq, List.length_map, ElementKind.length_groups]
  have heap : (⟨kind, .owned values⟩ : TensorBuffer).bytes ≤ bytes.length := by
    rw [all, ← count]
    exact Nat.min_le_left _ _
  have encoded := encode_singleton (b := ⟨kind, .owned values⟩) rfl
  have result (pool : Pool) (reachable : pool.Reachable)
      (enough : (Loggable.schema TensorBuffer).slotBytes + bytes.length ≤ pool.room) :
      (Loggable.write [(⟨kind, .owned values⟩ : TensorBuffer)] pool).result =
        (Loggable.schema TensorBuffer).encode
          [Loggable.entry (⟨kind, .owned values⟩ : TensorBuffer)] :=
    write_singleton _ reachable (Nat.le_trans (Nat.add_le_add_left heap _) enough)
  refine ⟨?_, ?_, count, fun word => ?_, fun pool reachable enough few => ?_,
    fun pool reachable enough many => ?_⟩
  · rw [decode, ElementKind.decode, if_pos (Nat.mod_eq_zero_of_dvd whole), values_eq]
    rfl
  · rw [← values_eq]
    exact ElementKind.spells_groups kind all
  · rw [all, ← count] at word ⊢
    exact Nat.min_eq_left word
  · rw [result pool reachable enough, encoded.1 few]
    exact ⟨_, rfl, holds_columnOf kind values⟩
  · rw [result pool reachable enough, encoded.2 many]
    rfl

theorem decode_of_not_dvd (part : ¬ kind.width ∣ bytes.length) :
    decode kind bytes = .error (.sizeMismatch (Size.nextMultiple bytes.length kind.width)
      bytes.length (kind.name ++ " tensor bytes (" ++ toString kind.width ++ " per element)")) := by
  rw [decode, ElementKind.decode, if_neg fun whole => part (Nat.dvd_of_mod_eq_zero whole)]
  rfl

/-- **Little-endian bytes are read exactly, and kept to the column.**  For every kind, bytes that
are no whole elements are refused with the least size that would do, and no group is ever reported.
All others make a buffer of the elements that they stand for, of the size of the bytes; and the
column of that buffer points at a list of these elements. -/
theorem decode_exact (kind : ElementKind) (bytes : List UInt8) :
    kind.decodeChecked bytes = kind.decode bytes ∧
    (¬ kind.width ∣ bytes.length → ∃ expected,
      decode kind bytes = .error (.sizeMismatch expected bytes.length
        (kind.name ++ " tensor bytes (" ++ toString kind.width ++ " per element)")) ∧
      IsLeast {m | bytes.length ≤ m ∧ kind.width ∣ m} expected) ∧
    (kind.width ∣ bytes.length → ∃ values, Reinterprets kind bytes values) :=
  ⟨kind.decodeChecked_eq bytes,
    fun part => ⟨_, decode_of_not_dvd part, isLeast_nextMultiple kind.width_pos _⟩,
    fun whole => ⟨_, reinterprets_groups whole⟩⟩

/-- A signalling single with a payload and a negative zero, and bytes that are one too many. -/
theorem decode_exact_floats :
    let b : TensorBuffer := ⟨.f32, .owned [⟨0xFFA00001⟩, ⟨0x80000000⟩]⟩
    decode .f32 [0x01, 0x00, 0xA0, 0xFF, 0x00, 0x00, 0x00, 0x80] = .ok b ∧
    (∃ c, (Loggable.write [b] .standard).result = .ok c ∧
      Holds .f32 [⟨0xFFA00001⟩, ⟨0x80000000⟩] c) ∧
    ∃ context, decode .f64 [1, 2, 3, 4, 5, 6, 7, 8, 9] = .error (.sizeMismatch 16 9 context) := by
  intro b
  have decoded : decode .f32 [0x01, 0x00, 0xA0, 0xFF, 0x00, 0x00, 0x00, 0x80] = .ok b := rfl
  obtain ⟨-, -, whole⟩ := decode_exact .f32 [0x01, 0x00, 0xA0, 0xFF, 0x00, 0x00, 0x00, 0x80]
  obtain ⟨-, part, -⟩ := decode_exact .f64 [1, 2, 3, 4, 5, 6, 7, 8, 9]
  obtain ⟨values, read⟩ := whole (by decide)
  obtain ⟨expected, refused, -⟩ := part (by decide)
  have expected_eq : expected = 16 := by
    cases refused
    rfl
  have values_eq : values = [⟨0xFFA00001⟩, ⟨0x80000000⟩] := by
    have found : (.ok ⟨.f32, .owned values⟩ : Except LogError TensorBuffer) =
        .ok ⟨.f32, .owned [⟨0xFFA00001⟩, ⟨0x80000000⟩]⟩ := read.decoded.symm.trans decoded
    cases found
    rfl
  subst values_eq expected_eq
  exact ⟨decoded, read.written .standard Pool.reachable_standard (by decide) (by decide), _,
    refused⟩

end TensorBuffer
end ColumnLog
