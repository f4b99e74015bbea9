import ColumnLog.Proofs.LittleEndian
import ColumnLog.Proofs.Overflow

/-!
# Slots that lose their data

A union records a slot before it writes the variant.  If the variant is an entry that its list
refuses, the slot stays and points to a place that the list has not reached.  The list refuses every
later entry as well, so it never reaches it, and the union can never be finished: whatever was
accepted before is lost.

* `Builder.Level` are the unions of lists that runs lead to, `Builder.Adrift` says that a slot of
  one has lost its data.
* `Builder.Level.append` is what an append does to them; `Builder.Lost` is preserved by every
  further step (`Builder.Lost.append`), and `Builder.Lost.finish` says that nothing is finished.
* `Builder.overflow_exact` is the result, for lists, mesh properties, buffers and tensors.
-/

set_option autoImplicit false

namespace ColumnLog
namespace Builder

/-! ## Unions of lists -/

/-- Whether the fields are those of lists, all required, whose items have no limit. -/
def ListFields (fields : List Field) : Prop :=
  ∀ f ∈ fields, f.nullable = false ∧ ∃ type, f.type = .list (.item type) ∧ Unlimited type

/-- A union of the given fields. -/
def unionOf (fields : List Field) (slots : UnionSlots) (variants : List Builder) : Builder :=
  .denseUnion (List.range (fields.length + 1)) (DataType.nullMarkers :: fields) slots variants

/-- Whether every variant is a list, with no more entries than there are slots for them. -/
structure Level (fields : List Field) (slots : UnionSlots) (variants : List Builder) : Prop where
  known : fields.length < slots.counts.size
  paired : slots.offsets.size = slots.typeIds.size
  count : variants.length = fields.length
  child : ∀ (k : Nat) (f : Field) (type : DataType), fields[k]? = some f →
    f.type = .list (.item type) → ∃ v, variants[k]? = some v ∧ Listed type v
  covered : ∀ (k : Nat) (v : Builder), variants[k]? = some v → v.length ≤ slots.used (k + 1)

/-- Whether some slot has a place that its list has not reached, and the list is full. -/
def Adrift (slots : UnionSlots) (variants : List Builder) : Prop :=
  ∃ (i k place : Nat) (v : Builder), slots.typeIds[i]? = some (k + 1) ∧
    slots.offsets[i]? = some place ∧ variants[k]? = some v ∧ v.length ≤ place ∧
    Size.largestOffset < v.itemCount []

variable {fields : List Field} {slots : UnionSlots} {variants : List Builder} {type : DataType}
  {data : List Datum} {b v v' : Builder} {k : Nat} {f : Field}

theorem append_unionOf (known : fields.length < slots.counts.size) (child : variants[k]? = some v)
    (lt : k < fields.length) (content : Datum) :
    append (.variant ((k + 1 : Nat) : Int) content) (unionOf fields slots variants) =
      (append content v).mapState fun v =>
        unionOf fields (slots.record (k + 1)) (variants.set k v) := by
  have accepts : slots.accepts ((k + 1 : Nat) : Int) = true := by
    rw [UnionSlots.accepts, Bool.and_eq_true, decide_eq_true_iff, decide_eq_true_iff,
      Int.toNat_natCast]
    omega
  rw [unionOf, append, if_pos accepts, Int.toNat_natCast]
  simp only [workAt_of_getElem? _ child]
  cases append content v <;> rfl

theorem paired_record (id : Nat) (paired : slots.offsets.size = slots.typeIds.size) :
    (slots.record id).offsets.size = (slots.record id).typeIds.size := by
  rw [UnionSlots.record, Array.size_push, Array.size_push, paired]

/-- A slot, and for it at most one entry more. -/
theorem Level.record (level : Level fields slots variants) (field : fields[k]? = some f)
    (list : f.type = .list (.item type)) (child : variants[k]? = some v) (listed : Listed type v')
    (grown : v'.length ≤ v.length + 1) :
    Level fields (slots.record (k + 1)) (variants.set k v') := by
  have lt : k < fields.length := (List.getElem?_eq_some_iff.mp field).1
  have lt' : k < variants.length := (List.getElem?_eq_some_iff.mp child).1
  have known := level.known
  refine ⟨by rwa [UnionSlots.size_counts_record], paired_record _ level.paired,
    by rw [List.length_set, level.count], fun j g type' field' list' => ?_, fun j w at_j => ?_⟩
  · by_cases same : k = j
    · subst same
      rw [field] at field'
      cases field'
      rw [list] at list'
      cases list'
      exact ⟨v', List.getElem?_set_self lt', listed⟩
    · rw [List.getElem?_set_ne same]
      exact level.child j g type' field' list'
  · rw [UnionSlots.used_record (by omega)]
    by_cases same : k = j
    · subst same
      rw [List.getElem?_set_self lt'] at at_j
      cases at_j
      have before := level.covered k v child
      rw [if_pos rfl]
      omega
    · rw [List.getElem?_set_ne same] at at_j
      rw [if_neg (by omega)]
      exact level.covered j w at_j

theorem Level.pushNulls (level : Level fields slots variants) (n : Nat) :
    Level fields (slots.pushNulls n) variants where
  known := by
    rw [size_counts_pushNulls]
    exact level.known
  paired := by
    induction n with
    | zero => exact level.paired
    | succ n ih => exact paired_record 0 ih
  count := level.count
  child := level.child
  covered k v child := Nat.le_trans (level.covered k v child) (slots.used_le_pushNulls n (k + 1))

/-- A slot that is recorded is recorded behind the others. -/
theorem getElem?_record {i t place : Nat} (id : Nat) (tag : slots.typeIds[i]? = some t)
    (offset : slots.offsets[i]? = some place) :
    (slots.record id).typeIds[i]? = some t ∧ (slots.record id).offsets[i]? = some place := by
  have lt : i < slots.typeIds.size := (Array.getElem?_eq_some_iff.mp tag).1
  have lt' : i < slots.offsets.size := (Array.getElem?_eq_some_iff.mp offset).1
  constructor
  · rw [UnionSlots.record, Array.getElem?_push, if_neg (Nat.ne_of_lt lt), tag]
  · rw [UnionSlots.record, Array.getElem?_push, if_neg (Nat.ne_of_lt lt'), offset]

/-- What has lost its data does not find it again: a full list takes no entry. -/
theorem Adrift.record (adrift : Adrift slots variants) (child : variants[k]? = some v)
    (stuck : Size.largestOffset < v.itemCount [] →
      v'.length = v.length ∧ Size.largestOffset < v'.itemCount []) :
    Adrift (slots.record (k + 1)) (variants.set k v') := by
  obtain ⟨i, j, place, w, tag, offset, at_j, short, full⟩ := adrift
  obtain ⟨tag', offset'⟩ := getElem?_record (k + 1) tag offset
  by_cases same : k = j
  · subst same
    rw [child] at at_j
    cases at_j
    obtain ⟨length, full'⟩ := stuck full
    refine ⟨i, k, place, v', tag', offset', ?_, length ▸ short, full'⟩
    exact List.getElem?_set_self (List.getElem?_eq_some_iff.mp child).1
  · exact ⟨i, j, place, w, tag', offset', (List.getElem?_set_ne same).trans at_j, short, full⟩

theorem Adrift.pushNulls (adrift : Adrift slots variants) (n : Nat) :
    Adrift (slots.pushNulls n) variants := by
  obtain ⟨i, j, place, w, tag, offset, child⟩ := adrift
  have kept : (slots.pushNulls n).typeIds[i]? = some (j + 1) ∧
      (slots.pushNulls n).offsets[i]? = some place := by
    induction n with
    | zero => exact ⟨tag, offset⟩
    | succ n ih => exact getElem?_record 0 ih.1 ih.2
  exact ⟨i, j, place, w, kept.1, kept.2, child⟩

/-- How an append of an entry ends that brings the list of its variant to `count` items. -/
inductive Filing (fields : List Field) (slots : UnionSlots) (variants : List Builder)
    (count : Nat) : Appended → Prop where
  | filed {slots' : UnionSlots} {variants' : List Builder} (level : Level fields slots' variants')
    (keeps : Adrift slots variants → Adrift slots' variants') (le : count ≤ Size.largestOffset) :
    Filing fields slots variants count (.ok () (unionOf fields slots' variants'))
  | lost {slots' : UnionSlots} {variants' : List Builder} (level : Level fields slots' variants')
    (adrift : Adrift slots' variants') (beyond : Size.largestOffset < count) :
    Filing fields slots variants count
      (.error (overflow count) (unionOf fields slots' variants'))

/-- **A slot whose entry is refused has lost its data.**  It has the place behind all entries of its
list, which is full from then on. -/
theorem Level.append (level : Level fields slots variants) (u : Unlimited type)
    (field : fields[k]? = some f) (list : f.type = .list (.item type))
    (child : variants[k]? = some v) (admits : ∀ d ∈ data, type.Admits d) :
    Filing fields slots variants (v.itemCount [] + data.length)
      (Builder.append (.variant ((k + 1 : Nat) : Int) (.items data))
        (unionOf fields slots variants)) := by
  obtain ⟨w, child', listed⟩ := level.child k f type field list
  rw [child] at child'
  cases child'
  have lt : k < fields.length := (List.getElem?_eq_some_iff.mp field).1
  have closing := listed.append u admits
  rw [append_unionOf level.known child lt]
  generalize Builder.append (.items data) v = o at closing ⊢
  cases closing with
  | @closed later listed' length le =>
    refine .filed (level.record field list child listed' (Nat.le_of_eq length))
      (fun adrift => adrift.record child fun full => ?_) le
    omega
  | @refused left listed' length count beyond stranded =>
    have fewer := level.covered k v child
    refine .lost (level.record field list child listed' (by omega)) ?_ beyond
    refine ⟨slots.typeIds.size, k, slots.used (k + 1), left, ?_, ?_,
      List.getElem?_set_self (List.getElem?_eq_some_iff.mp child).1, by omega, by omega⟩
    · rw [UnionSlots.record, Array.getElem?_push, if_pos rfl]
    · rw [UnionSlots.record, Array.getElem?_push, if_pos level.paired.symm]

/-! ## States that runs lead to -/

/-- A union of lists as runs leave it. -/
inductive Filled (fields : List Field) : Builder → Prop where
  | mk {slots : UnionSlots} {variants : List Builder} (level : Level fields slots variants) :
    Filled fields (unionOf fields slots variants)

/-- A union of lists with a slot that has lost its data. -/
inductive Lost (fields : List Field) : Builder → Prop where
  | mk {slots : UnionSlots} {variants : List Builder} (level : Level fields slots variants)
    (adrift : Adrift slots variants) : Lost fields (unionOf fields slots variants)

/-- Data of a union of lists is an entry of one of them. -/
theorem admits_unionOf (lists : ListFields fields) {d : Datum}
    (admits : (DataType.union fields).Admits d) :
    ∃ k f type data, d = .variant ((k + 1 : Nat) : Int) (.items data) ∧ fields[k]? = some f ∧
      f.type = .list (.item type) ∧ Unlimited type ∧ ∀ x ∈ data, type.Admits x := by
  obtain ⟨k, content, rfl, allows⟩ := admits.eq_variant
  obtain ⟨f, field, allows⟩ := (Field.allowsAt_iff fields k content).mp allows
  obtain ⟨required, type, list, u⟩ := lists f (List.mem_of_getElem? field)
  have inside := allows.admits required
  rw [list] at inside
  obtain ⟨data, rfl, items⟩ := inside.eq_items
  exact ⟨k, f, type, data, rfl, field, list, u, fun x mem => (items x mem).admits rfl⟩

theorem Filled.appendNull (h : Filled fields b) : Filled fields b.appendNull := by
  cases h with
  | mk level => exact .mk (level.pushNulls 1)

theorem Lost.appendNull (h : Lost fields b) : Lost fields b.appendNull := by
  cases h with
  | mk level adrift => exact .mk (level.pushNulls 1) (adrift.pushNulls 1)

theorem Filled.append (lists : ListFields fields) (h : Filled fields b) {d : Datum}
    (admits : (DataType.union fields).Admits d) : Filled fields (Builder.append d b).state := by
  cases h with
  | mk level =>
    obtain ⟨k, f, type, data, rfl, field, list, u, items⟩ := admits_unionOf lists admits
    obtain ⟨v, child, -⟩ := level.child k f type field list
    have filing := level.append u field list child items
    generalize Builder.append (.variant ((k + 1 : Nat) : Int) (.items data)) _ = o at filing ⊢
    cases filing with
    | filed level' _ _ => exact .mk level'
    | lost level' _ _ => exact .mk level'

/-- Nothing that is added brings lost data back. -/
theorem Lost.append (lists : ListFields fields) (h : Lost fields b) {d : Datum}
    (admits : (DataType.union fields).Admits d) : Lost fields (Builder.append d b).state := by
  cases h with
  | mk level adrift =>
    obtain ⟨k, f, type, data, rfl, field, list, u, items⟩ := admits_unionOf lists admits
    obtain ⟨v, child, -⟩ := level.child k f type field list
    have filing := level.append u field list child items
    generalize Builder.append (.variant ((k + 1 : Nat) : Int) (.items data)) _ = o at filing ⊢
    cases filing with
    | filed level' keeps _ => exact .mk level' (keeps adrift)
    | lost level' adrift' _ => exact .mk level' adrift'

theorem getElem?_finishEach {bs : List Builder} {cs : List Column} (ok : finishEach bs = .ok cs)
    (at_k : bs[k]? = some b) : ∃ c, cs[k]? = some c ∧ b.finish = .ok c := by
  induction bs generalizing k cs with
  | nil => cases at_k
  | cons b' bs ih =>
    rw [finishEach] at ok
    cases head : b'.finish with
    | error e => rw [head] at ok; cases ok
    | ok c =>
      cases tail : finishEach bs with
      | error e => rw [head, tail] at ok; cases ok
      | ok cs' =>
        rw [head, tail] at ok
        cases ok
        cases k with
        | zero =>
          cases at_k
          exact ⟨c, rfl, head⟩
        | succ k =>
          obtain ⟨c', at_c, finished⟩ := ih tail (show bs[k]? = some b from at_k)
          exact ⟨c', at_c, finished⟩

theorem Level.finish_child (level : Level fields slots variants) (lists : ListFields fields)
    (child : variants[k]? = some v) : ∃ c, v.finish = .ok c ∧ c.length = v.length := by
  have lt : k < variants.length := (List.getElem?_eq_some_iff.mp child).1
  obtain ⟨f, field⟩ : ∃ f, fields[k]? = some f :=
    ⟨_, List.getElem?_eq_getElem (level.count ▸ lt)⟩
  obtain ⟨-, type, list, u⟩ := lists f (List.mem_of_getElem? field)
  obtain ⟨w, child', listed⟩ := level.child k f type field list
  rw [child] at child'
  cases child'
  obtain ⟨c, finished, length, -⟩ := listed.finish u
  exact ⟨c, finished, length⟩

theorem denseUnion?_of_outside (fields : List Field) {ids : List Nat}
    {typeIds offsets : Array Nat} {children : List Column} {i t place : Nat}
    (tag : typeIds[i]? = some t) (offset : offsets[i]? = some place)
    (outside : Column.pointsInside ids children t place = false) :
    ∃ fault, Column.denseUnion? ids fields typeIds offsets children = .error fault := by
  have points : (List.zipWith (Column.pointsInside ids children) typeIds.toList
      offsets.toList)[i]? = some false := by
    rw [List.getElem?_zipWith, Array.getElem?_toList, Array.getElem?_toList, tag, offset, ← outside]
  have refused : (!(List.zipWith (Column.pointsInside ids children) typeIds.toList
      offsets.toList).all id) = true := by
    rw [Bool.not_eq_true', List.all_eq_false]
    exact ⟨false, List.mem_of_getElem? points, Bool.false_ne_true⟩
  rw [Column.denseUnion?, if_pos refused]
  split
  · exact ⟨_, rfl⟩
  · split <;> exact ⟨_, rfl⟩

/-- **A union with a slot that has lost its data is never finished.** -/
theorem Lost.finish (lists : ListFields fields) (h : Lost fields b) : ∃ e, b.finish = .error e := by
  cases h with
  | @mk slots variants level adrift =>
    cases columns : finishEach variants with
    | error e => exact ⟨e, by rw [unionOf, Builder.finish, columns]; rfl⟩
    | ok cs =>
      obtain ⟨i, k, place, v, tag, offset, child, short, full⟩ := adrift
      obtain ⟨c, column, finished⟩ := getElem?_finishEach columns child
      obtain ⟨c', finished', length⟩ := level.finish_child lists child
      have same : c = c' := Except.ok.inj (finished.symm.trans finished')
      have outside : Column.pointsInside (List.range (fields.length + 1))
          (.null (slots.used 0) :: cs) (k + 1) place = false := by
        by_contra inside
        obtain ⟨j, d, index, at_j, lt⟩ :=
          Column.lt_length_of_pointsInside (Bool.not_eq_false _ ▸ inside)
        rw [DataType.eq_of_fieldIndex?_range index, List.getElem?_cons_succ, column] at at_j
        cases at_j
        rw [same, length] at lt
        omega
      obtain ⟨fault, refused⟩ :=
        denseUnion?_of_outside (DataType.nullMarkers :: fields) tag offset outside
      refine ⟨.ofFault fault, ?_⟩
      rw [unionOf, Builder.finish, columns]
      show settle (Column.denseUnion? (List.range (fields.length + 1)) _ _ _ _) = _
      rw [refused, settle]

theorem Filled.run (lists : ListFields fields) (h : Filled fields b) {steps : List (Option Entry)}
    (fits : Fitting (.union fields) steps) : Filled fields (b.run steps) :=
  run_preserves (fun _ h => h.appendNull) (fun _ _ h admits => h.append lists admits) fits h

theorem Lost.run (lists : ListFields fields) (h : Lost fields b) {steps : List (Option Entry)}
    (fits : Fitting (.union fields) steps) : Lost fields (b.run steps) :=
  run_preserves (fun _ h => h.appendNull) (fun _ _ h admits => h.append lists admits) fits h

/-! ## A list beside a union -/

/-- A struct of a list and another builder, as runs leave it. -/
inductive Headed (parts : List Field) (type : DataType) (holds : Builder → Prop) :
    Builder → Prop where
  | mk {mask : Array Bool} {head next : Builder} (listed : Listed type head) (rest : holds next) :
    Headed parts type holds (.struct parts mask [head, next])

variable {parts : List Field} {holds : Builder → Prop}

theorem append_record_pair (parts : List Field) (mask : Array Bool) (head next : Builder)
    (d d' : Datum) :
    append (.record [d, d']) (.struct parts mask [head, next]) =
      match append d head with
      | .ok () head =>
        match append d' next with
        | .ok () next => .ok () (.struct parts (mask.push true) [head, next])
        | .error e next => .error e (.struct parts mask [head, next])
      | .error e head => .error e (.struct parts mask [head, next]) := by
  simp only [append, appendParts]
  cases append d head with
  | error e head => rfl
  | ok u head => cases append d' next <;> rfl

theorem Headed.appendNull (nulls : ∀ b, holds b → holds b.appendNull)
    (h : Headed parts type holds b) : Headed parts type holds b.appendNull := by
  cases h with
  | mk listed rest => exact .mk (listed.appendNulls 1) (nulls _ rest)

theorem Headed.append (u : Unlimited type) {d : Datum}
    (added : ∀ b, holds b → holds (Builder.append d b).state)
    (h : Headed parts type holds b) (admits : ∀ x ∈ data, type.Admits x) :
    Headed parts type holds (Builder.append (.record [.items data, d]) b).state := by
  cases h with
  | @mk mask head next listed rest =>
    have closing := listed.append u admits
    have filed := added next rest
    rw [append_record_pair]
    generalize Builder.append (.items data) head = o at closing ⊢
    cases closing with
    | refused listed' _ _ _ _ => exact .mk listed' rest
    | closed listed' _ _ =>
      generalize Builder.append d next = o' at filed ⊢
      cases o' with
      | ok u next' => exact .mk listed' filed
      | error e next' => exact .mk listed' filed

theorem Headed.run (u : Unlimited type) {name name' : String} {other : DataType}
    (nulls : ∀ b, holds b → holds b.appendNull)
    (added : ∀ b d, holds b → other.Admits d → holds (Builder.append d b).state)
    (h : Headed parts type holds b) {steps : List (Option Entry)}
    (fits : Fitting (.struct [.required name (.list (.item type)), .required name' other]) steps) :
    Headed parts type holds (b.run steps) := by
  refine run_preserves (fun b h => h.appendNull nulls) (fun b d h admits => ?_) fits h
  obtain ⟨ds, rfl, each⟩ := admits.eq_record
  obtain ⟨x, xs, rfl, allows, rest⟩ := each.eq_cons
  obtain ⟨y, ys, rfl, allows', rest'⟩ := rest.eq_cons
  rw [rest'.eq_nil]
  obtain ⟨data, rfl, items⟩ := DataType.Admits.eq_items (allows.admits rfl)
  exact h.append u (fun b hb => added b y hb (allows'.admits rfl))
    fun z mem => (items z mem).admits rfl

theorem Headed.finish_of_lost (u : Unlimited type) (lists : ListFields fields)
    (h : Headed parts type (Lost fields) b) : ∃ e, b.finish = .error e := by
  cases h with
  | mk listed lost =>
    obtain ⟨c, head, -⟩ := listed.finish u
    obtain ⟨e, next⟩ := lost.finish lists
    refine ⟨e, ?_⟩
    rw [Builder.finish, finishEach, head, finishEach, next]
    rfl

end Builder

/-! ## The loggable types -/

theorem DataType.admits_of_mem_scalars (p : Primitive) (xs : List p.Value) :
    ∀ d ∈ xs.map (Datum.scalar p), (leaf p).Admits d := by
  intro d mem
  obtain ⟨x, -, rfl⟩ := List.mem_map.mp mem
  rfl

/-- The builder after some values and null slots, whatever became of them. -/
def Loggable.reached (α : Type) {kind : NameKind} [Loggable α kind] (capacity : Nat)
    (values : List (Option α)) : Builder :=
  (Loggable.newBuilder α capacity).run (Loggable.steps values)

/-- Whether a builder is never finished, whatever else is added. -/
def Loggable.Forfeit (α : Type) {kind : NameKind} [Loggable α kind] (left : Builder) : Prop :=
  ∀ more : List (Option α), ∃ e, (left.run (Loggable.steps more)).finish = .error e

namespace TensorBuffer

theorem listFields_elements : Builder.ListFields (ElementKind.all.map elements) := by
  intro f mem
  obtain ⟨kind, -, rfl⟩ := List.mem_map.mp mem
  exact ⟨rfl, _, rfl, Builder.unlimited_leaf _⟩

/-- The builders of buffers begin as unions of empty lists. -/
theorem filled_holding_nil (required : Bool) :
    Builder.Filled (ElementKind.all.map elements) (.holding required type []) := by
  have start : Builder.holding required type [] =
      .unionOf (ElementKind.all.map elements)
        (.recorded (List.range (ElementKind.all.length + 1)) [])
        (Builder.holdingVariants 1 (ElementKind.all.map elements) []) := rfl
  rw [start]
  have variant (k : Nat) :
      (Builder.holdingVariants 1 (ElementKind.all.map elements) [])[k]? =
        (ElementKind.all.map elements)[k]?.map fun f => Builder.holdingField f [] :=
    Builder.getElem?_holdingVariants 1 _ [] k
  refine .mk ⟨by decide, rfl, rfl, fun k f type field list => ?_, fun k v child => ?_⟩
  · refine ⟨.listing type #[0] #[] [], ?_, .empty type⟩
    rw [variant, field, Option.map_some, Builder.holdingField_eq, list]
    rfl
  · rw [variant] at child
    obtain ⟨f, -, rfl⟩ := Option.map_eq_some_iff.mp child
    rw [Builder.holdingField_eq, Builder.length_holding]
    exact Nat.zero_le _

/-- Every run of buffers, with whatever fails, leads to a union of lists. -/
theorem filled_reached (capacity : Nat) (values : List (Option TensorBuffer)) :
    Builder.Filled (ElementKind.all.map elements)
      (Loggable.reached TensorBuffer capacity values) := by
  have start : Loggable.newBuilder TensorBuffer capacity = .holding false type [] :=
    Readable.newBuilder_eq_holding capacity
  rw [Loggable.reached, start]
  exact (filled_holding_nil false).run listFields_elements (Readable.fitting_steps values)

theorem forfeit_of_lost {left : Builder} (lost : Builder.Lost (ElementKind.all.map elements) left) :
    Loggable.Forfeit TensorBuffer left := fun more =>
  (lost.run listFields_elements (Readable.fitting_steps more)).finish listFields_elements

/-- A buffer brings the list of its kind to as many items more as it has elements. -/
theorem brings_append {b : Builder} (filled : Builder.Filled (ElementKind.all.map elements) b)
    {v : TensorBuffer} (present : v.isNull = false) :
    Builder.Brings (b.itemCount [v.kind.tag - 1] + v.length)
      (Builder.Lost (ElementKind.all.map elements)) (b.append v.datum) := by
  obtain ⟨k, tag⟩ : ∃ k, v.kind.tag = k + 1 :=
    Nat.exists_eq_succ_of_ne_zero (Nat.ne_of_gt (tag_pos v.kind))
  have field := getElem?_elements v.kind
  have count : v.length = (v.values.toList.map (Datum.scalar v.kind.primitive)).length := by
    rw [List.length_map]
    exact Collection.length_eq_of_isNull_eq_false present
  rw [tag, Nat.add_sub_cancel] at field ⊢
  cases filled with
  | @mk slots variants level =>
    obtain ⟨child, at_k, -⟩ := level.child k _ _ field rfl
    have filing := level.append (Builder.unlimited_leaf v.kind.primitive) field rfl at_k
      (DataType.admits_of_mem_scalars v.kind.primitive v.values.toList)
    have items : (Builder.unionOf (ElementKind.all.map elements) slots variants).itemCount [k] =
        child.itemCount [] := by
      simp [Builder.unionOf, Builder.itemCount, at_k]
    rw [datum, tag, items, count]
    show Builder.Brings _ _ (Builder.append (.variant ((k + 1 : Nat) : Int)
      (.items (v.values.toList.map (.scalar v.kind.primitive)))) _)
    generalize Builder.append (.variant ((k + 1 : Nat) : Int)
      (.items (v.values.toList.map (.scalar v.kind.primitive)))) _ = o at filing ⊢
    cases filing with
    | filed _ _ le => exact .added le
    | lost level' adrift beyond => exact .overflowed beyond (.mk level' adrift)

theorem brings_add (capacity : Nat) (values : List (Option TensorBuffer)) {v : TensorBuffer}
    (present : v.isNull = false) :
    let b := Loggable.reached TensorBuffer capacity values
    Builder.Brings (b.itemCount [v.kind.tag - 1] + v.length) (Loggable.Forfeit TensorBuffer)
      (b.add (Loggable.entry v)) := by
  intro b
  have written : (Loggable.entry v).datum = .ok v.datum := Readable.entry_of_accepts v present
  rw [Builder.add_of_ok written]
  exact (brings_append (filled_reached capacity values) present).mono fun _ => forfeit_of_lost

end TensorBuffer

namespace TensorData

theorem unlimited_dimension : Builder.Unlimited TensorDimension.type :=
  Builder.unlimited_struct (List.cons_ne_nil _ _) fun f mem => by
    rcases List.mem_cons.mp mem with rfl | mem
    · exact Builder.unlimited_leaf .uint64
    · rw [List.mem_singleton.mp mem]
      exact Builder.unlimited_leaf .utf8

/-- The fields of a tensor. -/
def parts : List Field :=
  [.required "shape" (.list (.item TensorDimension.type)), .required "buffer" TensorBuffer.type]

/-- A builder of tensors whose buffers are in a given state. -/
abbrev Carries (holds : Builder → Prop) : Builder → Prop :=
  Builder.Headed parts TensorDimension.type holds

/-- Every run of tensors, with whatever fails, leads to a list of dimensions beside a union of
lists. -/
theorem carries_reached (capacity : Nat) (values : List (Option TensorData)) :
    Carries (Builder.Filled (ElementKind.all.map TensorBuffer.elements))
      (Loggable.reached TensorData capacity values) := by
  have start : Loggable.newBuilder TensorData capacity = .struct parts #[]
      [.listing TensorDimension.type #[0] #[] [], .holding true TensorBuffer.type []] :=
    Readable.newBuilder_eq_holding capacity
  rw [Loggable.reached, start]
  refine Builder.Headed.run unlimited_dimension (fun _ h => h.appendNull)
    (fun _ _ h admits => h.append TensorBuffer.listFields_elements admits)
    (.mk (.empty _) (TensorBuffer.filled_holding_nil true))
    (Readable.fitting_steps (α := TensorData) values)

theorem forfeit_of_lost {left : Builder}
    (lost : Carries (Builder.Lost (ElementKind.all.map TensorBuffer.elements)) left) :
    Loggable.Forfeit TensorData left := fun more =>
  (lost.run unlimited_dimension (fun _ h => h.appendNull)
    (fun _ _ h admits => h.append TensorBuffer.listFields_elements admits)
    (Readable.fitting_steps (α := TensorData) more)).finish_of_lost unlimited_dimension
      TensorBuffer.listFields_elements

theorem admits_dimensions (dims : List TensorDimension) :
    ∀ d ∈ dims.map TensorDimension.datum, TensorDimension.type.Admits d := by
  intro d mem
  obtain ⟨dim, -, rfl⟩ := List.mem_map.mp mem
  exact Readable.admits dim

/-- A tensor brings the dimensions to as many more as it has, and then the list of its kind to as
many elements more. -/
theorem brings_append {b : Builder}
    (carries : Carries (Builder.Filled (ElementKind.all.map TensorBuffer.elements)) b)
    {t : TensorData} (present : t.buffer.isNull = false) :
    (Size.largestOffset < b.itemCount [0] + t.shape.toList.length →
      Builder.Brings (b.itemCount [0] + t.shape.toList.length)
        (Builder.Stranded TensorDimension.type (t.shape.toList.map TensorDimension.datum) b)
        (b.append t.datum)) ∧
    (b.itemCount [0] + t.shape.toList.length ≤ Size.largestOffset →
      Builder.Brings (b.itemCount [1, t.buffer.kind.tag - 1] + t.buffer.length)
        (Carries (Builder.Lost (ElementKind.all.map TensorBuffer.elements)))
        (b.append t.datum)) := by
  cases carries with
  | @mk mask shape buffer listed filled =>
    have count : (t.shape.toList.map TensorDimension.datum).length = t.shape.toList.length :=
      List.length_map _
    have closing := listed.append unlimited_dimension (admits_dimensions t.shape.toList)
    have brings := TensorBuffer.brings_append filled present
    rw [datum, Builder.append_record_pair, ← count]
    show (Size.largestOffset < shape.itemCount [] + _ →
        Builder.Brings (shape.itemCount [] + _) _ _) ∧
      (shape.itemCount [] + _ ≤ Size.largestOffset →
        Builder.Brings (buffer.itemCount [t.buffer.kind.tag - 1] + t.buffer.length) _ _)
    generalize Builder.append (.items (t.shape.toList.map TensorDimension.datum)) shape = o
      at closing ⊢
    generalize Builder.append t.buffer.datum buffer = o' at brings ⊢
    cases closing with
    | refused _ _ _ beyond stranded =>
      exact ⟨fun _ => .overflowed beyond stranded.struct,
        fun le => absurd beyond (Nat.not_lt.mpr le)⟩
    | closed listed' _ le =>
      refine ⟨fun beyond => absurd beyond (Nat.not_lt.mpr le), fun _ => ?_⟩
      cases brings with
      | added le' => exact .added le'
      | overflowed beyond' lost => exact .overflowed beyond' (.mk listed' lost)

theorem brings_add (capacity : Nat) (values : List (Option TensorData)) {t : TensorData}
    (valid : t.validate = .ok ()) :
    let b := Loggable.reached TensorData capacity values
    let rank := t.shape.toList.length
    (Size.largestOffset < b.itemCount [0] + rank →
      Builder.Brings (b.itemCount [0] + rank)
        (Builder.Stranded TensorDimension.type (t.shape.toList.map TensorDimension.datum) b)
        (b.add (Loggable.entry t))) ∧
    (b.itemCount [0] + rank ≤ Size.largestOffset →
      Builder.Brings (b.itemCount [1, t.buffer.kind.tag - 1] + t.buffer.length)
        (Loggable.Forfeit TensorData) (b.add (Loggable.entry t))) := by
  intro b rank
  have consistent : t.Consistent := validate_eq_ok_iff.mp valid
  have written : (Loggable.entry t).datum = .ok t.datum := Readable.entry_of_accepts t consistent
  obtain ⟨dimensions, elements⟩ :=
    brings_append (carries_reached capacity values) (t := t) consistent.2.1
  rw [Builder.add_of_ok written]
  exact ⟨dimensions, fun le => (elements le).mono fun _ => forfeit_of_lost⟩

end TensorData

namespace MeshProperties

/-- Every run of mesh properties, with whatever fails, leads to a struct of one list. -/
theorem wrapped_reached (capacity : Nat) (values : List (Option MeshProperties)) :
    Builder.Wrapped "indices" (.leaf .uint32)
      (Loggable.reached MeshProperties capacity values) := by
  have start : Loggable.newBuilder MeshProperties capacity =
      .struct [.optional "indices" (.list (.item (.leaf .uint32)))] #[]
        [.listing (.leaf .uint32) #[0] #[] []] :=
    Readable.newBuilder_eq_holding capacity
  rw [Loggable.reached, start]
  exact .run (Builder.unlimited_leaf .uint32) (Readable.fitting_steps (α := MeshProperties) values)

theorem brings_add (capacity : Nat) (values : List (Option MeshProperties))
    (indices : List UInt32) :
    let b := Loggable.reached MeshProperties capacity values
    Builder.Brings (b.itemCount [0] + indices.length)
      (Builder.Stranded (.leaf .uint32) (indices.map (.scalar .uint32)) b)
      (b.add (Loggable.entry (⟨some indices⟩ : MeshProperties))) := by
  intro b
  have brings := ((wrapped_reached capacity values).append_items (Builder.unlimited_leaf .uint32)
    (DataType.admits_of_mem_scalars .uint32 indices)).2
  rwa [List.length_map] at brings

end MeshProperties

/-! ## The result -/

/-- **What an append leaves that overflows the offsets of a list.**  Every list keeps the items.  A
list, and mesh properties, can then still be finished, and the items stand behind all entries; so
can a tensor, if it is its dimensions that overflow.  But if it is the elements of a buffer, its
slot has been recorded: then no column comes of the builder any more, whatever is added. -/
theorem Builder.overflow_exact (capacity : Nat) :
    (∀ (item : Field) (offsets : Array Nat) (mask : Array Bool) (items items' : Builder)
        (data : List Datum), appendItems data items = .ok () items' →
      Brings items'.length (fun left => left = list item offsets mask items')
        (append (.items data) (list item offsets mask items))) ∧
    (∀ (p : Primitive) (steps : List (Option Entry)), Fitting (.list (.item (.leaf p))) steps →
      let b := (new (.list (.item (.leaf p)))).run steps
      (∀ n, ∃ c, (b.appendNulls n).finish = .ok c) ∧
      ∀ xs : List p.Value, Brings (b.itemCount [] + xs.length)
        (Stranded (.leaf p) (xs.map (.scalar p)) b) (append (.scalars p xs) b)) ∧
    (∀ values : List (Option MeshProperties),
      let b := Loggable.reached MeshProperties capacity values
      (∀ n, ∃ c, (b.appendNulls n).finish = .ok c) ∧
      ∀ indices : List UInt32, Brings (b.itemCount [0] + indices.length)
        (Stranded (.leaf .uint32) (indices.map (.scalar .uint32)) b)
        (b.add (Loggable.entry (⟨some indices⟩ : MeshProperties)))) ∧
    (∀ (values : List (Option TensorBuffer)) (v : TensorBuffer), v.isNull = false →
      let b := Loggable.reached TensorBuffer capacity values
      Brings (b.itemCount [v.kind.tag - 1] + v.length) (Loggable.Forfeit TensorBuffer)
        (b.add (Loggable.entry v))) ∧
    ∀ (values : List (Option TensorData)) (t : TensorData), t.validate = .ok () →
      let b := Loggable.reached TensorData capacity values
      let rank := t.shape.toList.length
      (Size.largestOffset < b.itemCount [0] + rank →
        Brings (b.itemCount [0] + rank)
          (Stranded TensorDimension.type (t.shape.toList.map TensorDimension.datum) b)
          (b.add (Loggable.entry t))) ∧
      (b.itemCount [0] + rank ≤ Size.largestOffset →
        Brings (b.itemCount [1, t.buffer.kind.tag - 1] + t.buffer.length)
          (Loggable.Forfeit TensorData) (b.add (Loggable.entry t))) := by
  refine ⟨?_, ?_, ?_, ?_, ?_⟩
  · intro item offsets mask items items' data written
    rw [append_of_appendItems written]
    split
    · next le => exact .added le
    · next beyond => exact .overflowed (Nat.not_le.mp beyond) rfl
  · intro p steps fits b
    have listed : Listed (.leaf p) b := Listed.run (unlimited_leaf p) fits
    refine ⟨fun n => ?_, fun xs => ?_⟩
    · obtain ⟨c, ok, -⟩ := (listed.appendNulls n).finish (unlimited_leaf p)
      exact ⟨c, ok⟩
    · have brings :=
        (listed.append (unlimited_leaf p) (DataType.admits_of_mem_scalars p xs)).brings
      rwa [List.length_map] at brings
  · intro values b
    have wrapped : Wrapped "indices" (.leaf .uint32) b :=
      MeshProperties.wrapped_reached capacity values
    exact ⟨fun n => (wrapped.appendNulls n).finish (unlimited_leaf .uint32),
      MeshProperties.brings_add capacity values⟩
  · exact fun values v present => TensorBuffer.brings_add capacity values present
  · exact fun values t valid => TensorData.brings_add capacity values valid

/-- A buffer of one element is written, and could be finished; a buffer of too many elements is
refused, and then nothing can be finished any more. -/
theorem Builder.overflow_exact_oversized :
    let b := Loggable.reached TensorBuffer 4 [some ⟨.u8, .owned [7]⟩]
    (∃ c, b.finish = .ok c ∧ c.length = 1) ∧
      ∃ v : TensorBuffer, v.isNull = false ∧ v.length = 2147483648 ∧
        ∃ left, b.add (Loggable.entry v) = .error (overflow 2147483649) left ∧
          Loggable.Forfeit TensorBuffer left := by
  intro b
  have count : TensorBuffer.length ⟨.u8, .owned (List.replicate 2147483648 0)⟩ = 2147483648 :=
    List.length_replicate
  have one : ∃ c, b.finish = .ok c ∧ c.length = 1 :=
    ⟨_, Readable.finish_run_newBuilder (by decide), by rw [DataType.length_columnOf]; rfl⟩
  refine ⟨one, ⟨.u8, .owned (List.replicate 2147483648 0)⟩, rfl, count, ?_⟩
  obtain ⟨-, -, -, buffers, -⟩ := overflow_exact 4
  have brings := buffers [some ⟨.u8, .owned [7]⟩]
    ⟨.u8, .owned (List.replicate 2147483648 0)⟩ rfl
  have items : b.itemCount [0] = 1 := rfl
  have total : b.itemCount [ElementKind.u8.tag - 1] +
      TensorBuffer.length ⟨.u8, .owned (List.replicate 2147483648 0)⟩ = 2147483649 := by
    rw [count]
    exact congrArg (· + 2147483648) items
  have overflows := brings.overflow_of_lt (by
    rw [total]
    decide)
  rwa [total] at overflows

/-- A list of as many items as offsets count refuses an entry of one more.  With a null slot it has
two entries and finishes; the item that was refused is there. -/
theorem Builder.overflow_leaves_items :
    let b : Builder := .list (.optional "item" .null) #[0, 2147483647] #[true] (.null 2147483647)
    ∃ left, b.append (.items [.null]) = .error (overflow 2147483648) left ∧
      b.appendNull.finish = .ok (.list (.optional "item" .null) #[0, 2147483647, 2147483647]
        (.marked #[true, false]) (.null 2147483647)) ∧
      left.appendNull.finish = .ok (.list (.optional "item" .null) #[0, 2147483647, 2147483647]
        (.marked #[true, false]) (.null 2147483648)) := by
  intro b
  refine ⟨_, rfl, ?_, ?_⟩ <;>
    simp [b, appendNull, appendNulls, finish, Column.list?, Column.length, Column.type, settle,
      bind, Except.bind, Field.optional, Mask.ofSlots, Mask.ofRecorded]

end ColumnLog
