import ColumnLog.Proofs.Transpose

/-!
# Adding slots, level by level

The builder that holds some slots turns, by an append, into the one that holds one slot more.  The
only thing that can stand in the way is a list whose items no offset reaches any more.

* `Builder.new_eq_holding`, `Builder.appendNulls_holding` and `Builder.appends_of_regular` say so
  for the empty builder, for null slots and for data of the type.
* `Builder.Bounded` tells that no list and no union has a child too long for 32-bit offsets, and
  `Builder.Reaches` that an append ends in a given builder unless it left one that is not bounded.
-/

set_option autoImplicit false

namespace ColumnLog

/-! ## The slots of a union -/

namespace UnionSlots

theorem empty_eq_recorded (ids : List Nat) : empty ids = recorded ids [] := by
  simp only [empty, recorded, List.count_nil, List.map_const', List.length_range,
    List.toArray_replicate]
  rfl

@[simp]
theorem length_recorded (ids tags : List Nat) : (recorded ids tags).length = tags.length := by
  simp [length, recorded]

theorem used_recorded (ids tags : List Nat) {id : Nat} (h : id ≤ ids.foldl max 0) :
    (recorded ids tags).used id = tags.count id := by
  have hid : id < ids.foldl max 0 + 1 := Nat.lt_succ_of_le h
  simp [used, recorded, hid]

theorem record_recorded (ids tags : List Nat) {id : Nat} (h : id ≤ ids.foldl max 0) :
    (recorded ids tags).record id = recorded ids (tags ++ [id]) := by
  rw [record, used_recorded ids tags h]
  simp only [recorded, places_append_singleton, mk.injEq, List.push_toArray, and_self, and_true,
    List.setIfInBounds_toArray]
  refine congrArg List.toArray (List.ext_getElem (by simp) fun k hk _ => ?_)
  simp only [List.length_set, List.length_map, List.length_range] at hk
  simp only [List.getElem_set, List.getElem_map, List.getElem_range, List.count_append,
    List.count_singleton]
  by_cases hid : id = k
  · simp [hid]
  · simp [hid]

theorem accepts_recorded (ids tags : List Nat) {id : Int} (pos : 0 ≤ id)
    (h : id.toNat ≤ ids.foldl max 0) : (recorded ids tags).accepts id = true := by
  have hid : id.toNat < ids.foldl max 0 + 1 := Nat.lt_succ_of_le h
  simp only [accepts, recorded, List.size_toArray, List.length_map, List.length_range,
    Bool.and_eq_true, decide_eq_true_eq]
  exact ⟨pos, hid⟩

theorem pushNulls_recorded (ids tags : List Nat) (count : Nat) :
    (recorded ids tags).pushNulls count = recorded ids (tags ++ List.replicate count 0) := by
  induction count with
  | zero => simp [pushNulls, Nat.repeat]
  | succ count ih =>
    rw [pushNulls, Nat.repeat, ← pushNulls, ih, record_recorded _ _ (Nat.zero_le _),
      List.append_assoc, ← List.replicate_succ']

end UnionSlots

theorem foldl_max_range (n : Nat) : (List.range (n + 1)).foldl max 0 = n := by
  induction n with
  | zero => rfl
  | succ n ih => rw [List.range_succ, List.foldl_append, ih]; simp

namespace Builder

/-! ## What a builder holds -/

@[simp]
theorem holdingField_eq (f : Field) (data : List Datum) :
    holdingField f data = holding (!f.nullable) f.type data := by
  cases f; rfl

@[simp]
theorem length_holding (required : Bool) (type : DataType) (data : List Datum) :
    (holding required type data).length = data.length := by
  cases type <;> simp [holding, length]

/-! ## Builders without slots -/

theorem newFields_eq_holdingParts {fields : List Field}
    (h : ∀ f ∈ fields, newField f = holding (!f.nullable) f.type []) :
    newFields fields = holdingParts fields [] := by
  induction fields with
  | nil => rfl
  | cons f fs ih =>
    rw [newFields, holdingParts, holdingField_eq, h f List.mem_cons_self,
      ih fun g hg => h g (List.mem_cons_of_mem f hg)]
    rfl

theorem newFields_eq_holdingVariants {fields : List Field} (id : Nat)
    (h : ∀ f ∈ fields, newField f = holding (!f.nullable) f.type []) :
    newFields fields = holdingVariants id fields [] := by
  induction fields generalizing id with
  | nil => rfl
  | cons f fs ih =>
    rw [newFields, holdingVariants, holdingField_eq, h f List.mem_cons_self,
      ih (id + 1) fun g hg => h g (List.mem_cons_of_mem f hg)]
    rfl

theorem newField_eq_holding {type : DataType} (h : type.Regular) (f : Field) (hf : f.type = type) :
    newField f = holding (!f.nullable) f.type [] := by
  induction h generalizing f with
  | leaf p =>
    obtain ⟨name, _, nullable⟩ := f
    cases hf
    cases nullable <;> rfl
  | fixedSizeList p pos le =>
    obtain ⟨name, _, nullable⟩ := f
    cases hf
    rfl
  | @list type item ih =>
    obtain ⟨name, _, nullable⟩ := f
    cases hf
    show list _ #[0] #[] (newField (.item type)) = _
    rw [ih (.item type) rfl]
    rfl
  | @struct fields ne each ih =>
    obtain ⟨name, _, nullable⟩ := f
    cases hf
    show struct fields #[] (newFields fields) = _
    rw [newFields_eq_holdingParts fun g hg => ih g hg g rfl]
    rfl
  | @union variants required each ih =>
    obtain ⟨name, _, nullable⟩ := f
    cases hf
    show denseUnion _ _ (.empty _) (newFields variants) = _
    rw [newFields_eq_holdingVariants 1 fun g hg => ih g hg g rfl, UnionSlots.empty_eq_recorded]
    rfl

/-- The empty builder holds no slots. -/
theorem new_eq_holding {type : DataType} (h : type.Regular) : new type = holding false type [] := by
  have optional : new type = newField (.optional "" type) := by cases type <;> rfl
  rw [optional, newField_eq_holding h _ rfl]
  rfl

/-! ## Null slots -/

theorem appendNullsEach_holdingParts {fields : List Field} {n : Nat}
    (h : ∀ f ∈ fields, ∀ r data, appendNulls n (holding r f.type data) =
      holding r f.type (data ++ List.replicate n .null)) (rows : List (List Datum)) :
    appendNullsEach n (holdingParts fields rows) =
      holdingParts fields (rows ++ List.replicate n []) := by
  induction fields generalizing rows with
  | nil => rfl
  | cons f fs ih =>
    simp only [holdingParts, appendNullsEach, holdingField_eq, h f List.mem_cons_self,
      ih fun g hg => h g (List.mem_cons_of_mem f hg), List.map_append, List.map_replicate]
    rfl

theorem holdingVariants_append {fields : List Field} {id : Nat} {data more : List Datum}
    (h : ∀ k < fields.length, Datum.contents (id + k) more = []) :
    holdingVariants id fields (data ++ more) = holdingVariants id fields data := by
  induction fields generalizing id with
  | nil => rfl
  | cons f fs ih =>
    have head : Datum.contents id more = [] := h 0 (Nat.succ_pos _)
    rw [holdingVariants, holdingVariants, Datum.contents_append, head, List.append_nil, ih]
    intro k hk
    have tail := h (k + 1) (Nat.succ_lt_succ hk)
    rwa [Nat.add_right_comm]

/-- Null slots come behind the slots that a builder holds. -/
theorem appendNulls_holding {type : DataType} (h : type.Regular) (required : Bool)
    (data : List Datum) (n : Nat) :
    appendNulls n (holding required type data) =
      holding required type (data ++ List.replicate n .null) := by
  induction h generalizing required data with
  | leaf p => simp [holding, appendNulls]
  | @fixedSizeList p size pos le =>
    simp [holding, appendNulls, Field.item, Field.required, List.flatMap_replicate,
      Datum.entryItems, Datum.present]
  | list item ih =>
    simp [holding, appendNulls, List.flatMap_replicate, Datum.present, bounds_append_zeros,
      getLast?_bounds]
  | @struct fields ne each ih =>
    simp [holding, appendNulls, appendNullsEach_holdingParts ih, Datum.present, Datum.parts]
  | @union variants required each ih =>
    have kept : holdingVariants 1 variants (data ++ List.replicate n .null) =
        holdingVariants 1 variants data :=
      holdingVariants_append fun k _ => by simp [Datum.contents, Datum.tag]; omega
    simp only [DataType.union, holding, appendNulls, holdingVariants, List.tail_cons, kept]
    simp [UnionSlots.pushNulls_recorded, Datum.tag]

/-! ## Bounds of 32-bit offsets -/

mutual

/-- Whether every child that is addressed by offsets, at any depth, stays below `2 ^ 31` slots. -/
def Bounded : Builder → Prop
  | null _ => True
  | leaf _ _ _ => True
  | fixedSizeList _ _ _ items => Bounded items
  | list _ _ _ items => items.length ≤ Size.largestOffset ∧ Bounded items
  | struct _ _ children => BoundedEach children
  | denseUnion _ _ slots variants => slots.used 0 ≤ Size.largestOffset ∧ BoundedVariants variants

/-- Whether each builder is bounded. -/
def BoundedEach : List Builder → Prop
  | [] => True
  | b :: bs => Bounded b ∧ BoundedEach bs

/-- Whether each builder is bounded, and short enough for the offsets of a union. -/
def BoundedVariants : List Builder → Prop
  | [] => True
  | b :: bs => (b.length ≤ Size.largestOffset ∧ Bounded b) ∧ BoundedVariants bs

end

mutual

/-- Decides whether a builder is bounded. -/
def decideBounded : (b : Builder) → Decidable b.Bounded
  | null _ => .isTrue trivial
  | leaf _ _ _ => .isTrue trivial
  | fixedSizeList _ _ _ items => decideBounded items
  | list _ _ _ items => @instDecidableAnd _ _ (Nat.decLe _ _) (decideBounded items)
  | struct _ _ children => decideBoundedEach children
  | denseUnion _ _ _ variants =>
    @instDecidableAnd _ _ (Nat.decLe _ _) (decideBoundedVariants variants)

/-- Decides whether each builder is bounded. -/
def decideBoundedEach : (bs : List Builder) → Decidable (BoundedEach bs)
  | [] => .isTrue trivial
  | b :: bs => @instDecidableAnd _ _ (decideBounded b) (decideBoundedEach bs)

/-- Decides whether each builder is bounded, and short enough for the offsets of a union. -/
def decideBoundedVariants : (bs : List Builder) → Decidable (BoundedVariants bs)
  | [] => .isTrue trivial
  | b :: bs =>
    @instDecidableAnd _ _ (@instDecidableAnd _ _ (Nat.decLe _ _) (decideBounded b))
      (decideBoundedVariants bs)

end

instance : DecidablePred Bounded := decideBounded

/-- Whether a step ends in the given state, or else has left one that is not bounded. -/
def Reaches {σ : Type} (bounded : σ → Prop) (o : Outcome σ Unit) (s : σ) : Prop :=
  o = .ok () s ∨ ∃ e left, o = .error e left ∧ ¬ bounded left

theorem Reaches.ok {σ : Type} {bounded : σ → Prop} {s : σ} : Reaches bounded (.ok () s) s :=
  .inl rfl

theorem Reaches.mapState {σ τ : Type} {bounded : σ → Prop} {bounded' : τ → Prop}
    {o : Outcome σ Unit} {s : σ} (h : Reaches bounded o s) {f : σ → τ}
    (hf : ∀ left, bounded' (f left) → bounded left) : Reaches bounded' (o.mapState f) (f s) := by
  rcases h with rfl | ⟨e, left, rfl, hleft⟩
  · exact .ok
  · exact .inr ⟨e, f left, rfl, fun hb => hleft (hf left hb)⟩

/-! ## Data -/

variable {type : DataType} {fields : List Field}

/-- What an append of data of the type does to a builder that holds slots of the type. -/
def Appends (type : DataType) : Prop :=
  ∀ (required : Bool) (data : List Datum) (d : Datum), type.Admits d →
    Reaches Bounded (append d (holding required type data)) (holding required type (data ++ [d]))

theorem reaches_append_of_allows {f : Field} (regular : f.type.Regular) (h : Appends f.type)
    (data : List Datum) {d : Datum} (hd : f.Allows d) :
    Reaches Bounded (append d (holdingField f data)) (holdingField f (data ++ [d])) := by
  rw [holdingField_eq, holdingField_eq]
  rcases hd.null_or_admits with rfl | hd
  · refine .inl ?_
    rw [append, appendNull, appendNulls_holding regular]
    rfl
  · exact h _ data d hd

theorem reaches_appendItems {f : Field} (regular : f.type.Regular) (h : Appends f.type)
    (items : List Datum) (data : List Datum) (hd : ∀ d ∈ items, f.Allows d) :
    Reaches Bounded (appendItems items (holdingField f data)) (holdingField f (data ++ items)) := by
  induction items generalizing data with
  | nil => rw [appendItems, List.append_nil]; exact .ok
  | cons d items ih =>
    rcases reaches_append_of_allows regular h data (hd d List.mem_cons_self) with
      ok | ⟨e, left, error, hleft⟩
    · have rest := ih (data ++ [d]) fun x hx => hd x (List.mem_cons_of_mem d hx)
      rw [List.append_assoc, List.singleton_append] at rest
      simpa only [appendItems, ok] using rest
    · exact .inr ⟨e, left, by rw [appendItems, error], hleft⟩

theorem reaches_appendParts (regular : ∀ f ∈ fields, f.type.Regular)
    (h : ∀ f ∈ fields, Appends f.type) (parts : List Datum) (rows : List (List Datum))
    (hd : Field.AllowsEach fields parts) :
    Reaches BoundedEach (appendParts parts (holdingParts fields rows))
      (holdingParts fields (rows ++ [parts])) := by
  induction fields generalizing parts rows with
  | nil =>
    rw [hd.eq_nil]
    exact .ok
  | cons f fs ih =>
    obtain ⟨d, parts, rfl, allows, rest⟩ := hd.eq_cons
    have head := reaches_append_of_allows (regular f List.mem_cons_self)
      (h f List.mem_cons_self) (rows.map (·.headD .null)) allows
    have tail := ih (fun g hg => regular g (List.mem_cons_of_mem f hg))
      (fun g hg => h g (List.mem_cons_of_mem f hg)) parts (rows.map List.tail) rest
    simp only [holdingParts, appendParts, List.map_append, List.map_cons, List.map_nil,
      List.headD_cons, List.tail_cons]
    rcases head with ok | ⟨e, left, error, hleft⟩
    · rcases tail with oks | ⟨e, lefts, error, hlefts⟩
      · exact .inl (by simp only [ok, oks])
      · exact .inr ⟨e, _ :: lefts, by simp only [ok, error]; rfl, fun hb => hlefts hb.2⟩
    · exact .inr ⟨e, left :: _, by simp only [error]; rfl, fun hb => hleft hb.1⟩

theorem reaches_workAt (regular : ∀ f ∈ fields, f.type.Regular)
    (h : ∀ f ∈ fields, Appends f.type) (id k : Nat) (data : List Datum) (d : Datum)
    (htag : d.tag = id + k) (hd : Field.AllowsAt fields k d.content) :
    Reaches BoundedVariants (workAt (append d.content) k (holdingVariants id fields data))
      (holdingVariants id fields (data ++ [d])) := by
  induction fields generalizing id k with
  | nil => exact hd.elim
  | cons f fs ih =>
    rw [holdingVariants, holdingVariants, Datum.contents_append, Datum.contents_singleton]
    cases k with
    | zero =>
      have others : holdingVariants (id + 1) fs (data ++ [d]) = holdingVariants (id + 1) fs data :=
        holdingVariants_append fun j _ => by simp [Datum.contents_singleton, htag]; omega
      rw [if_pos (by omega), others, workAt]
      exact (reaches_append_of_allows (regular f List.mem_cons_self) (h f List.mem_cons_self)
        (Datum.contents id data) hd).mapState fun left hb => hb.1.2
    | succ k =>
      have tail := ih (fun g hg => regular g (List.mem_cons_of_mem f hg))
        (fun g hg => h g (List.mem_cons_of_mem f hg)) (id + 1) k (by omega) hd
      rw [if_neg (by omega), List.append_nil, workAt]
      exact tail.mapState fun lefts hb => hb.2

theorem reaches_closeEntry (item : Field) (offsets : Array Nat) (mask : Array Bool)
    (items : Builder) :
    Reaches Bounded (closeEntry (list item offsets mask items))
      (list item (offsets.push items.length) (mask.push true) items) := by
  rw [closeEntry]
  split
  · exact .ok
  · next h => exact .inr ⟨_, _, rfl, fun hb => h hb.1⟩

theorem appends_leaf (p : Primitive) : Appends (.leaf p) := by
  intro required data d hd
  obtain ⟨value, rfl⟩ := hd.eq_scalar
  exact .inl (by simp [holding, append])

theorem appends_fixedSizeList (p : Primitive) (size : Nat) :
    Appends (.fixedSizeList (.item (.leaf p)) size) := by
  intro required data d hd
  obtain ⟨items, rfl, hsize, allows⟩ := hd.eq_entry
  have flat := reaches_appendItems (f := .item (.leaf p)) (.leaf p) (appends_leaf p) items
    (data.flatMap (Datum.entryItems size)) allows
  simp only [holding, append, if_pos hsize, List.map_append, List.flatMap_append, List.map_cons,
    List.map_nil, List.flatMap_singleton, Datum.entryItems_items, Datum.present]
  rcases flat with ok | ⟨e, left, error, hleft⟩
  · exact .inl (by rw [ok, List.push_toArray])
  · exact .inr ⟨e, fixedSizeList _ size _ left, by rw [error], hleft⟩

theorem appends_list (regular : type.Regular) (h : Appends type) :
    Appends (.list (.item type)) := by
  intro required data d hd
  obtain ⟨items, rfl, allows⟩ := hd.eq_items
  have all := reaches_appendItems (f := .item type) regular h items
    (data.flatMap Datum.listItems) allows
  simp only [holding, append, List.map_append, List.flatMap_append, List.map_cons, List.map_nil,
    List.flatMap_singleton, Datum.listItems_items, Datum.present, bounds_append_singleton]
  rcases all with ok | ⟨e, left, error, hleft⟩
  · have close := reaches_closeEntry (.item type)
      (bounds (data.map fun d => d.listItems.length)).toArray (data.map Datum.present).toArray
      (holdingField (.item type) (data.flatMap Datum.listItems ++ items))
    rw [ok]
    simpa [List.length_flatMap, Function.comp_def] using close
  · exact .inr ⟨e, list _ _ _ left, by rw [error], fun hb => hleft hb.2⟩

theorem appends_struct (regular : ∀ f ∈ fields, f.type.Regular)
    (h : ∀ f ∈ fields, Appends f.type) : Appends (.struct fields) := by
  intro required data d hd
  obtain ⟨parts, rfl, allows⟩ := hd.eq_record
  have all := reaches_appendParts regular h parts (data.map Datum.parts) allows
  simp only [holding, append, List.map_append, List.map_cons, List.map_nil, Datum.parts_record,
    Datum.present]
  rcases all with ok | ⟨e, left, error, hleft⟩
  · exact .inl (by rw [ok, List.push_toArray])
  · exact .inr ⟨e, struct _ _ left, by rw [error], hleft⟩

theorem appends_union (regular : ∀ f ∈ fields, f.type.Regular)
    (h : ∀ f ∈ fields, Appends f.type) : Appends (.union fields) := by
  intro required data d hd
  obtain ⟨k, content, rfl, allows⟩ := hd.eq_variant
  have lt : k < fields.length := by
    obtain ⟨f, hf, -⟩ := (Field.allowsAt_iff fields k content).mp allows
    exact (List.getElem?_eq_some_iff.mp hf).1
  have top : ((k + 1 : Nat) : Int).toNat ≤ (List.range (fields.length + 1)).foldl max 0 := by
    rw [foldl_max_range, Int.toNat_natCast]
    exact lt
  have work := reaches_workAt regular h 1 k data (.variant ((k + 1 : Nat) : Int) content)
    (by rw [Datum.tag, Int.toNat_natCast, Nat.add_comm]) allows
  simp only [DataType.union, holding, append, holdingVariants, List.tail_cons,
    UnionSlots.accepts_recorded _ _ (Int.natCast_nonneg _) top, if_pos,
    UnionSlots.record_recorded _ _ top, List.map_append, List.map_cons, List.map_nil,
    Datum.tag_variant]
  rw [Int.toNat_natCast]
  exact work.mapState (f := denseUnion _ _ _) fun left hb => hb.2

/-- Data of the type comes behind the slots that a builder holds. -/
theorem appends_of_regular (h : type.Regular) : Appends type := by
  induction h with
  | leaf p => exact appends_leaf p
  | fixedSizeList p pos le => exact appends_fixedSizeList p _
  | list regular ih => exact appends_list regular ih
  | struct ne each ih => exact appends_struct each ih
  | union required each ih => exact appends_union each ih

end Builder
end ColumnLog
