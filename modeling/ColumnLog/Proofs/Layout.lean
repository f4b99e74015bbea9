import ColumnLog.Proofs.Charge

/-!
# Builders laid out for a type

A builder that was opened for a type stays laid out for it, whatever is added to it; an append that
fails part way leaves slots behind, but no other layout.  So data of the type can be added to it at
any time, unless a list has more items than its offsets can count.

* `Builder.Shaped` tells that a builder is laid out for a type, `Builder.Closed` that no list in it
  is too long for its offsets.
* `Builder.Ends` lists the two ways in which an append of data of the type can end, and
  `Builder.extending_of_regular` says that there are no others.
* `Builder.shaped_run` carries the layout through a run.
* `Builder.finish_of_addAll` and `Readable.encode_of_addAll` say that what was added without failure
  can be finished, as long as there are not too many slots.
-/

set_option autoImplicit false

namespace ColumnLog
namespace Builder

variable {type : DataType} {fields : List Field} {f : Field}

/-! ## Layout -/

/-- Whether a builder is laid out for a type, whatever slots it has. -/
inductive Shaped : DataType → Builder → Prop where
  | leaf (p : Primitive) (blank : Option p.Value) (slots : Array (Option p.Value)) :
    Shaped (.leaf p) (.leaf p blank slots)
  | fixedSizeList {item : Field} {size : Nat} {mask : Array Bool} {items : Builder}
    (shaped : Shaped item.type items) :
    Shaped (.fixedSizeList item size) (.fixedSizeList item size mask items)
  | list {item : Field} {offsets : Array Nat} {mask : Array Bool} {items : Builder}
    (shaped : Shaped item.type items) : Shaped (.list item) (.list item offsets mask items)
  | struct {fields : List Field} {mask : Array Bool} {children : List Builder}
    (each : List.Forall₂ (fun f b => Shaped f.type b) fields children) :
    Shaped (.struct fields) (.struct fields mask children)
  | union {ids : List Nat} {markers : Field} {fields : List Field} {slots : UnionSlots}
    {variants : List Builder} (known : fields.length < slots.counts.size)
    (each : List.Forall₂ (fun f b => Shaped f.type b) fields variants) :
    Shaped (.denseUnion ids (markers :: fields))
      (.denseUnion ids (markers :: fields) slots variants)

/-- Whether each builder is laid out for its field. -/
abbrev ShapedEach (fields : List Field) (bs : List Builder) : Prop :=
  List.Forall₂ (fun f b => Shaped f.type b) fields bs

theorem shapedEach_holdingParts
    (h : ∀ f ∈ fields, ∀ required data, Shaped f.type (holding required f.type data))
    (rows : List (List Datum)) : ShapedEach fields (holdingParts fields rows) := by
  induction fields generalizing rows with
  | nil => exact .nil
  | cons f fs ih =>
    rw [holdingParts, holdingField_eq]
    exact .cons (h f List.mem_cons_self _ _)
      (ih (fun g hg => h g (List.mem_cons_of_mem f hg)) _)

theorem shapedEach_holdingVariants
    (h : ∀ f ∈ fields, ∀ required data, Shaped f.type (holding required f.type data))
    (id : Nat) (data : List Datum) : ShapedEach fields (holdingVariants id fields data) := by
  induction fields generalizing id with
  | nil => exact .nil
  | cons f fs ih =>
    rw [holdingVariants, holdingField_eq]
    exact .cons (h f List.mem_cons_self _ _)
      (ih (fun g hg => h g (List.mem_cons_of_mem f hg)) _)

/-- The builder of some slots is laid out for their type. -/
theorem shaped_holding (regular : type.Regular) (required : Bool) (data : List Datum) :
    Shaped type (holding required type data) := by
  induction regular generalizing required data with
  | leaf p => exact .leaf p _ _
  | fixedSizeList p pos le => exact .fixedSizeList (.leaf p _ _)
  | list regular ih => exact .list (ih _ _)
  | struct ne each ih => exact .struct (shapedEach_holdingParts ih _)
  | @union variants required each ih =>
    refine .union ?_ (shapedEach_holdingVariants ih 1 data)
    simp only [UnionSlots.recorded, foldl_max_range, List.size_toArray, List.length_map,
      List.length_range]
    exact Nat.lt_succ_self _

/-! ## Lists within their offsets -/

mutual

/-- Whether every list, at any depth, has no more items than its offsets can count. -/
def Closed : Builder → Prop
  | null _ => True
  | leaf _ _ _ => True
  | fixedSizeList _ _ _ items => Closed items
  | list _ _ _ items => items.length ≤ Size.largestOffset ∧ Closed items
  | struct _ _ children => ClosedEach children
  | denseUnion _ _ _ variants => ClosedEach variants

/-- Whether each builder is closed. -/
def ClosedEach : List Builder → Prop
  | [] => True
  | b :: bs => Closed b ∧ ClosedEach bs

end

theorem closedEach_holdingParts
    (h : ∀ f ∈ fields, ∀ required, (holding required f.type []).Closed) :
    ClosedEach (holdingParts fields []) := by
  induction fields with
  | nil => trivial
  | cons f fs ih =>
    rw [holdingParts, holdingField_eq]
    exact ⟨h f List.mem_cons_self _, ih fun g hg => h g (List.mem_cons_of_mem f hg)⟩

theorem closedEach_holdingVariants
    (h : ∀ f ∈ fields, ∀ required, (holding required f.type []).Closed) (id : Nat) :
    ClosedEach (holdingVariants id fields []) := by
  induction fields generalizing id with
  | nil => trivial
  | cons f fs ih =>
    rw [holdingVariants, holdingField_eq]
    exact ⟨h f List.mem_cons_self _, ih (fun g hg => h g (List.mem_cons_of_mem f hg)) _⟩

theorem closed_holding_nil (regular : type.Regular) (required : Bool) :
    (holding required type []).Closed := by
  induction regular generalizing required with
  | leaf p => trivial
  | fixedSizeList p pos le => trivial
  | list regular ih => exact ⟨by simp, ih _⟩
  | struct ne each ih => exact closedEach_holdingParts ih
  | union required each ih => exact closedEach_holdingVariants ih 1

theorem boundedEach_holdingParts
    (h : ∀ f ∈ fields, ∀ required data, data.length ≤ Size.largestOffset →
      (holding required f.type data).Closed → (holding required f.type data).Bounded)
    {rows : List (List Datum)} (few : rows.length ≤ Size.largestOffset)
    (closed : ClosedEach (holdingParts fields rows)) : BoundedEach (holdingParts fields rows) := by
  induction fields generalizing rows with
  | nil => trivial
  | cons f fs ih =>
    rw [holdingParts, holdingField_eq] at closed ⊢
    refine ⟨h f List.mem_cons_self _ _ ?_ closed.1,
      ih (fun g hg => h g (List.mem_cons_of_mem f hg)) ?_ closed.2⟩
    · rwa [List.length_map]
    · rwa [List.length_map]

theorem length_contents_le_length (id : Nat) (data : List Datum) :
    (Datum.contents id data).length ≤ data.length := by
  rw [Datum.contents, List.length_map]
  exact List.length_filter_le _ _

theorem boundedVariants_holdingVariants
    (h : ∀ f ∈ fields, ∀ required data, data.length ≤ Size.largestOffset →
      (holding required f.type data).Closed → (holding required f.type data).Bounded)
    {data : List Datum} (few : data.length ≤ Size.largestOffset) {id : Nat}
    (closed : ClosedEach (holdingVariants id fields data)) :
    BoundedVariants (holdingVariants id fields data) := by
  induction fields generalizing id with
  | nil => trivial
  | cons f fs ih =>
    have fewer := Nat.le_trans (length_contents_le_length id data) few
    rw [holdingVariants, holdingField_eq] at closed ⊢
    refine ⟨⟨?_, h f List.mem_cons_self _ _ fewer closed.1⟩,
      ih (fun g hg => h g (List.mem_cons_of_mem f hg)) closed.2⟩
    rwa [length_holding]

/-- Lists are all that can leave the offsets, as long as there are not too many slots. -/
theorem bounded_of_closed (regular : type.Regular) {required : Bool} {data : List Datum}
    (few : data.length ≤ Size.largestOffset) (closed : (holding required type data).Closed) :
    (holding required type data).Bounded := by
  induction regular generalizing required data with
  | leaf p => trivial
  | fixedSizeList p pos le => trivial
  | list regular ih => exact ⟨closed.1, ih (by simpa using closed.1) closed.2⟩
  | struct ne each ih =>
    exact boundedEach_holdingParts (fun f hf _ _ => ih f hf) (by simpa using few) closed
  | @union variants required each ih =>
    refine ⟨?_, boundedVariants_holdingVariants (fun f hf _ _ => ih f hf) few closed⟩
    rw [UnionSlots.used_recorded _ _ (Nat.zero_le _), ← Datum.length_contents]
    exact Nat.le_trans (length_contents_le_length 0 data) few

/-! ## Null slots -/

theorem size_counts_pushNulls (slots : UnionSlots) (n : Nat) :
    (slots.pushNulls n).counts.size = slots.counts.size := by
  induction n with
  | zero => rfl
  | succ n ih => exact (UnionSlots.size_counts_record _ 0).trans ih

theorem shapedEach_appendNullsEach {n : Nat} {bs : List Builder}
    (h : ∀ f ∈ fields, ∀ b, Shaped f.type b → Shaped f.type (b.appendNulls n))
    (each : ShapedEach fields bs) : ShapedEach fields (appendNullsEach n bs) := by
  induction each with
  | nil => exact .nil
  | cons head _ ih =>
    exact .cons (h _ List.mem_cons_self _ head)
      (ih fun g hg => h g (List.mem_cons_of_mem _ hg))

theorem shaped_appendNulls (regular : type.Regular) {b : Builder} (shaped : Shaped type b)
    (n : Nat) : Shaped type (b.appendNulls n) := by
  induction regular generalizing b n with
  | leaf p => cases shaped with | leaf => exact .leaf p _ _
  | fixedSizeList p pos le =>
    cases shaped with
    | fixedSizeList items => cases items with | leaf => exact .fixedSizeList (.leaf p _ _)
  | list regular ih => cases shaped with | list items => exact .list items
  | struct ne each ih =>
    cases shaped with
    | struct children =>
      exact .struct (shapedEach_appendNullsEach (fun f hf b hb => ih f hf hb n) children)
  | union required each ih =>
    cases shaped with
    | union known variants =>
      refine .union ?_ variants
      rwa [size_counts_pushNulls]

mutual

theorem closed_appendNulls (n : Nat) : (b : Builder) → b.Closed → (b.appendNulls n).Closed
  | null _, _ => trivial
  | leaf _ _ _, _ => trivial
  | fixedSizeList _ size _ items, closed => closed_appendNulls (n * size) items closed
  | list _ _ _ _, closed => closed
  | struct _ _ children, closed => closedEach_appendNullsEach n children closed
  | denseUnion _ _ _ _, closed => closed

theorem closedEach_appendNullsEach (n : Nat) :
    (bs : List Builder) → ClosedEach bs → ClosedEach (appendNullsEach n bs)
  | [], _ => trivial
  | b :: bs, closed =>
    ⟨closed_appendNulls n b closed.1, closedEach_appendNullsEach n bs closed.2⟩

end

/-! ## Data -/

/-- The report of a list whose items are too many for its offsets. -/
def overflow (count : Nat) : LogError :=
  .sizeMismatch Size.largestOffset count "list offsets"

/-- How a step can end: it succeeds, or a list has come to more items than its offsets count. -/
inductive Ends {σ : Type} (after left : σ → Prop) : Outcome σ Unit → Prop where
  | ok {s : σ} (good : after s) : Ends after left (.ok () s)
  | overflow {s : σ} {count : Nat} (kept : left s) (beyond : Size.largestOffset < count) :
    Ends after left (.error (Builder.overflow count) s)

theorem Ends.ok_or_overflow {σ : Type} {after left : σ → Prop} {o : Outcome σ Unit}
    (h : Ends after left o) :
    (∃ s, o = .ok () s ∧ after s) ∨
      ∃ s count, o = .error (Builder.overflow count) s ∧ left s ∧ Size.largestOffset < count := by
  cases h with
  | ok good => exact .inl ⟨_, rfl, good⟩
  | overflow kept beyond => exact .inr ⟨_, _, rfl, kept, beyond⟩

theorem Ends.mapState {σ τ : Type} {after left : σ → Prop} {after' left' : τ → Prop}
    {o : Outcome σ Unit} (h : Ends after left o) {g : σ → τ} (good : ∀ s, after s → after' (g s))
    (kept : ∀ s, left s → left' (g s)) : Ends after' left' (o.mapState g) := by
  cases h with
  | ok h => exact .ok (good _ h)
  | overflow h beyond => exact .overflow (kept _ h) beyond

theorem Ends.mono {σ : Type} {after left after' left' : σ → Prop} {o : Outcome σ Unit}
    (h : Ends after left o) (good : ∀ s, after s → after' s) (kept : ∀ s, left s → left' s) :
    Ends after' left' o := by
  cases h with
  | ok h => exact .ok (good _ h)
  | overflow h beyond => exact .overflow (kept _ h) beyond

/-- A later builder of the type, which is closed if the earlier one was. -/
structure Extension (type : DataType) (b later : Builder) : Prop where
  shaped : Shaped type later
  closed : b.Closed → later.Closed

/-- Whether data of the type extends every builder that is laid out for it, or overflows. -/
def Extending (type : DataType) : Prop :=
  ∀ (b : Builder) (d : Datum), Shaped type b → type.Admits d →
    Ends (Extension type b) (Shaped type) (append d b)

theorem ends_append_of_allows (regular : f.type.Regular) (h : Extending f.type) {b : Builder}
    (shaped : Shaped f.type b) {d : Datum} (allows : f.Allows d) :
    Ends (Extension f.type b) (Shaped f.type) (append d b) := by
  rcases allows.null_or_admits with rfl | admits
  · rw [append]
    exact .ok ⟨shaped_appendNulls regular shaped 1, closed_appendNulls 1 b⟩
  · exact h b d shaped admits

theorem ends_appendItems (regular : f.type.Regular) (h : Extending f.type) {items : List Datum}
    (allows : ∀ d ∈ items, f.Allows d) {b : Builder} (shaped : Shaped f.type b) :
    Ends (Extension f.type b) (Shaped f.type) (appendItems items b) := by
  induction items generalizing b with
  | nil =>
    rw [appendItems]
    exact .ok ⟨shaped, id⟩
  | cons d items ih =>
    have head := ends_append_of_allows regular h shaped (allows d List.mem_cons_self)
    rw [appendItems]
    obtain ⟨b', added, next⟩ | ⟨b', count, added, kept, beyond⟩ := head.ok_or_overflow
    · rw [added]
      have rest := ih (fun x hx => allows x (List.mem_cons_of_mem d hx)) next.shaped
      exact rest.mono (fun later ext => ⟨ext.shaped, ext.closed ∘ next.closed⟩) fun _ => id
    · rw [added]
      exact .overflow kept beyond

theorem ends_appendParts (regular : ∀ f ∈ fields, f.type.Regular)
    (h : ∀ f ∈ fields, Extending f.type) {parts : List Datum}
    (allows : Field.AllowsEach fields parts) {bs : List Builder} (shaped : ShapedEach fields bs) :
    Ends (fun later => ShapedEach fields later ∧ (ClosedEach bs → ClosedEach later))
      (ShapedEach fields) (appendParts parts bs) := by
  induction shaped generalizing parts with
  | nil =>
    rw [allows.eq_nil]
    exact .ok ⟨.nil, id⟩
  | @cons f b fs bs head tail ih =>
    obtain ⟨d, parts, rfl, first, rest⟩ := allows.eq_cons
    have ends := ends_append_of_allows (regular f List.mem_cons_self) (h f List.mem_cons_self)
      head first
    have ends' := ih (fun g hg => regular g (List.mem_cons_of_mem f hg))
      (fun g hg => h g (List.mem_cons_of_mem f hg)) rest
    rw [appendParts]
    obtain ⟨b', added, next⟩ | ⟨b', count, added, kept, beyond⟩ := ends.ok_or_overflow
    · obtain ⟨bs', others, shaped, closed⟩ | ⟨bs', count, others, kept, beyond⟩ :=
        ends'.ok_or_overflow
      · simp only [added, others]
        exact .ok ⟨.cons next.shaped shaped, fun hb => ⟨next.closed hb.1, closed hb.2⟩⟩
      · simp only [added, others]
        exact .overflow (.cons next.shaped kept) beyond
    · rw [added]
      exact .overflow (.cons kept tail) beyond

theorem ends_workAt (regular : ∀ f ∈ fields, f.type.Regular)
    (h : ∀ f ∈ fields, Extending f.type) {k : Nat} {d : Datum} (allows : Field.AllowsAt fields k d)
    {bs : List Builder} (shaped : ShapedEach fields bs) :
    Ends (fun later => ShapedEach fields later ∧ (ClosedEach bs → ClosedEach later))
      (ShapedEach fields) (workAt (append d) k bs) := by
  induction shaped generalizing k with
  | nil => exact allows.elim
  | @cons f b fs bs head tail ih =>
    cases k with
    | zero =>
      have ends := ends_append_of_allows (regular f List.mem_cons_self) (h f List.mem_cons_self)
        head allows
      rw [workAt]
      exact ends.mapState
        (fun later ext => ⟨.cons ext.shaped tail, fun hb => ⟨ext.closed hb.1, hb.2⟩⟩)
        fun left kept => .cons kept tail
    | succ k =>
      have ends := ih (fun g hg => regular g (List.mem_cons_of_mem f hg))
        (fun g hg => h g (List.mem_cons_of_mem f hg)) (k := k) allows
      rw [workAt]
      exact ends.mapState
        (fun later good => ⟨.cons head good.1, fun hb => ⟨hb.1, good.2 hb.2⟩⟩)
        fun left kept => .cons head kept

theorem extending_leaf (p : Primitive) : Extending (.leaf p) := by
  intro b d shaped admits
  obtain ⟨value, rfl⟩ := admits.eq_scalar
  cases shaped with
  | leaf blank slots =>
    rw [append, dif_pos rfl]
    exact .ok ⟨.leaf p _ _, fun _ => trivial⟩

theorem extending_fixedSizeList (p : Primitive) (size : Nat) :
    Extending (.fixedSizeList (.item (.leaf p)) size) := by
  intro b d shaped admits
  obtain ⟨data, rfl, sizes, allows⟩ := admits.eq_entry
  cases shaped with
  | @fixedSizeList _ _ mask items shaped =>
    have ends := ends_appendItems (f := .item (.leaf p)) (.leaf p) (extending_leaf p) allows shaped
    rw [append, if_pos sizes]
    obtain ⟨items', added, next⟩ | ⟨items', count, added, kept, beyond⟩ := ends.ok_or_overflow
    · rw [added]
      exact .ok ⟨.fixedSizeList next.shaped, next.closed⟩
    · rw [added]
      exact .overflow (.fixedSizeList kept) beyond

theorem extending_list (regular : type.Regular) (h : Extending type) :
    Extending (.list (.item type)) := by
  intro b d shaped admits
  obtain ⟨data, rfl, allows⟩ := admits.eq_items
  cases shaped with
  | @list _ offsets mask items shaped =>
    have ends := ends_appendItems (f := .item type) regular h allows shaped
    rw [append]
    obtain ⟨items', added, next⟩ | ⟨items', count, added, kept, beyond⟩ := ends.ok_or_overflow
    · simp only [added, closeEntry]
      split
      · next le => exact .ok ⟨.list next.shaped, fun hb => ⟨le, next.closed hb.2⟩⟩
      · next gt => exact .overflow (.list next.shaped) (Nat.not_le.mp gt)
    · rw [added]
      exact .overflow (.list kept) beyond

theorem extending_struct (regular : ∀ f ∈ fields, f.type.Regular)
    (h : ∀ f ∈ fields, Extending f.type) : Extending (.struct fields) := by
  intro b d shaped admits
  obtain ⟨parts, rfl, allows⟩ := admits.eq_record
  cases shaped with
  | @struct _ mask children shaped =>
    have ends := ends_appendParts regular h allows shaped
    rw [append]
    obtain ⟨children', added, next, closed⟩ | ⟨children', count, added, kept, beyond⟩ :=
      ends.ok_or_overflow
    · rw [added]
      exact .ok ⟨.struct next, closed⟩
    · rw [added]
      exact .overflow (.struct kept) beyond

theorem extending_union (regular : ∀ f ∈ fields, f.type.Regular)
    (h : ∀ f ∈ fields, Extending f.type) : Extending (.union fields) := by
  intro b d shaped admits
  obtain ⟨k, content, rfl, allows⟩ := admits.eq_variant
  have lt : k < fields.length := by
    obtain ⟨f, hf, -⟩ := (Field.allowsAt_iff fields k content).mp allows
    exact (List.getElem?_eq_some_iff.mp hf).1
  cases shaped with
  | @union _ _ _ slots variants known shaped =>
    have ends := ends_workAt regular h allows shaped
    have accepts : slots.accepts ((k + 1 : Nat) : Int) = true := by
      rw [UnionSlots.accepts, Bool.and_eq_true, decide_eq_true_iff, decide_eq_true_iff,
        Int.toNat_natCast]
      omega
    have known' : fields.length < (slots.record (k + 1)).counts.size := by
      rwa [UnionSlots.size_counts_record]
    rw [append, if_pos accepts, Int.toNat_natCast]
    exact ends.mapState
      (fun later good => ⟨.union known' good.1, good.2⟩)
      fun left kept => .union known' kept

/-- **Data of a type can be added to every builder that is laid out for it**, unless a list comes
to more items than its offsets count; the layout stays. -/
theorem extending_of_regular (regular : type.Regular) : Extending type := by
  induction regular with
  | leaf p => exact extending_leaf p
  | fixedSizeList p pos le => exact extending_fixedSizeList p _
  | list regular ih => exact extending_list regular ih
  | struct ne each ih => exact extending_struct each ih
  | union required each ih => exact extending_union each ih

/-! ## Lengths -/

theorem length_appendNulls (n : Nat) (b : Builder) : (b.appendNulls n).length = b.length + n := by
  cases b with
  | null count => rfl
  | denseUnion ids fields slots variants => exact slots.length_pushNulls n
  | _ => simp [appendNulls, length]

theorem length_closeEntry {b later : Builder} (ok : b.closeEntry = .ok () later) :
    later.length = b.length + 1 := by
  cases b with
  | list item offsets mask items =>
    rw [closeEntry] at ok
    split at ok
    · cases ok
      exact Array.size_push true
    · cases ok
  | _ => cases ok

/-- Whatever is added, it is one slot. -/
theorem length_append {d : Datum} {b later : Builder} (ok : append d b = .ok () later) :
    later.length = b.length + 1 := by
  cases d with
  | null =>
    cases ok
    exact length_appendNulls 1 b
  | scalar p value =>
    cases b with
    | leaf q blank slots =>
      rw [append] at ok
      split at ok
      · cases ok
        exact Array.size_push _
      · cases ok
    | _ => cases ok
  | items data =>
    cases b with
    | fixedSizeList item size mask items =>
      rw [append] at ok
      split at ok
      · split at ok
        · cases ok
          exact Array.size_push true
        · cases ok
      · cases ok
    | list item offsets mask items =>
      rw [append] at ok
      split at ok
      · next items' _ =>
        -- the items of the entry do not count
        exact length_closeEntry (b := list item offsets mask items') ok
      · cases ok
    | _ => cases ok
  | record parts =>
    cases b with
    | struct fields mask children =>
      rw [append] at ok
      split at ok
      · cases ok
        exact Array.size_push true
      · cases ok
    | _ => cases ok
  | variant id content =>
    cases b with
    | denseUnion ids fields slots variants =>
      rw [append] at ok
      split at ok
      · cases place : id.toNat with
        | zero => rw [place] at ok; cases ok
        | succ k =>
          rw [place] at ok
          have placed : (workAt (append content) k variants).mapState
              (denseUnion ids fields (slots.record (k + 1))) = .ok () later := ok
          cases worked : workAt (append content) k variants with
          | ok u variants' =>
            rw [worked] at placed
            cases placed
            exact UnionSlots.length_record slots (k + 1)
          | error e variants' => rw [worked] at placed; cases placed
      · cases ok
    | _ => cases ok

/-! ## Runs -/

variable {steps : List (Option Entry)} {b : Builder}

/-- A step keeps the layout, and if it succeeds it leaves no list too long. -/
theorem step_spec (regular : type.Regular) (fits : Fitting type steps) (shaped : Shaped type b)
    {s : Option Entry} (mem : s ∈ steps) :
    Shaped type (b.step s).state ∧
      ∀ later, b.step s = .ok () later → b.Closed → later.Closed := by
  cases s with
  | none =>
    refine ⟨shaped_appendNulls regular shaped 1, fun later ok => ?_⟩
    cases ok
    exact closed_appendNulls 1 b
  | some entry =>
    rw [step]
    cases written : entry.datum with
    | error e =>
      rw [add_of_error written]
      refine ⟨shaped, fun later ok => ?_⟩
      cases ok
    | ok d =>
      have ends := extending_of_regular regular b d shaped (fits entry mem d written)
      rw [add_of_ok written]
      obtain ⟨next, added, ext⟩ | ⟨left, count, added, kept, -⟩ := ends.ok_or_overflow
      · rw [added]
        refine ⟨ext.shaped, fun later ok => ?_⟩
        cases ok
        exact ext.closed
      · rw [added]
        refine ⟨kept, fun later ok => ?_⟩
        cases ok

/-- A run keeps the layout, also where its steps fail. -/
theorem shaped_run (regular : type.Regular) (fits : Fitting type steps) (shaped : Shaped type b) :
    Shaped type (b.run steps) := by
  induction steps generalizing b with
  | nil => exact shaped
  | cons s steps ih =>
    exact ih (fun entry mem => fits entry (List.mem_cons_of_mem s mem))
      (step_spec regular fits shaped List.mem_cons_self).1

/-- Entries that are all added leave no list too long. -/
theorem closed_addAll (regular : type.Regular) (fits : Fitting type steps) (shaped : Shaped type b)
    (closed : b.Closed) {later : Builder} (ok : addAll steps b = .ok () later) : later.Closed := by
  induction steps generalizing b with
  | nil =>
    cases ok
    exact closed
  | cons s steps ih =>
    obtain ⟨shaped', closes⟩ := step_spec regular fits shaped (s := s) List.mem_cons_self
    rw [addAll] at ok
    cases added : b.step s with
    | error e left => rw [added] at ok; cases ok
    | ok u next =>
      rw [added] at ok shaped'
      exact ih (fun entry mem => fits entry (List.mem_cons_of_mem s mem)) shaped'
        (closes next added closed) ok

/-- Entries that are all added are one slot each. -/
theorem length_addAll {later : Builder} (ok : addAll steps b = .ok () later) :
    later.length = b.length + steps.length := by
  induction steps generalizing b with
  | nil =>
    cases ok
    rfl
  | cons s steps ih =>
    rw [addAll] at ok
    cases added : b.step s with
    | error e left => rw [added] at ok; cases ok
    | ok u next =>
      rw [added] at ok
      have one : next.length = b.length + 1 := by
        cases s with
        | none =>
          cases added
          exact length_appendNulls 1 b
        | some entry =>
          rw [step, add] at added
          split at added
          · exact length_append added
          · cases added
      rw [ih ok, one, List.length_cons]
      omega

/-- Steps after steps are the steps of both. -/
theorem addAll_append {more : List (Option Entry)} {next : Builder}
    (ok : addAll steps b = .ok () next) : addAll (steps ++ more) b = addAll more next := by
  induction steps generalizing b with
  | nil =>
    cases ok
    rfl
  | cons s steps ih =>
    rw [addAll] at ok
    rw [List.cons_append, addAll]
    cases added : b.step s with
    | error e left => rw [added] at ok; cases ok
    | ok u after =>
      rw [added] at ok
      exact ih ok

/-! ## Finishing -/

/-- Entries that are all added make a column, as long as there are not too many of them. -/
theorem finish_of_addAll (regular : type.Regular) (fits : Fitting type steps) {later : Builder}
    (ok : addAll steps (holding false type []) = .ok () later)
    (few : steps.length ≤ Size.largestOffset) :
    later.finish = .ok (type.columnOf false (slotsOf steps)) := by
  have held := addAll_holding regular fits ok
  have closed := closed_addAll regular fits (shaped_holding regular false [])
    (closed_holding_nil regular false) ok
  rw [List.nil_append] at held
  rw [held] at closed ⊢
  refine finish_holding regular (stores_slotsOf fits) (bounded_of_closed regular ?_ closed)
  rwa [length_slotsOf_of_addAll ok]

end Builder

theorem Loggable.steps_map_some {α : Type} {kind : NameKind} [Loggable α kind] (values : List α) :
    steps (values.map some) = (values.map entry).map some := by
  rw [steps, List.map_map, List.map_map]
  rfl

namespace Readable

variable {α : Type} {kind : NameKind} [Loggable α kind] [Readable α] {values : List α}

/-- Values that are all added make a column, as long as there are not too many of them. -/
theorem encode_of_addAll {later : Builder} (few : values.length ≤ Size.largestOffset)
    (ok : Builder.addAll ((values.map Loggable.entry).map some) (Loggable.schema α).start =
      .ok () later) :
    (Loggable.schema α).encode (values.map Loggable.entry) = .ok
      ((Loggable.schema α).type.columnOf false
        (Builder.slotsOf (Loggable.steps (values.map some)))) := by
  have start : (Loggable.schema α).start = .holding false (Loggable.schema α).type [] :=
    newBuilder_eq_holding 0
  have ok' := ok
  rw [← Loggable.steps_map_some, start] at ok'
  have finished := Builder.finish_of_addAll regular (fitting_steps _) ok' (by
    rwa [Loggable.steps, List.length_map, List.length_map])
  rw [Schema.encode, ok]
  simp only [finished, Except.bind, Schema.checked]
  exact if_pos (DataType.type_columnOf _ _ _)

end Readable
end ColumnLog
