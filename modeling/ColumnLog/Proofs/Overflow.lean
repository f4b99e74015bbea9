import ColumnLog.Proofs.Layout

/-!
# Lists that overflow

A list writes the items of an entry before it looks whether its offsets can still count them.  If
they cannot, the entry is refused, but the items stay: they belong to no entry, and no later entry
can be closed.  Null slots can still be added, and the list can still be finished, with the items
behind its last offset.

* `Builder.listing` is a list with any items; `Builder.append_listing` is what an append does to it.
* `Builder.Brings` lists the two ways in which an append ends that brings a list to a number of
  items.
* `Builder.Stranded` says that a failed append left items behind, and nothing else that shows;
  `Builder.stranded_listing` proves it of a list, `Builder.Stranded.struct` of a struct that begins
  with one.
* `Builder.Listed` and `Builder.Wrapped` are the states that such builders reach, whatever fails on
  the way (`Builder.run_preserves`).
-/

set_option autoImplicit false

namespace ColumnLog

/-- Whether two columns have the same entries, and the first list in the second one has more items,
behind all entries. -/
inductive Column.Trails (type : DataType) (more : List Datum) : Column → Column → Prop where
  | list {offsets : Array Nat} {mask : Mask} {rows : List Datum}
    (behind : offsets.back?.getD 0 ≤ rows.length) :
    Trails type more (.list (.item type) offsets mask (type.columnOf true rows))
      (.list (.item type) offsets mask (type.columnOf true (rows ++ more)))
  | struct {fields : List Field} {mask : Mask} {c c' : Column} {cs : List Column}
    (first : Trails type more c c') :
    Trails type more (.struct fields mask (c :: cs)) (.struct fields mask (c' :: cs))

namespace Column.Trails

variable {type : DataType} {more : List Datum} {c c' : Column}

theorem type_eq (h : Trails type more c c') : c'.type = c.type := by
  cases h <;> rfl

theorem length_eq (h : Trails type more c c') : c'.length = c.length := by
  cases h <;> rfl

theorem nullsMasked_eq (h : Trails type more c c') (masked : Nat → Bool) :
    c'.nullsMasked masked = c.nullsMasked masked := by
  cases h <;> rfl

end Column.Trails

namespace Builder

variable {type : DataType} {f : Field} {offsets : Array Nat} {mask : Array Bool}
  {rows data : List Datum} {b left : Builder}

/-! ## Outcomes -/

/-- The number of items in the list at the end of a path, zero if there is no list. -/
def itemCount : List Nat → Builder → Nat
  | [], list _ _ _ items => items.length
  | k :: path, struct _ _ children => (children[k]?.map (itemCount path)).getD 0
  | k :: path, denseUnion _ _ _ variants => (variants[k]?.map (itemCount path)).getD 0
  | _, _ => 0

/-- How an append ends that brings a list to `count` items: it succeeds if offsets count so many;
otherwise it reports them, and something is true of the builder that it leaves. -/
inductive Brings (count : Nat) (after : Builder → Prop) : Appended → Prop where
  | added {later : Builder} (le : count ≤ Size.largestOffset) : Brings count after (.ok () later)
  | overflowed {left : Builder} (beyond : Size.largestOffset < count) (left_so : after left) :
    Brings count after (.error (overflow count) left)

theorem Brings.mono {count : Nat} {after after' : Builder → Prop} {o : Appended}
    (h : Brings count after o) (weaker : ∀ left, after left → after' left) :
    Brings count after' o := by
  cases h with
  | added le => exact .added le
  | overflowed beyond left_so => exact .overflowed beyond (weaker _ left_so)

theorem Brings.overflow_of_lt {count : Nat} {after : Builder → Prop} {o : Appended}
    (h : Brings count after o) (beyond : Size.largestOffset < count) :
    ∃ left, o = .error (overflow count) left ∧ after left := by
  cases h with
  | added le => exact absurd beyond (Nat.not_lt.mpr le)
  | overflowed _ left_so => exact ⟨_, rfl, left_so⟩

/-- Whether a builder is left with the entries of another one, and with more items behind them:
after any number of null slots, it finishes if the other one does. -/
def Stranded (type : DataType) (more : List Datum) (b left : Builder) : Prop :=
  ∀ n c, (b.appendNulls n).finish = .ok c →
    ∃ c', (left.appendNulls n).finish = .ok c' ∧ c.Trails type more c'

/-- What data of a type and null slots preserve is true after every run. -/
theorem run_preserves {holds : Builder → Prop} (nulls : ∀ b, holds b → holds b.appendNull)
    (added : ∀ b d, holds b → type.Admits d → holds (append d b).state)
    {steps : List (Option Entry)} (fits : Fitting type steps) (start : holds b) :
    holds (b.run steps) := by
  induction steps generalizing b with
  | nil => exact start
  | cons s steps ih =>
    refine ih (fun entry mem => fits entry (List.mem_cons_of_mem s mem)) ?_
    cases s with
    | none => exact nulls b start
    | some entry =>
      show holds (b.add entry).state
      cases written : entry.datum with
      | ok d =>
        rw [add_of_ok written]
        exact added b d start (fits entry List.mem_cons_self d written)
      | error e =>
        rw [add_of_error written]
        exact start

/-! ## Items without a limit -/

/-- Whether builders of a type take any number of slots. -/
structure Unlimited (type : DataType) : Prop where
  regular : type.Regular
  bounded : ∀ b, Shaped type b → b.Bounded

theorem unlimited_leaf (p : Primitive) : Unlimited (.leaf p) where
  regular := .leaf p
  bounded b shaped := by
    cases shaped
    trivial

theorem unlimited_struct {fields : List Field} (ne : fields ≠ [])
    (each : ∀ f ∈ fields, Unlimited f.type) : Unlimited (.struct fields) where
  regular := .struct ne fun f mem => (each f mem).regular
  bounded b shaped := by
    cases shaped with
    | @struct _ mask children shaped =>
      show BoundedEach children
      clear ne
      induction shaped with
      | nil => trivial
      | cons head _ ih =>
        exact ⟨(each _ List.mem_cons_self).bounded _ head,
          ih fun g mem => each g (List.mem_cons_of_mem _ mem)⟩

/-- Items without a limit are all written. -/
theorem Unlimited.appendItems_holding (u : Unlimited type) (rows : List Datum)
    (admits : ∀ d ∈ data, type.Admits d) :
    appendItems data (holding true type rows) = .ok () (holding true type (rows ++ data)) := by
  have allows : ∀ d ∈ data, (Field.item type).Allows d := fun d mem => .inr (admits d mem)
  have ends : Ends (Extension type _) (Shaped type) (appendItems data (holding true type rows)) :=
    ends_appendItems (f := .item type) u.regular (extending_of_regular u.regular) allows
      (shaped_holding u.regular true rows)
  have reaches : Reaches Bounded (appendItems data (holding true type rows))
      (holding true type (rows ++ data)) :=
    reaches_appendItems (f := .item type) u.regular (appends_of_regular u.regular) data rows allows
  obtain ok | ⟨e, left, error, unbounded⟩ := reaches
  · exact ok
  · rw [error] at ends
    cases ends with
    | overflow kept _ => exact absurd (u.bounded left kept) unbounded

/-! ## One list -/

/-- A list in any state: its entry is closed behind the items that are written. -/
theorem append_of_appendItems {items items' : Builder}
    (written : appendItems data items = .ok () items') (item : Field) (offsets : Array Nat)
    (mask : Array Bool) :
    append (.items data) (list item offsets mask items) =
      if items'.length ≤ Size.largestOffset then
        .ok () (list item (offsets.push items'.length) (mask.push true) items')
      else .error (overflow items'.length) (list item offsets mask items') := by
  rw [append, written]
  rfl

/-- A list with any items, also such that belong to no entry. -/
def listing (type : DataType) (offsets : Array Nat) (mask : Array Bool) (rows : List Datum) :
    Builder :=
  list (.item type) offsets mask (holding true type rows)

@[simp]
theorem itemCount_listing : (listing type offsets mask rows).itemCount [] = rows.length :=
  length_holding true type rows

theorem append_listing (u : Unlimited type) (admits : ∀ d ∈ data, type.Admits d) :
    append (.items data) (listing type offsets mask rows) =
      if rows.length + data.length ≤ Size.largestOffset then
        .ok () (listing type (offsets.push (rows.length + data.length)) (mask.push true)
          (rows ++ data))
      else .error (overflow (rows.length + data.length))
        (listing type offsets mask (rows ++ data)) := by
  have written := u.appendItems_holding rows admits
  have appended := append_of_appendItems written (.item type) offsets mask
  rwa [length_holding, List.length_append] at appended

/-- Whether offsets and mask belong to the same entries, all of them within `count` items. -/
structure Delimits (offsets : Array Nat) (mask : Array Bool) (count : Nat) : Prop where
  size : mask.size + 1 = offsets.size
  last : offsets.back?.getD 0 ≤ count

theorem Delimits.append {count more : Nat} (h : Delimits offsets mask count) :
    Delimits offsets mask (count + more) :=
  ⟨h.size, Nat.le_trans h.last (Nat.le_add_right _ _)⟩

theorem Delimits.push {count : Nat} (h : Delimits offsets mask count) :
    Delimits (offsets.push count) (mask.push true) count := by
  refine ⟨?_, ?_⟩
  · rw [Array.size_push, Array.size_push, h.size]
  · rw [Array.back?_push]
    exact Nat.le_refl _

theorem Delimits.nulls {count : Nat} (h : Delimits offsets mask count) (n : Nat) :
    Delimits (offsets ++ Array.replicate n (offsets.back?.getD 0))
      (mask ++ Array.replicate n false) count := by
  refine ⟨?_, ?_⟩
  · rw [Array.size_append, Array.size_append, Array.size_replicate, Array.size_replicate, ← h.size]
    omega
  · have last := h.last
    cases n with
    | zero => simpa using last
    | succ n => simpa [Array.back?_append, Array.back?_replicate] using last

/-- Whatever items there are, a list finishes. -/
theorem finish_listing (u : Unlimited type) (delimits : Delimits offsets mask rows.length)
    (admits : ∀ d ∈ rows, type.Admits d) :
    (listing type offsets mask rows).finish =
      .ok (.list (.item type) offsets (.ofSlots mask) (type.columnOf true rows)) := by
  have items : (holding true type rows).finish = .ok (type.columnOf true rows) :=
    finish_holding u.regular (fun d mem => .inr (admits d mem))
      (u.bounded _ (shaped_holding u.regular true rows))
  have present : (type.columnOf true rows).mayHoldNull = false :=
    DataType.mayHoldNull_columnOf u.regular true admits
  have within : ¬ (type.columnOf true rows).length < offsets.back?.getD 0 := by
    rw [DataType.length_columnOf]
    exact Nat.not_lt.mpr delimits.last
  have put : Column.list? (.item type) offsets mask (type.columnOf true rows) =
      .ok (.list (.item type) offsets (.ofSlots mask) (type.columnOf true rows)) := by
    rw [Column.list?, if_neg within, if_neg (not_not.mpr delimits.size), present]
    simp [Field.item, Field.required]
  rw [listing, finish, items]
  show settle (Column.list? (.item type) offsets mask (type.columnOf true rows)) = _
  rw [put, settle]

/-- **Items that were refused stay behind the entries.** -/
theorem stranded_listing (u : Unlimited type) (delimits : Delimits offsets mask rows.length)
    (held : ∀ d ∈ rows, type.Admits d) (admits : ∀ d ∈ data, type.Admits d) :
    Stranded type data (listing type offsets mask rows)
      (listing type offsets mask (rows ++ data)) := by
  intro n c ok
  have all : ∀ d ∈ rows ++ data, type.Admits d := by
    intro d mem
    exact (List.mem_append.mp mem).elim (held d) (admits d)
  have before := finish_listing u (delimits.nulls n) held
  have after := finish_listing u (List.length_append ▸ (delimits.nulls n).append) all
  have same : c = _ := Except.ok.inj (ok.symm.trans before)
  subst same
  exact ⟨_, after, .list (delimits.nulls n).last⟩

/-- A list as runs leave it. -/
inductive Listed (type : DataType) : Builder → Prop where
  | mk {offsets : Array Nat} {mask : Array Bool} {rows : List Datum}
    (delimits : Delimits offsets mask rows.length) (admits : ∀ d ∈ rows, type.Admits d) :
    Listed type (listing type offsets mask rows)

/-- How an append of items to such a list ends. -/
inductive Closing (type : DataType) (data : List Datum) (b : Builder) : Appended → Prop where
  | closed {later : Builder} (listed : Listed type later) (length : later.length = b.length + 1)
    (le : b.itemCount [] + data.length ≤ Size.largestOffset) : Closing type data b (.ok () later)
  | refused {left : Builder} (listed : Listed type left) (length : left.length = b.length)
    (count : left.itemCount [] = b.itemCount [] + data.length)
    (beyond : Size.largestOffset < b.itemCount [] + data.length)
    (stranded : Stranded type data b left) :
    Closing type data b (.error (overflow (b.itemCount [] + data.length)) left)

theorem Closing.brings {o : Appended} (h : Closing type data b o) :
    Brings (b.itemCount [] + data.length) (Stranded type data b) o := by
  cases h with
  | closed _ _ le => exact .added le
  | refused _ _ _ beyond stranded => exact .overflowed beyond stranded

namespace Listed

theorem empty (type : DataType) : Listed type (listing type #[0] #[] []) :=
  .mk ⟨rfl, Nat.le_refl 0⟩ nofun

theorem appendNulls (h : Listed type b) (n : Nat) : Listed type (b.appendNulls n) := by
  cases h with
  | mk delimits admits => exact .mk (delimits.nulls n) admits

/-- **What an append does to a list**: the entry is closed, or it is refused and its items stay. -/
theorem append (u : Unlimited type) (h : Listed type b) (admits : ∀ d ∈ data, type.Admits d) :
    Closing type data b (Builder.append (.items data) b) := by
  cases h with
  | @mk offsets mask rows delimits held =>
    have all : ∀ d ∈ rows ++ data, type.Admits d := by
      intro d mem
      exact (List.mem_append.mp mem).elim (held d) (admits d)
    have more : Delimits offsets mask (rows ++ data).length :=
      List.length_append ▸ delimits.append
    have total : (rows ++ data).length =
        (listing type offsets mask rows).itemCount [] + data.length := by
      rw [itemCount_listing, List.length_append]
    rw [append_listing u admits, ← List.length_append]
    split
    · next le => exact .closed (.mk more.push all) (Array.size_push true) (total ▸ le)
    · next beyond =>
      rw [total] at beyond ⊢
      exact .refused (.mk more all) rfl (itemCount_listing.trans total) (Nat.not_le.mp beyond)
        (stranded_listing u delimits held admits)

/-- Runs keep a list a list. -/
theorem run (u : Unlimited type) {steps : List (Option Entry)}
    (fits : Fitting (.list (.item type)) steps) :
    Listed type ((listing type #[0] #[] []).run steps) := by
  refine run_preserves (fun b h => h.appendNulls 1) (fun b d h admits => ?_) fits (empty type)
  obtain ⟨data, rfl, allows⟩ := admits.eq_items
  have closing := h.append u fun x mem => (allows x mem).admits rfl
  generalize Builder.append (.items data) b = o at closing ⊢
  cases closing with
  | closed listed _ _ => exact listed
  | refused listed _ _ _ _ => exact listed

theorem finish (u : Unlimited type) (h : Listed type b) :
    ∃ c, b.finish = .ok c ∧ c.length = b.length ∧ c.type = .list (.item type) := by
  cases h with
  | mk delimits admits =>
    exact ⟨_, finish_listing u delimits admits, Mask.size_ofSlots _, rfl⟩

end Listed

/-! ## A struct that begins with a list -/

/-- When a struct can be put together, and to what. -/
theorem struct?_eq_ok_iff {fields : List Field} {c s : Column} {cs : List Column} :
    Column.struct? fields mask (c :: cs) = .ok s ↔
      fields.length = cs.length + 1 ∧ (Mask.ofRecorded mask c.length).size = c.length ∧
      (List.zipWith (Column.fitsField (.ofRecorded mask c.length)) fields (c :: cs)).all id = true ∧
      s = .struct fields (.ofRecorded mask c.length) (c :: cs) := by
  have put : Column.struct? fields mask (c :: cs) =
      if fields.length ≠ cs.length + 1 then Column.unfit "struct with another number of children"
      else if (Mask.ofRecorded mask c.length).size ≠ c.length then
        Column.unfit "struct with a mask of another length"
      else if !(List.zipWith (Column.fitsField (.ofRecorded mask c.length)) fields
          (c :: cs)).all id then
        Column.unfit "struct with a child that does not fit its field"
      else .ok (.struct fields (.ofRecorded mask c.length) (c :: cs)) := rfl
  rw [put]
  constructor
  · intro ok
    split at ok
    · cases ok
    · next count =>
      split at ok
      · cases ok
      · next size =>
        split at ok
        · cases ok
        · next fits =>
          rw [Bool.not_eq_true', Bool.not_eq_false] at fits
          exact ⟨not_not.mp count, not_not.mp size, fits, (Except.ok.inj ok).symm⟩
  · rintro ⟨count, size, fits, rfl⟩
    rw [if_neg (not_not.mpr count), if_neg (not_not.mpr size), if_neg (by rw [fits]; decide)]

/-- A first child with the same entries fits as well. -/
theorem struct?_of_trails {more : List Datum} {fields : List Field} {c c' s : Column}
    {cs : List Column} (first : c.Trails type more c')
    (ok : Column.struct? fields mask (c :: cs) = .ok s) :
    ∃ s', Column.struct? fields mask (c' :: cs) = .ok s' ∧ s.Trails type more s' := by
  obtain ⟨count, size, fits, rfl⟩ := struct?_eq_ok_iff.mp ok
  have same (m : Mask) (f : Field) : Column.fitsField m f c' = Column.fitsField m f c := by
    rw [Column.fitsField, Column.fitsField, first.type_eq, first.length_eq, first.nullsMasked_eq]
  refine ⟨.struct fields (.ofRecorded mask c.length) (c' :: cs), ?_, .struct first⟩
  rw [struct?_eq_ok_iff, first.length_eq]
  refine ⟨count, size, ?_, rfl⟩
  cases fields with
  | nil => rfl
  | cons f fs =>
    rw [List.zipWith_cons_cons, same]
    exact fits

/-- **A struct whose first child has items left behind** is left like that as a whole. -/
theorem Stranded.struct {fields : List Field} {rest : List Builder}
    (first : Stranded type data b left) :
    Stranded type data (.struct fields mask (b :: rest)) (.struct fields mask (left :: rest)) := by
  intro n c ok
  simp only [appendNulls, appendNullsEach, finish, finishEach] at ok ⊢
  cases head : (b.appendNulls n).finish with
  | error e => rw [head] at ok; cases ok
  | ok c₁ =>
    obtain ⟨c₁', head', trails⟩ := first n c₁ head
    rw [head] at ok
    rw [head']
    cases tail : finishEach (appendNullsEach n rest) with
    | error e => rw [tail] at ok; cases ok
    | ok cs =>
      rw [tail] at ok
      change settle (Column.struct? fields (mask ++ Array.replicate n false) (c₁ :: cs)) =
        .ok c at ok
      show ∃ c', settle (Column.struct? fields (mask ++ Array.replicate n false) (c₁' :: cs)) =
        .ok c' ∧ _
      cases put : Column.struct? fields (mask ++ Array.replicate n false) (c₁ :: cs) with
      | error fault => rw [put] at ok; cases fault <;> cases ok
      | ok s =>
        rw [put] at ok
        cases ok
        obtain ⟨s', put', trails'⟩ := struct?_of_trails trails put
        exact ⟨s', by rw [put', settle], trails'⟩

theorem append_record_singleton (d : Datum) (fields : List Field) (mask : Array Bool)
    (b : Builder) :
    append (.record [d]) (.struct fields mask [b]) =
      match append d b with
      | .ok () b => .ok () (.struct fields (mask.push true) [b])
      | .error e b => .error e (.struct fields mask [b]) := by
  rw [append, appendParts]
  cases append d b with
  | ok u later => rfl
  | error e later => rfl

/-- A struct of one list, which may be missing, as runs leave it. -/
inductive Wrapped (name : String) (type : DataType) : Builder → Prop where
  | mk {mask : Array Bool} {child : Builder} (listed : Listed type child)
    (length : child.length = mask.size) :
    Wrapped name type (.struct [.optional name (.list (.item type))] mask [child])

namespace Wrapped

variable {name : String} {d : Datum}

theorem appendNulls (h : Wrapped name type b) (n : Nat) : Wrapped name type (b.appendNulls n) := by
  cases h with
  | mk listed length =>
    refine .mk (listed.appendNulls n) ?_
    rw [length_appendNulls, length, Array.size_append, Array.size_replicate]

theorem append_missing (h : Wrapped name type b) :
    ∃ later, append (.record [.null]) b = .ok () later ∧ Wrapped name type later := by
  cases h with
  | @mk mask child listed length =>
    refine ⟨_, rfl, .mk (listed.appendNulls 1) ?_⟩
    rw [appendNull, length_appendNulls, length, Array.size_push]

theorem append_items (u : Unlimited type) (h : Wrapped name type b)
    (admits : ∀ d ∈ data, type.Admits d) :
    Wrapped name type (append (.record [.items data]) b).state ∧
      Brings (b.itemCount [0] + data.length) (Stranded type data b)
        (append (.record [.items data]) b) := by
  cases h with
  | @mk mask child listed length =>
    have inside := listed.append u admits
    rw [append_record_singleton]
    show _ ∧ Brings (child.itemCount [] + data.length) _ _
    generalize append (.items data) child = o at inside ⊢
    cases inside with
    | closed listed' length' le =>
      exact ⟨.mk listed' (by rw [length', length, Array.size_push]), .added le⟩
    | refused listed' length' _ beyond stranded =>
      exact ⟨.mk listed' (length'.trans length), .overflowed beyond stranded.struct⟩

/-- Runs keep such a struct what it is. -/
theorem run (u : Unlimited type) {steps : List (Option Entry)}
    (fits : Fitting (.struct [.optional name (.list (.item type))]) steps) :
    Wrapped name type
      (run (.struct [.optional name (.list (.item type))] #[] [listing type #[0] #[] []])
        steps) := by
  refine run_preserves (fun b h => h.appendNulls 1) (fun b d h admits => ?_) fits
    (.mk (.empty type) rfl)
  obtain ⟨parts, rfl, each⟩ := admits.eq_record
  obtain ⟨x, xs, rfl, allows, rest⟩ := each.eq_cons
  rw [rest.eq_nil]
  obtain rfl | inside := allows.null_or_admits
  · obtain ⟨later, ok, wrapped⟩ := h.append_missing
    rw [ok]
    exact wrapped
  · obtain ⟨data, rfl, items⟩ := DataType.Admits.eq_items inside
    exact (h.append_items u fun x mem => (items x mem).admits rfl).1

/-- Whatever was refused, such a struct finishes. -/
theorem finish (u : Unlimited type) (h : Wrapped name type b) : ∃ c, b.finish = .ok c := by
  cases h with
  | @mk mask child listed length =>
    obtain ⟨c, items, length', type_eq⟩ := listed.finish u
    have size : (Mask.ofRecorded mask c.length).size = c.length := by
      rw [Mask.ofRecorded]
      split
      · rw [length', length]
        rfl
      · rfl
    have put : Column.struct? [.optional name (.list (.item type))] mask [c] =
        .ok (.struct [.optional name (.list (.item type))] (.ofRecorded mask c.length) [c]) := by
      refine struct?_eq_ok_iff.mpr ⟨rfl, size, ?_, rfl⟩
      simp [Column.fitsField, Field.optional, type_eq, size]
    refine ⟨.struct [.optional name (.list (.item type))] (.ofRecorded mask c.length) [c], ?_⟩
    rw [Builder.finish, finishEach, items]
    show settle (Column.struct? [.optional name (.list (.item type))] mask [c]) = _
    rw [put, settle]

end Wrapped

end Builder
end ColumnLog
