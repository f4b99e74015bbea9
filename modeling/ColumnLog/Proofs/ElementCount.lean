import ColumnLog.Proofs.Library
import Mathlib.Algebra.BigOperators.Ring.List

/-!
# How many elements a shape asks for

The sizes of a shape are multiplied from the front, and the first product that leaves the word is an
error.  For sizes without a zero the last product is the largest, so nothing but the product itself
decides.  A zero ends the growth: in front of large sizes it makes the shape one of no elements,
behind them it comes too late.

* `TensorData.sizes` are the sizes of dimensions, as numbers of any length.
* `TensorData.frontProduct` is the largest product that multiplying from the front comes to, and
  `TensorData.nonzeroProduct` the largest one over all orders of the sizes.
* `TensorData.product?_eq_some_iff` says what the multiplication comes to.
* `TensorData.elementCount_exact` is the result: what is answered, when that is the true product,
  and when the order of the dimensions does not matter.
-/

set_option autoImplicit false

namespace ColumnLog
namespace TensorData

/-! ## Products of sizes -/

/-- The sizes of dimensions. -/
def sizes (dims : List TensorDimension) : List Nat := dims.map fun d => d.size.toNat

/-- The product of the sizes in front of the first zero. -/
def frontProduct : List Nat → Nat
  | [] => 1
  | n :: ns => if n = 0 then 1 else n * frontProduct ns

/-- The product of the sizes other than zero. -/
def nonzeroProduct (ns : List Nat) : Nat := (ns.filter (· ≠ 0)).prod

variable {ns ms : List Nat} {n total : Nat} {dims : List TensorDimension}

theorem frontProduct_zero_cons (ns : List Nat) : frontProduct (0 :: ns) = 1 := by
  rw [frontProduct, if_pos rfl]

theorem frontProduct_cons (ne : n ≠ 0) (ns : List Nat) :
    frontProduct (n :: ns) = n * frontProduct ns := by
  rw [frontProduct, if_neg ne]

theorem nonzeroProduct_zero_cons (ns : List Nat) :
    nonzeroProduct (0 :: ns) = nonzeroProduct ns := by
  rw [nonzeroProduct, List.filter_cons_of_neg (by simp), nonzeroProduct]

theorem nonzeroProduct_cons (ne : n ≠ 0) (ns : List Nat) :
    nonzeroProduct (n :: ns) = n * nonzeroProduct ns := by
  rw [nonzeroProduct, List.filter_cons_of_pos (by simpa using ne), List.prod_cons, nonzeroProduct]

theorem frontProduct_pos (ns : List Nat) : 0 < frontProduct ns := by
  induction ns with
  | nil => exact Nat.one_pos
  | cons n ns ih =>
    rw [frontProduct]
    split
    · exact Nat.one_pos
    · exact Nat.mul_pos (by omega) ih

theorem nonzeroProduct_perm (same : ns.Perm ms) : nonzeroProduct ns = nonzeroProduct ms :=
  (same.filter _).prod_eq

/-- Multiplying from the front never comes to more than the sizes other than zero do together. -/
theorem frontProduct_le_nonzeroProduct (ns : List Nat) : frontProduct ns ≤ nonzeroProduct ns := by
  induction ns with
  | nil => exact Nat.le_refl 1
  | cons n ns ih =>
    by_cases zero : n = 0
    · rw [zero, frontProduct_zero_cons, nonzeroProduct_zero_cons]
      exact Nat.le_trans (frontProduct_pos ns) ih
    · rw [frontProduct_cons zero, nonzeroProduct_cons zero]
      exact Nat.mul_le_mul_left n ih

/-- In front of sizes other than zero, everything is multiplied. -/
theorem frontProduct_append (nonzero : 0 ∉ ns) (ms : List Nat) :
    frontProduct (ns ++ ms) = ns.prod * frontProduct ms := by
  induction ns with
  | nil => rw [List.nil_append, List.prod_nil, Nat.one_mul]
  | cons n ns ih =>
    rw [List.mem_cons, not_or] at nonzero
    rw [List.cons_append, frontProduct_cons (Ne.symm nonzero.1), ih nonzero.2, List.prod_cons,
      Nat.mul_assoc]

theorem frontProduct_eq_prod (nonzero : 0 ∉ ns) : frontProduct ns = ns.prod := by
  have all := frontProduct_append nonzero []
  rwa [List.append_nil, frontProduct, Nat.mul_one] at all

theorem prod_le_frontProduct (ns : List Nat) : ns.prod ≤ frontProduct ns := by
  by_cases zero : 0 ∈ ns
  · rw [List.prod_eq_zero zero]
    exact Nat.zero_le _
  · rw [frontProduct_eq_prod zero]

/-- **What multiplying from the front comes to**, if it starts within the word. -/
theorem product?_eq_some_iff (bounded : total ≤ Size.largest) :
    product? total dims = some n ↔
      total * frontProduct (sizes dims) ≤ Size.largest ∧ total * (sizes dims).prod = n := by
  induction dims generalizing total with
  | nil => simp [product?, sizes, frontProduct, bounded]
  | cons d dims ih =>
    rw [product?, sizes, List.map_cons, ← sizes, List.prod_cons, ← Nat.mul_assoc]
    by_cases within : total * d.size.toNat ≤ Size.largest
    · rw [Size.mul?, Size.word?, if_pos within]
      simp only [ih within]
      by_cases zero : d.size.toNat = 0
      · -- from here on the product is zero, and stays within the word
        rw [zero, frontProduct_zero_cons, Nat.mul_zero, Nat.zero_mul, Nat.mul_one]
        exact and_congr_left fun _ => ⟨fun _ => bounded, fun _ => Nat.zero_le _⟩
      · rw [frontProduct_cons zero, ← Nat.mul_assoc]
    · rw [Size.mul?, Size.word?, if_neg within]
      have ne : d.size.toNat ≠ 0 := fun zero => within (by rw [zero]; exact Nat.zero_le _)
      have beyond : ¬ total * d.size.toNat * frontProduct (sizes dims) ≤ Size.largest := fun le =>
        within (Nat.le_trans (Nat.le_mul_of_pos_right _ (frontProduct_pos _)) le)
      rw [frontProduct_cons ne, ← Nat.mul_assoc]
      exact iff_of_false (by simp) fun h => beyond h.1

/-! ## The number of elements -/

variable {t : TensorData}

theorem elementCount_of_le (readable : t.shape.isNull = false)
    (le : frontProduct (sizes t.shape.toList) ≤ Size.largest) :
    t.elementCount = .ok (sizes t.shape.toList).prod := by
  have product : product? 1 t.shape.toList = some (sizes t.shape.toList).prod :=
    (product?_eq_some_iff (by decide)).mpr ⟨by rwa [Nat.one_mul], Nat.one_mul _⟩
  exact elementCount_eq_ok_iff.mpr ⟨readable, product⟩

theorem elementCount_of_lt (readable : t.shape.isNull = false)
    (lt : Size.largest < frontProduct (sizes t.shape.toList)) :
    t.elementCount = .error
      (.sizeMismatch Size.largest t.buffer.length "tensor shape product overflows usize") := by
  have product : product? 1 t.shape.toList = none := by
    refine Option.eq_none_iff_forall_ne_some.mpr fun n found => ?_
    obtain ⟨le, -⟩ := (product?_eq_some_iff (by decide)).mp found
    rw [Nat.one_mul] at le
    exact absurd lt (Nat.not_lt.mpr le)
  rw [elementCount, Collection.values?_eq_ok_iff.mpr ⟨readable, rfl⟩]
  simp only [product, bind, Except.bind]
  rfl

theorem elementCount_eq_ok_iff_le (readable : t.shape.isNull = false) :
    t.elementCount = .ok n ↔
      frontProduct (sizes t.shape.toList) ≤ Size.largest ∧ (sizes t.shape.toList).prod = n := by
  by_cases le : frontProduct (sizes t.shape.toList) ≤ Size.largest
  · rw [elementCount_of_le readable le, Except.ok.injEq, and_iff_right le]
  · rw [elementCount_of_lt readable (Nat.not_le.mp le)]
    exact ⟨nofun, fun h => absurd h.1 le⟩

/-- The answer is the true product as far as that fits the word, exactly if no zero comes behind a
product that does not. -/
theorem elementCount_eq_prod_iff (readable : t.shape.isNull = false) :
    (∀ n, t.elementCount = .ok n ↔ (sizes t.shape.toList).prod = n ∧ n ≤ Size.largest) ↔
      0 ∉ sizes t.shape.toList ∨ frontProduct (sizes t.shape.toList) ≤ Size.largest := by
  constructor
  · intro claim
    by_cases zero : 0 ∈ sizes t.shape.toList
    · have none : (sizes t.shape.toList).prod = 0 := List.prod_eq_zero zero
      exact .inr ((elementCount_eq_ok_iff_le readable).mp
        ((claim 0).mpr ⟨none, Nat.zero_le _⟩)).1
    · exact .inl zero
  · intro found n
    rw [elementCount_eq_ok_iff_le readable, and_comm]
    refine and_congr_right fun product => ?_
    rcases found with nonzero | le
    · rw [frontProduct_eq_prod nonzero, product]
    · exact iff_of_true le (product ▸ Nat.le_trans (prod_le_frontProduct _) le)

/-! ## Orders of the dimensions -/

/-- Whether a dimension has no places. -/
def isVacant (d : TensorDimension) : Bool := d.size.toNat == 0

/-- The dimensions with the vacant ones in front. -/
def vacantFirst (dims : List TensorDimension) : List TensorDimension :=
  dims.filter isVacant ++ dims.filter (!isVacant ·)

/-- The dimensions with the vacant ones behind. -/
def vacantLast (dims : List TensorDimension) : List TensorDimension :=
  dims.filter (!isVacant ·) ++ dims.filter isVacant

theorem vacantFirst_perm (dims : List TensorDimension) : (vacantFirst dims).Perm dims :=
  List.filter_append_perm isVacant dims

theorem vacantLast_perm (dims : List TensorDimension) : (vacantLast dims).Perm dims :=
  List.perm_append_comm.trans (List.filter_append_perm isVacant dims)

theorem sizes_filter_isVacant (dims : List TensorDimension) :
    ∀ n ∈ sizes (dims.filter isVacant), n = 0 := by
  intro n mem
  obtain ⟨d, vacant, rfl⟩ := List.mem_map.mp mem
  exact eq_of_beq (List.mem_filter.mp vacant).2

theorem zero_notMem_sizes : 0 ∉ sizes (dims.filter (!isVacant ·)) := by
  intro mem
  obtain ⟨d, occupied, zero⟩ := List.mem_map.mp mem
  have vacant : isVacant d = true := beq_of_eq zero
  simpa [vacant] using (List.mem_filter.mp occupied).2

theorem sizes_append (dims more : List TensorDimension) :
    sizes (dims ++ more) = sizes dims ++ sizes more := List.map_append

theorem sizes_perm {dims more : List TensorDimension} (same : dims.Perm more) :
    (sizes dims).Perm (sizes more) := same.map _

theorem frontProduct_of_forall_zero (zero : ∀ n ∈ ns, n = 0) : frontProduct ns = 1 := by
  cases ns with
  | nil => rfl
  | cons n ns => rw [zero n List.mem_cons_self, frontProduct_zero_cons]

theorem frontProduct_vacantFirst (zero : 0 ∈ sizes dims) :
    frontProduct (sizes (vacantFirst dims)) = 1 := by
  obtain ⟨d, mem, size⟩ := List.mem_map.mp zero
  have vacant : d ∈ dims.filter isVacant := List.mem_filter.mpr ⟨mem, beq_of_eq size⟩
  cases first : dims.filter isVacant with
  | nil => rw [first] at vacant; cases vacant
  | cons e rest =>
    have none : e.size.toNat = 0 := by
      have all := sizes_filter_isVacant dims
      rw [first] at all
      exact all _ List.mem_cons_self
    rw [vacantFirst, first, sizes_append, sizes, List.map_cons, none, List.cons_append,
      frontProduct_zero_cons]

theorem frontProduct_vacantLast (dims : List TensorDimension) :
    frontProduct (sizes (vacantLast dims)) = nonzeroProduct (sizes dims) := by
  have occupied : sizes (dims.filter (!isVacant ·)) = (sizes dims).filter (· ≠ 0) := by
    rw [sizes, sizes, List.filter_map]
    refine congrArg _ (List.filter_congr fun d _ => ?_)
    rw [isVacant, Function.comp_apply, decide_not]
    rfl
  rw [vacantLast, sizes_append, frontProduct_append zero_notMem_sizes,
    frontProduct_of_forall_zero (sizes_filter_isVacant dims), Nat.mul_one, occupied, nonzeroProduct]

/-- The order of the dimensions does not matter, exactly if no zero can come behind a product that
does not fit the word. -/
theorem elementCount_perm_iff (readable : t.shape.isNull = false) :
    (∀ u : TensorData, u.shape.isNull = false → u.shape.toList.Perm t.shape.toList →
      u.buffer = t.buffer → u.elementCount = t.elementCount) ↔
      0 ∉ sizes t.shape.toList ∨ nonzeroProduct (sizes t.shape.toList) ≤ Size.largest := by
  constructor
  · intro same
    by_cases zero : 0 ∈ sizes t.shape.toList
    · refine .inr (Nat.not_lt.mp fun beyond => ?_)
      -- with the zeros in front the product is found, with the zeros behind it is not
      let first : TensorData := ⟨.owned (vacantFirst t.shape.toList), t.buffer⟩
      let last : TensorData := ⟨.owned (vacantLast t.shape.toList), t.buffer⟩
      have found : first.elementCount = .ok (sizes first.shape.toList).prod := by
        refine elementCount_of_le rfl ?_
        show frontProduct (sizes (vacantFirst t.shape.toList)) ≤ Size.largest
        rw [frontProduct_vacantFirst zero]
        decide
      have missed := elementCount_of_lt (t := last) rfl (by
        show Size.largest < frontProduct (sizes (vacantLast t.shape.toList))
        rwa [frontProduct_vacantLast])
      rw [same first rfl (vacantFirst_perm _) rfl, ← same last rfl (vacantLast_perm _) rfl,
        missed] at found
      cases found
    · exact .inl zero
  · intro fits u readable' perm buffer
    have perm' := sizes_perm perm
    have le : frontProduct (sizes u.shape.toList) ≤ Size.largest ↔
        frontProduct (sizes t.shape.toList) ≤ Size.largest := by
      rcases fits with nonzero | le
      · rw [frontProduct_eq_prod nonzero, frontProduct_eq_prod fun zero =>
          nonzero (perm'.mem_iff.mp zero), perm'.prod_eq]
      · refine iff_of_true ?_ (Nat.le_trans (frontProduct_le_nonzeroProduct _) le)
        rw [← nonzeroProduct_perm perm'] at le
        exact Nat.le_trans (frontProduct_le_nonzeroProduct _) le
    by_cases within : frontProduct (sizes t.shape.toList) ≤ Size.largest
    · rw [elementCount_of_le readable within, elementCount_of_le readable' (le.mpr within),
        perm'.prod_eq]
    · rw [elementCount_of_lt readable (Nat.not_le.mp within), elementCount_of_lt readable'
        (Nat.not_le.mp fun h => within (le.mp h)), buffer]

/-- **How many elements a shape asks for.**  The answer is the product of the sizes, if the product
in front of the first zero fits the word, and the report of a product that does not otherwise.  So
it is the true product, as far as that fits, unless a zero comes too late; and the order of the
dimensions does not matter unless a zero could. -/
theorem elementCount_exact (t : TensorData) (readable : t.shape.isNull = false) :
    (∀ n, t.elementCount = .ok n ↔
      frontProduct (sizes t.shape.toList) ≤ Size.largest ∧ (sizes t.shape.toList).prod = n) ∧
    (Size.largest < frontProduct (sizes t.shape.toList) → t.elementCount = .error
      (.sizeMismatch Size.largest t.buffer.length "tensor shape product overflows usize")) ∧
    ((∀ n, t.elementCount = .ok n ↔ (sizes t.shape.toList).prod = n ∧ n ≤ Size.largest) ↔
      0 ∉ sizes t.shape.toList ∨ frontProduct (sizes t.shape.toList) ≤ Size.largest) ∧
    ((∀ u : TensorData, u.shape.isNull = false → u.shape.toList.Perm t.shape.toList →
      u.buffer = t.buffer → u.elementCount = t.elementCount) ↔
      0 ∉ sizes t.shape.toList ∨ nonzeroProduct (sizes t.shape.toList) ≤ Size.largest) :=
  ⟨fun _ => elementCount_eq_ok_iff_le readable, elementCount_of_lt readable,
    elementCount_eq_prod_iff readable, elementCount_perm_iff readable⟩

/-- A zero in front of a product that would not fit. -/
theorem elementCount_exact_zero :
    let t := ofSizes [0, 0x8000000000000000, 2] ⟨.u8, .empty⟩
    t.shape.isNull = false ∧ t.elementCount = .ok 0 := by
  intro t
  exact ⟨rfl, ((elementCount_exact t rfl).1 0).mpr ⟨by decide, by decide⟩⟩

/-- The same zero, too late: the true product is zero, but it is not found. -/
theorem elementCount_zero_too_late :
    let t := ofSizes [0x8000000000000000, 2, 0] ⟨.u8, .empty⟩
    t.shape.isNull = false ∧ (sizes t.shape.toList).prod = 0 ∧ t.elementCount = .error
      (.sizeMismatch Size.largest 0 "tensor shape product overflows usize") := by
  exact ⟨rfl, rfl, rfl⟩

end TensorData
end ColumnLog
