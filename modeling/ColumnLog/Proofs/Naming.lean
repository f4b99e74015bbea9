import ColumnLog.Archetype.Tensor
import ColumnLog.Proofs.ElementCount

/-!
# Names of dimensions

A tensor is named strictly or by best effort.  Both ways end in one edit of the shape, but they look
at the number of names and at a null shape in different orders, so what they report has to be
compared case by case.

* `TensorData.Renamed` is what a tensor has in common with its renamed form, and where they differ.
* `NamingLaw` relates the answers of the two ways; `NamingLaw.map` carries it to everything that
  wraps a tensor.
* `naming_law` is the result, for tensors and for their archetype.
-/

set_option autoImplicit false

namespace ColumnLog
namespace TensorData

variable {t u : TensorData} {names : List String} {i : Nat}

/-! ## Renamed dimensions -/

@[simp]
theorem length_rename (dims : List TensorDimension) (names : List String) :
    (rename dims names).length = dims.length := by
  fun_induction rename dims names with
  | case1 d dims name names ih => rw [List.length_cons, List.length_cons, ih]
  | case2 => rfl

@[simp]
theorem sizes_rename (dims : List TensorDimension) (names : List String) :
    sizes (rename dims names) = sizes dims := by
  fun_induction rename dims names with
  | case1 d dims name names ih =>
    rw [sizes, List.map_cons, ← sizes, ih]
    rfl
  | case2 => rfl

/-- A dimension takes the name in its place, if there is one. -/
theorem getElem?_rename (dims : List TensorDimension) (names : List String) (i : Nat) :
    (rename dims names)[i]? = dims[i]?.map fun d => { d with name := names[i]?.or d.name } := by
  fun_induction rename dims names generalizing i with
  | case1 d dims name names ih =>
    cases i with
    | zero => rfl
    | succ i => exact ih i
  | case2 dims names exhausted =>
    cases dims with
    | nil => rfl
    | cons d dims =>
      cases names with
      | nil => simp
      | cons name names => exact (exhausted d dims name names rfl rfl).elim

/-! ## The edit of the shape -/

/-- The report of a shape that cannot be edited. -/
def nullShape (t : TensorData) : LogError :=
  .unexpectedNull
    ("Cannot mutate " ++ toString t.shape.length ++ " elements behind a null pointer")

theorem applyNames_of_null (null : t.shape.isNull = true) (names : List String) :
    t.applyNames names = .error t.nullShape t := by
  obtain ⟨shape, buffer⟩ := t
  cases shape with
  | null count pos => rfl
  | _ => cases null

theorem applyNames_of_readable (readable : t.shape.isNull = false) (names : List String) :
    ∃ named, t.applyNames names = .ok () named ∧ named.buffer = t.buffer ∧
      named.shape.isNull = false ∧ named.shape.toList = rename t.shape.toList names := by
  obtain ⟨shape, buffer⟩ := t
  cases shape with
  | null count pos => cases readable
  | _ => exact ⟨_, rfl, rfl, rfl, rfl⟩

/-! ## What the names leave alone -/

theorem elementCount_congr (readable : t.shape.isNull = false) (readable' : u.shape.isNull = false)
    (sizes_eq : sizes u.shape.toList = sizes t.shape.toList) (buffer : u.buffer = t.buffer) :
    u.elementCount = t.elementCount := by
  by_cases le : frontProduct (sizes t.shape.toList) ≤ Size.largest
  · rw [elementCount_of_le readable le, elementCount_of_le readable' (sizes_eq ▸ le), sizes_eq]
  · have lt := Nat.not_le.mp le
    rw [elementCount_of_lt readable lt, elementCount_of_lt readable' (sizes_eq ▸ lt), buffer]

theorem validate_congr (count : u.elementCount = t.elementCount) (buffer : u.buffer = t.buffer) :
    u.validate = t.validate := by
  rw [validate, validate, count, buffer]

/-- The second tensor is the first with the names given to its dimensions in order. -/
structure Renamed (t : TensorData) (names : List String) (named : TensorData) : Prop where
  readable : named.shape.isNull = false
  rank : named.shape.length = t.shape.length
  /-- Where there is a name it is taken. -/
  name_eq : ∀ i, i < min t.shape.length names.length →
    named.shape.toList[i]?.map (·.name) = some names[i]?
  /-- Everywhere else the dimension is what it was, its name included. -/
  kept : ∀ i, min t.shape.length names.length ≤ i →
    named.shape.toList[i]? = t.shape.toList[i]?
  sizes : named.shape.toList.map (·.size) = t.shape.toList.map (·.size)
  buffer : named.buffer = t.buffer
  elementCount : named.elementCount = t.elementCount
  validate : named.validate = t.validate

theorem map_size_rename (dims : List TensorDimension) (names : List String) :
    (rename dims names).map (·.size) = dims.map (·.size) := by
  refine List.ext_getElem? fun i => ?_
  rw [List.getElem?_map, List.getElem?_map, getElem?_rename, Option.map_map]
  rfl

theorem renamed_of_toList_eq (present : t.shape.isNull = false) (readable : u.shape.isNull = false)
    (dims : u.shape.toList = rename t.shape.toList names) (buffer : u.buffer = t.buffer) :
    t.Renamed names u := by
  have rank := Collection.length_eq_of_isNull_eq_false present
  have count : u.elementCount = t.elementCount := by
    refine elementCount_congr present readable ?_ buffer
    rw [dims, sizes_rename]
  refine ⟨readable, ?_, fun i lt => ?_, fun i le => ?_, ?_, buffer, count,
    validate_congr count buffer⟩
  · rw [Collection.length_eq_of_isNull_eq_false readable, dims, length_rename, rank]
  · have inside : i < t.shape.toList.length := by omega
    have named : i < names.length := by omega
    rw [dims, getElem?_rename, List.getElem?_eq_getElem inside, List.getElem?_eq_getElem named]
    rfl
  · rw [dims, getElem?_rename]
    by_cases inside : i < t.shape.toList.length
    · have unnamed : names[i]? = none := List.getElem?_eq_none (by omega)
      rw [List.getElem?_eq_getElem inside, unnamed]
      rfl
    · rw [List.getElem?_eq_none (Nat.not_lt.mp inside)]
      rfl
  · rw [dims, map_size_rename]

end TensorData

/-! ## The two ways -/

section

variable {α : Type} (data : α → TensorData) (a : α) (names : List String)
  (strict : Except LogError α) (lenient : BestEffort α)

/-- What the two ways answer if the shape can be read, for anything that has a tensor in it. -/
structure NamedAlike : Prop where
  /-- The strict way is the lenient one with its problem turned into a failure. -/
  agree : lenient.toExcept = strict
  ok_iff : (∃ named, strict = .ok named) ↔ names.length = (data a).shape.length
  error : names.length ≠ (data a).shape.length → strict = .error ((data a).nameMismatch names)
  renamed : (data a).Renamed names (data lenient.value)
  problems : lenient.problems =
    if names.length = (data a).shape.length then [] else [(data a).nameMismatch names]

/-- What the two ways answer if the shape is null: the strict one counts the names first, the
lenient one reports the null shape alone. -/
structure RefusedAlike : Prop where
  complete : names.length = (data a).shape.length → strict = .error (data a).nullShape
  incomplete : names.length ≠ (data a).shape.length →
    strict = .error ((data a).nameMismatch names)
  unchanged : lenient = .withProblem a (data a).nullShape

/-- What the two ways answer. -/
structure NamingLaw : Prop where
  readable : (data a).shape.isNull = false → NamedAlike data a names strict lenient
  null : (data a).shape.isNull = true → RefusedAlike data a names strict lenient

end

section

variable {α : Type} {data : α → TensorData} {a : α} {t : TensorData} {names : List String}
  {strict : Except LogError TensorData} {lenient : BestEffort TensorData}

theorem NamedAlike.map (wrap : TensorData → α) (unwrap : ∀ t, data (wrap t) = t)
    (alike : NamedAlike id t names strict lenient) :
    NamedAlike data (wrap t) names (strict.map wrap) (lenient.map wrap) := by
  have ok : (∃ named, strict.map wrap = .ok named) ↔ ∃ named, strict = .ok named := by
    cases strict with
    | ok named => exact iff_of_true ⟨_, rfl⟩ ⟨_, rfl⟩
    | error e => exact iff_of_false (fun ⟨_, h⟩ => nomatch h) (fun ⟨_, h⟩ => nomatch h)
  refine ⟨?_, ?_, fun short => ?_, ?_, ?_⟩
  · rw [BestEffort.toExcept_map, alike.agree]
  · rw [ok, unwrap]
    exact alike.ok_iff
  · rw [unwrap] at short ⊢
    rw [alike.error short]
    rfl
  · rw [BestEffort.map, unwrap, unwrap]
    exact alike.renamed
  · rw [unwrap]
    exact alike.problems

theorem RefusedAlike.map (wrap : TensorData → α) (unwrap : ∀ t, data (wrap t) = t)
    (alike : RefusedAlike id t names strict lenient) :
    RefusedAlike data (wrap t) names (strict.map wrap) (lenient.map wrap) := by
  refine ⟨fun all => ?_, fun short => ?_, ?_⟩
  · rw [unwrap] at all ⊢
    rw [alike.complete all]
    rfl
  · rw [unwrap] at short ⊢
    rw [alike.incomplete short]
    rfl
  · rw [unwrap, alike.unchanged]
    rfl

/-- The law holds of everything that wraps a tensor. -/
theorem NamingLaw.map (wrap : TensorData → α) (unwrap : ∀ t, data (wrap t) = t)
    (law : NamingLaw id t names strict lenient) :
    NamingLaw data (wrap t) names (strict.map wrap) (lenient.map wrap) := by
  refine ⟨fun readable => ?_, fun null => ?_⟩
  · rw [unwrap] at readable
    exact (law.readable readable).map wrap unwrap
  · rw [unwrap] at null
    exact (law.null null).map wrap unwrap

end

namespace TensorData

variable {t : TensorData} {names : List String}

theorem refusedAlike (null : t.shape.isNull = true) :
    RefusedAlike id t names (t.nameDimensions names) (t.nameDimensionsBestEffort names) := by
  have refused := applyNames_of_null null names
  refine ⟨fun all => ?_, fun short => if_neg short, ?_⟩
  · rw [id_eq] at all ⊢
    rw [nameDimensions, if_pos all, refused]
  · rw [nameDimensionsBestEffort, refused, id_eq]

theorem namedAlike (readable : t.shape.isNull = false) :
    NamedAlike id t names (t.nameDimensions names) (t.nameDimensionsBestEffort names) := by
  obtain ⟨named, applied, buffer, present, dims⟩ := applyNames_of_readable readable names
  have renamed := renamed_of_toList_eq readable present dims buffer
  by_cases all : names.length = t.shape.length
  · have strict : t.nameDimensions names = .ok named := by
      rw [nameDimensions, if_pos all, applied]
    have lenient : t.nameDimensionsBestEffort names = .clean named := by
      rw [nameDimensionsBestEffort, applied]
      exact if_pos all
    rw [strict, lenient]
    exact ⟨rfl, iff_of_true ⟨named, rfl⟩ all, fun short => absurd all short, renamed,
      (if_pos all).symm⟩
  · have strict : t.nameDimensions names = .error (t.nameMismatch names) := if_neg all
    have lenient :
        t.nameDimensionsBestEffort names = .withProblem named (t.nameMismatch names) := by
      rw [nameDimensionsBestEffort, applied]
      exact if_neg all
    rw [strict, lenient]
    exact ⟨rfl, iff_of_false (fun ⟨_, h⟩ => nomatch h) all, fun _ => rfl, renamed,
      (if_neg all).symm⟩

theorem namingLaw (t : TensorData) (names : List String) :
    NamingLaw id t names (t.nameDimensions names) (t.nameDimensionsBestEffort names) :=
  ⟨namedAlike, refusedAlike⟩

end TensorData

/-- The archetype of a tensor. -/
def Archetype.Tensor.ofData (data : TensorData) : Archetype.Tensor := ⟨⟨data⟩⟩

theorem Archetype.Tensor.nameDimensions_eq_map (t : Archetype.Tensor) (names : List String) :
    t.nameDimensions names = (t.data.value.nameDimensions names).map ofData := by
  rw [nameDimensions]
  cases t.data.value.nameDimensions names <;> rfl

/-- **Strict and lenient naming agree**, of tensors and of their archetype: where the shape can be
read, the strict way is the lenient one with its problem turned into a failure, and the lenient one
changes names and nothing else; where it cannot, both fail, in the order in which they look. -/
theorem naming_law :
    (∀ (t : TensorData) (names : List String),
      NamingLaw id t names (t.nameDimensions names) (t.nameDimensionsBestEffort names)) ∧
    ∀ (t : Archetype.Tensor) (names : List String),
      NamingLaw (fun t => t.data.value) t names (t.nameDimensions names)
        (t.nameDimensionsBestEffort names) := by
  refine ⟨TensorData.namingLaw, fun t names => ?_⟩
  rw [t.nameDimensions_eq_map]
  exact (t.data.value.namingLaw names).map Archetype.Tensor.ofData fun _ => rfl

/-- Two names for three dimensions, the last of which keeps the name it has. -/
theorem naming_law_short :
    let t : TensorData := ⟨.owned [.unnamed 2, .unnamed 3, .named 4 "z"], default⟩
    let named := (t.nameDimensionsBestEffort ["x", "y"]).value
    named.shape.toList = [.named 2 "x", .named 3 "y", .named 4 "z"] ∧
    t.nameDimensions ["x", "y"] = .error (.sizeMismatch 3 2 "tensor dimension names") ∧
    (t.nameDimensionsBestEffort ["x", "y"]).toExcept = t.nameDimensions ["x", "y"] := by
  intro t named
  exact ⟨rfl, rfl, ((naming_law.1 t ["x", "y"]).readable rfl).agree⟩

end ColumnLog
