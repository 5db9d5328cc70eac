import Mathlib.Data.List.Forall2
import Introspection.Proofs.Entity.Parts
import Introspection.Proofs.Outcome

/-!
# Arrays

An argument whose element holds an array takes its contained types from right below the first
array. Arrays in arrays do not count, so an array of arrays is not known as one.

* `describesType`: the arrays that describe the type of an element, perhaps further down;
* `elementTypes`, `CType.IsOf`: what describes the elements of an array, and what becomes of it;
* `Argument.forall₂_contained`, `Argument.isArray_iff`: the contained types of an argument, and when
  it is known as an array;
* **`Argument.contained_tell`**: the arrays whose element types are all kept.
-/

namespace Introspection

open Xml

/-! ## Element types -/

/-- Whether an array describes a type of its elements: by a type, or by an array that does. -/
def describesType : Element → Bool
  | ⟨_, _, _, children, _⟩ => inRow children
where
  inRow : List Element → Bool
    | [] => false
    | c :: cs => c.tag == "type" || (c.tag == "array" && describesType c) || inRow cs

theorem describesType_iff (array : Element) :
    describesType array ↔
      ∃ c ∈ array.children, c.tag = "type" ∨ c.tag = "array" ∧ describesType c := by
  have hrow : ∀ cs, describesType.inRow cs ↔
      ∃ c ∈ cs, c.tag = "type" ∨ c.tag = "array" ∧ describesType c := by
    intro cs
    induction cs with
    | nil => simp [describesType.inRow]
    | cons c cs ih => simp [describesType.inRow, ih]
  cases array
  exact hrow _

/-- What is right below an array and describes its elements. -/
def elementTypes (array : Element) : List Element :=
  array.children.filter fun c => c.tag == "type" || c.tag == "array"

theorem elementTypes_eq {array : Element} (h : ∀ c ∈ array.children, c.tag ≠ "array") :
    elementTypes array = array.childrenNamed "type" :=
  List.filter_congr fun c hc => by simp [h c hc]

theorem length_lt_elementTypes {array c : Element} (hc : c ∈ array.children)
    (htag : c.tag = "array") :
    (array.childrenNamed "type").length < (elementTypes array).length := by
  have hsplit : array.childrenNamed "type" = (elementTypes array).filter (·.tag == "type") := by
    rw [elementTypes, List.filter_filter, Element.childrenNamed]
    exact List.filter_congr fun c _ => by cases c.tag == "type" <;> rfl
  have hmem : c ∈ elementTypes array := List.mem_filter.mpr ⟨hc, by simp [htag]⟩
  rw [hsplit]
  exact List.length_filter_lt_length_iff_exists.mpr ⟨c, hmem, by simp [htag]⟩

/-! ## Contained types -/

/-- A contained type is that of an element which describes it: the element names it and gives its
type and its native type in one attribute. If it is no array, the type contains no others. -/
structure CType.IsOf (index : Int) (c : Element) (t : CType) : Prop where
  thing : t.toThing = Thing.ofElement c index
  type : t.type = .written (c.attributeD "type")
  native : t.native =
    (c.attribute? "type").elim (.unresolved ⟨index, "ctype", "unknown"⟩) .written
  contained : c.tag = "type" → t.contained = []

theorem CType.isOf_ofContained (index : Int) (c : Element) :
    (CType.ofContained c index).value.IsOf index c := by
  refine ⟨rfl, rfl, ?_, fun _ => rfl⟩
  change (TypeSlot.orMissing (c.attribute? "type") ⟨index, "ctype", "unknown"⟩ true).value = _
  cases c.attribute? "type" <;> rfl

theorem value_containedTypes (array : Element) (index : Int) :
    (containedTypes array index).value =
      (array.childrenNamed "type").map fun c => (CType.ofContained c index).value := by
  rw [containedTypes, Reported.value_each]
  change (array.childrenNamed "type").zipIdx.map
    ((fun c => (CType.ofContained c index).value) ∘ Prod.fst) = _
  rw [← List.map_map, List.zipIdx_map_fst]

namespace Argument

section

variable {e array : Element} (h : e.firstChildNamed? "array" = some array) (index : Int)

include h

theorem contained_of_array :
    (ofElement e index).value.contained =
      (array.childrenNamed "type").map fun c => (CType.ofContained c index).value := by
  rw [contained_ofElement, h, Option.elim_some, value_containedTypes]

theorem forall₂_contained :
    List.Forall₂ (CType.IsOf index) (array.childrenNamed "type")
      (ofElement e index).value.contained := by
  rw [contained_of_array h, List.forall₂_map_right_iff, List.forall₂_same]
  exact fun c _ => CType.isOf_ofContained index c

theorem isArray_iff :
    (ofElement e index).value.isArray ↔ ∃ c ∈ array.children, c.tag = "type" := by
  rw [CType.isArray, contained_of_array h, Bool.not_eq_true', List.isEmpty_eq_false_iff,
    ne_eq, List.map_eq_nil_iff, Element.childrenNamed, List.filter_eq_nil_iff]
  simp

/-- If the first array describes a type of its elements, the argument is known as an array with all
element types in it just if none of these is an array itself. -/
theorem isArray_and_forall₂_iff (hd : describesType array) :
    (ofElement e index).value.isArray ∧
        List.Forall₂ (CType.IsOf index) (elementTypes array) (ofElement e index).value.contained ↔
      ∀ c ∈ array.children, c.tag ≠ "array" := by
  have hcontained := forall₂_contained h index
  constructor
  · rintro ⟨-, hall⟩ c hc htag
    have hlt := length_lt_elementTypes hc htag
    rw [hcontained.length_eq, hall.length_eq] at hlt
    exact Nat.lt_irrefl _ hlt
  · intro hnone
    obtain ⟨c, hc, htype⟩ := (describesType_iff array).mp hd
    have htype : c.tag = "type" := htype.resolve_right fun hn => hnone c hc hn.1
    exact ⟨(isArray_iff h index).mpr ⟨c, hc, htype⟩, elementTypes_eq hnone ▸ hcontained⟩

end

/-- **What becomes of the element types of arrays.** Of the arrays of an argument the first one
counts. The contained types are those of the types right below it, one by one and in order, and
these make the argument an array. So if the array describes a type of its elements, the argument is
an array with all element types in it just if none of these is an array itself. -/
theorem contained_tell {e : Element} (h : ∃ c ∈ e.children, c.tag = "array") (index : Int) :
    ∃ array, e.firstChildNamed? "array" = some array ∧
      List.Forall₂ (CType.IsOf index) (array.childrenNamed "type")
        (ofElement e index).value.contained ∧
      ((ofElement e index).value.isArray ↔ ∃ c ∈ array.children, c.tag = "type") ∧
      (describesType array →
        ((ofElement e index).value.isArray ∧
            List.Forall₂ (CType.IsOf index) (elementTypes array)
              (ofElement e index).value.contained ↔
          ∀ c ∈ array.children, c.tag ≠ "array")) := by
  have hsome : (e.firstChildNamed? "array").isSome := by
    rw [Element.firstChildNamed?, List.find?_isSome]
    simpa using h
  obtain ⟨array, harray⟩ := Option.isSome_iff_exists.mp hsome
  exact ⟨array, harray, forall₂_contained harray index, isArray_iff harray index,
    isArray_and_forall₂_iff harray index⟩

/-- A parameter with an array that describes two types of its elements. -/
def pairText : String :=
  "<parameter><array><type name=\"gint\" type=\"int\"/><doc/><type/></array></parameter>"

/-- Both types are kept, the second one with a placeholder. -/
theorem contained_tell_of_pair :
    ∃ d array, Document.loadText pairText = .ok (some d) ∧
      (∃ c ∈ d.root.children, c.tag = "array") ∧ d.root.firstChildNamed? "array" = some array ∧
      describesType array ∧ (elementTypes array).length = 2 ∧ (ofElement d.root 3).value.isArray ∧
      List.Forall₂ (CType.IsOf 3) (elementTypes array) (ofElement d.root 3).value.contained := by
  have hok : (Document.loadText pairText).toOption.join.any (fun d =>
      (d.root.firstChildNamed? "array").any fun array =>
        describesType array && (elementTypes array).length == 2 &&
          array.children.all (·.tag != "array")) := by decide +kernel
  obtain ⟨d, hd, hok⟩ := exists_of_any_join hok
  obtain ⟨array, harray, hok⟩ := (Option.any_eq_true _ _).mp hok
  rw [Bool.and_eq_true, Bool.and_eq_true, beq_iff_eq] at hok
  obtain ⟨⟨hdescribes, htwo⟩, hnone⟩ := hok
  have hmem : ∃ c ∈ d.root.children, c.tag = "array" :=
    ⟨array, List.mem_of_find?_eq_some harray, by simpa using List.find?_some harray⟩
  obtain ⟨first, hfirst, -, -, htell⟩ := contained_tell hmem 3
  obtain rfl : array = first := Option.some.inj (harray.symm.trans hfirst)
  obtain ⟨hisArray, hall⟩ := (htell hdescribes).mpr (by simpa using hnone)
  exact ⟨d, array, hd, hmem, harray, hdescribes, htwo, hisArray, hall⟩

/-- A parameter with an array of arrays of integers. -/
def matrixText : String :=
  "<parameter><array><array><type name=\"gint\"/></array></array></parameter>"

/-- The array describes the type of its elements, but the argument is no array and contains
nothing. -/
theorem isArray_of_matrix :
    (Document.loadText matrixText).toOption.join.bind (fun d =>
        (d.root.firstChildNamed? "array").map fun array =>
          (describesType array, (elementTypes array).length, (ofElement d.root 0).value.isArray,
            (ofElement d.root 0).value.contained.length)) =
      some (true, 1, false, 0) := by
  decide +kernel

end Argument

end Introspection
