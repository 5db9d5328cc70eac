import Introspection.Entity.OfElement
import Introspection.Proofs.Xml.Renaming

/-!
# Entities and namespaces

The entities that elements describe do not depend on the namespaces of the elements and of their
attributes.

* `Thing.ofElement_renamed`, `CType.ofElement_renamed`, `Argument.ofElement_renamed`,
  `Callable.ofElement_renamed`, `Record.ofElement_renamed`: the parts;
* **`Category.entity_renamed`**: the entities of all categories.
-/

namespace Introspection

open Xml

theorem Reported.eachFrom_map {α β γ : Type} (f : β → Nat → Reported γ) (g : α → β) (i : Nat)
    (as : List α) : eachFrom f i (as.map g) = eachFrom (fun a i => f (g a) i) i as := by
  induction as generalizing i with
  | nil => rfl
  | cons a as ih => rw [List.map_cons, eachFrom, ih, eachFrom]

theorem Reported.each_map {α β γ : Type} (f : β → Nat → Reported γ) (g : α → β) (as : List α) :
    each f (as.map g) = each (fun a i => f (g a) i) as :=
  eachFrom_map f g 0 as

section

variable (ρ : Renaming) (e : Element) (index : Int)

/-! ## Things -/

theorem documentation_renamed (tag : String) :
    documentation (ρ.renamed e) tag = documentation e tag := by
  have hcontent : Element.content ∘ ρ.renamed = Element.content := funext ρ.content_renamed
  rw [documentation, ρ.childrenNamed_renamed, List.map_map, hcontent, documentation]

theorem flag_renamed {name : String} (h : isUnbraced name) :
    (ρ.renamed e).flag name = e.flag name := by
  rw [Element.flag, ρ.attribute?_renamed h, Element.flag]

theorem Thing.ofElement_renamed :
    Thing.ofElement (ρ.renamed e) index = Thing.ofElement e index := by
  simp (disch := decide) only [ofElement, nameOrUnknown, deprecation?, documentation_renamed,
    flag_renamed, Renaming.attribute?_renamed, Renaming.attributeD_renamed]

/-! ## Types -/

theorem firstAttribute?_renamed {name other : String} (h : isUnbraced name)
    (h' : isUnbraced other) :
    firstAttribute? (ρ.renamed e) name other = firstAttribute? e name other := by
  rw [firstAttribute?, ρ.attribute?_renamed h, ρ.attribute?_renamed h', firstAttribute?]

theorem nativeType_renamed {n : Option String} (h : ∀ a ∈ n, isUnbraced a) :
    nativeType (ρ.renamed e) index n = nativeType e index n := by
  cases n with
  | some a => rw [nativeType, ρ.attribute?_renamed (h a rfl), nativeType]
  | none =>
    have hchild : (fun t => firstAttribute? t "name" "type") ∘ ρ.renamed =
        fun t => firstAttribute? t "name" "type" :=
      funext fun t => firstAttribute?_renamed ρ t (by decide) (by decide)
    rw [nativeType, ρ.tag_renamed, ρ.attribute?_renamed (by decide), ρ.firstChildNamed?_renamed,
      Option.bind_map, hchild, nativeType]

theorem containedTypes_renamed : containedTypes (ρ.renamed e) index = containedTypes e index := by
  have htype : ∀ t : Element,
      CType.ofContained (ρ.renamed t) index = CType.ofContained t index := by
    intro t
    rw [CType.ofContained, nativeType_renamed ρ t index (by decide), Thing.ofElement_renamed,
      ρ.attributeD_renamed (by decide), CType.ofContained]
  rw [containedTypes, ρ.childrenNamed_renamed, Reported.each_map, containedTypes]
  simp only [htype]

theorem CType.ofElement_renamed {a : String} {n : Option String} (ha : isUnbraced a)
    (hn : ∀ a ∈ n, isUnbraced a) :
    CType.ofElement (ρ.renamed e) index a n = CType.ofElement e index a n := by
  rw [ofElement, ρ.tag_renamed, containedTypes_renamed, nativeType_renamed ρ e index hn,
    Thing.ofElement_renamed, ρ.attributeD_renamed ha, ofElement]

/-! ## Constants and enumerations -/

theorem Constant.ofElement_renamed {n : Option String} (hn : ∀ a ∈ n, isUnbraced a) :
    Constant.ofElement (ρ.renamed e) index n = Constant.ofElement e index n := by
  rw [ofElement, CType.ofElement_renamed ρ e index (by decide) hn,
    ρ.attribute?_renamed (by decide), ofElement]

theorem Enumeration.ofElement_renamed :
    Enumeration.ofElement (ρ.renamed e) index = Enumeration.ofElement e index := by
  have hmember : ∀ (m : Element) (i : Nat),
      Constant.ofElement (ρ.renamed m) i (some "identifier") =
        Constant.ofElement m i (some "identifier") :=
    fun m i => Constant.ofElement_renamed ρ m i (by decide)
  rw [ofElement, ρ.childrenNamed_renamed, Reported.each_map, Thing.ofElement_renamed,
    ρ.attributeD_renamed (by decide), ofElement]
  simp only [hmember]

/-! ## Callables -/

theorem typeNode?_renamed : typeNode? (ρ.renamed e) = (typeNode? e).map ρ.renamed := by
  rw [typeNode?, typeNode?, ρ.tag_renamed, ρ.firstChildNamed?_renamed]
  split <;> rfl

theorem childTypes_renamed (report : Bool) :
    childTypes (ρ.renamed e) index report = childTypes e index report := by
  have hentry : (fun c => (typeNode? c).map (c, ·)) ∘ ρ.renamed =
      Option.map (Prod.map ρ.renamed ρ.renamed) ∘ fun c => (typeNode? c).map (c, ·) := by
    funext c
    rw [Function.comp_apply, Function.comp_apply, typeNode?_renamed, Option.map_map,
      Option.map_map]
    rfl
  rw [childTypes, ρ.children_renamed, List.findSome?_map, hentry, ← List.map_findSome?, childTypes]
  cases e.children.findSome? fun c => (typeNode? c).map (c, ·) with
  | none => rfl
  | some x =>
    simp (disch := decide) only [Option.map_some, Prod.map,
      firstAttribute?_renamed]

theorem isVarargsElement_renamed : isVarargsElement (ρ.renamed e) = isVarargsElement e := by
  rw [isVarargsElement, ρ.firstChildNamed?_renamed, Option.isSome_map,
    ρ.attributeD_renamed (by decide), isVarargsElement]

theorem argumentTypes_renamed : argumentTypes (ρ.renamed e) index = argumentTypes e index := by
  rw [argumentTypes, argumentTypes, ρ.firstChildNamed?_renamed]
  cases e.firstChildNamed? "array" with
  | none => simp only [Option.map_none, childTypes_renamed, isVarargsElement_renamed]
  | some array =>
    simp (disch := decide) only [Option.map_some, containedTypes_renamed, arrayTypes,
      Renaming.attribute?_renamed, Renaming.attributeD_renamed]

theorem Argument.ofElement_renamed :
    Argument.ofElement (ρ.renamed e) index = Argument.ofElement e index := by
  rw [ofElement, argumentTypes_renamed, isVarargsElement_renamed, Thing.ofElement_renamed,
    ρ.tag_renamed, ofElement]

theorem parameterElements_renamed :
    parameterElements (ρ.renamed e) = (parameterElements e).map ρ.renamed := by
  have hholder : ((ρ.renamed e).firstChildNamed? "parameters").getD (ρ.renamed e) =
      ρ.renamed ((e.firstChildNamed? "parameters").getD e) := by
    rw [ρ.firstChildNamed?_renamed]
    cases e.firstChildNamed? "parameters" <;> rfl
  rw [parameterElements, hholder, ρ.children_renamed, List.filter_map, parameterElements]
  simp only [Function.comp_def, ρ.tag_renamed]

theorem Callable.ofElement_renamed :
    Callable.ofElement (ρ.renamed e) index = Callable.ofElement e index := by
  have harg : ∀ (p : Element) (i : Nat), Argument.ofElement (ρ.renamed p) i =
      Argument.ofElement p i := fun p i => Argument.ofElement_renamed ρ p i
  rw [ofElement, ofElement, ρ.firstChildNamed?_renamed, parameterElements_renamed,
    Reported.each_map, Thing.ofElement_renamed, ρ.attributeD_renamed (by decide), raisesErrors,
    ρ.attribute?_renamed (by decide), raisesErrors]
  simp only [harg]
  cases e.firstChildNamed? "return-value" with
  | none => rfl
  | some r => simp only [Option.map_some, Argument.ofElement_renamed]

theorem callables_renamed (tag : String) : callables (ρ.renamed e) tag = callables e tag := by
  have hcallable : ∀ (m : Element) (i : Nat), Callable.ofElement (ρ.renamed m) i =
      Callable.ofElement m i := fun m i => Callable.ofElement_renamed ρ m i
  rw [callables, ρ.childrenNamed_renamed, Reported.each_map, callables]
  simp only [hcallable]

/-! ## Entities -/

theorem Record.ofElement_renamed :
    Record.ofElement (ρ.renamed e) index = Record.ofElement e index := by
  simp (disch := decide) only [ofElement, CType.ofElement_renamed, callables_renamed,
    Renaming.attributeD_renamed]

/-- **The entity of an element does not depend on namespaces.** -/
theorem Category.entity_renamed (c : Category) :
    c.entity (ρ.renamed e) index = c.entity e index := by
  cases c with
  | typeAlias => rw [entity, CType.ofElement_renamed ρ e index (by decide) (by decide), entity]
  | constant => rw [entity, Constant.ofElement_renamed ρ e index (by decide), entity]
  | enumeration | bitfield => simp only [entity, Enumeration.ofElement_renamed]
  | record => rw [entity, Record.ofElement_renamed, entity]
  | objectClass =>
    simp (disch := decide) only [entity, ObjectClass.ofElement, Record.ofElement_renamed,
      Renaming.attributeD_renamed]

end

end Introspection
