import Mathlib.Logic.Relation
import Introspection.Proofs.Entity.Placeholders

/-!
# Parts of entities

An entity has parts: members, callables, the arguments and returned values of these, and the types
of the elements of arrays. Each part has a place, and an element describes it unless it stands for a
returned value that is left out.

* `Spot`, `Spot.index`: the places of parts and the positions that count there;
* `Part`, `Part.Below`: a part of an entity, and what is right below another part;
* `Part.WellFormed`: what holds of every part;
* `Part.Made`, `Part.Made.wellFormed`, `Part.Made.below`: parts are made of elements;
* **`Part.wellFormed_of_below`**: all parts of the entity of an element are well formed.
-/

namespace Introspection

open Xml

/-! ## Places -/

/-- The place of a part. -/
inductive Spot where
  | definition (index : Nat)
  | member (index : Nat)
  | callable (index : Nat)
  | parameter (index : Nat)
  | returned
  /-- Among the types of the elements of an array. -/
  | contained (array : Spot)
deriving DecidableEq, Repr

namespace Spot

/-- The position that counts for what is at a place. -/
def index : Spot → Int
  | .definition i | .member i | .callable i | .parameter i => i
  | .returned => -1
  | .contained s => s.index

/-- Whether a place is that of a returned value, or inside of one. -/
def isReturned : Spot → Bool
  | .returned => true
  | .contained s => s.isReturned
  | _ => false

theorem index_eq_iff (s : Spot) : s.index = -1 ↔ s.isReturned := by
  induction s with
  | returned => simp [index, isReturned]
  | contained s ih => exact ih
  | definition i | member i | callable i | parameter i => simp [index, isReturned]

end Spot

/-! ## Parts -/

namespace Entity

/-- The members of an enumeration or bit field. -/
def members : Entity → List Constant
  | .enumeration x | .bitfield x => x.members
  | _ => []

/-- The callables of a record or class, with the tags of their elements. -/
def callables : Entity → List (String × List Callable)
  | .record r => ofRecord r
  | .objectClass c => ofRecord c.toRecord
  | _ => []
where
  ofRecord (r : Record) : List (String × List Callable) :=
    [("function", r.functions), ("method", r.methods), ("constructor", r.constructors)]

/-- The types of the elements if an entity is an array. -/
def contained (e : Entity) : List CType := (e.toCType?.map (·.contained)).getD []

/-- The type and the native type of an entity, as far as its kind has them. -/
def slots (e : Entity) : List TypeSlot := e.type?.toList ++ (e.toCType?.map (·.native)).toList

end Entity

/-- A part of an entity at its place, with the element that describes it, if there is one. -/
structure Part where
  entity : Entity
  spot : Spot
  origin? : Option Element

namespace Part

/-- What is right below a part: what its entity holds, with the elements that are found in the same
way from the element of that part. -/
inductive Below (x : Part) : Part → Prop
  | member {i : Nat} {m : Constant} (h : x.entity.members[i]? = some m) :
    Below x ⟨.constant m, .member i, x.origin?.bind fun e => (e.childrenNamed "member")[i]?⟩
  | callable {tag : String} {ms : List Callable} {i : Nat} {m : Callable}
    (hms : (tag, ms) ∈ x.entity.callables) (h : ms[i]? = some m) :
    Below x ⟨.method m, .callable i, x.origin?.bind fun e => (e.childrenNamed tag)[i]?⟩
  | parameter {m : Callable} {i : Nat} {a : Argument} (hm : x.entity = .method m)
    (h : m.args[i]? = some a) :
    Below x ⟨.argument a, .parameter i, x.origin?.bind fun e => (parameterElements e)[i]?⟩
  | returned {m : Callable} (hm : x.entity = .method m) :
    Below x ⟨.argument m.returns, .returned, x.origin?.bind (·.firstChildNamed? "return-value")⟩
  | contained {i : Nat} {t : CType} (h : x.entity.contained[i]? = some t) :
    Below x ⟨.ctype t, .contained x.spot, (x.origin?.bind (·.firstChildNamed? "array")).bind
      fun e => (e.childrenNamed "type")[i]?⟩

/-- What holds of every part of an entity that a document defines. -/
structure WellFormed (x : Part) : Prop where
  /-- Only what stands for a returned value that is left out has no name. -/
  name_eq_empty_iff : x.entity.name = "" ↔ x.origin? = none
  void_of_none : x.origin? = none → x.spot = .returned ∧ x.entity = .argument .void
  deprecated_ne : x.entity.toThing.deprecated ≠ some ""
  deprecated_of_marked : x.entity.toThing.marked → x.entity.toThing.deprecated.isSome
  /-- The name of an argument says no more than its flag. -/
  isVarargs_eq : ∀ a, x.entity = .argument a → a.isVarargs = a.varargs
  /-- Only the type of an argument can be a placeholder. -/
  argument_of_unresolved : ∀ q, x.entity.type? = some (.unresolved q) →
    x.entity.kind? = some .argument
  /-- Only an argument can be an array. -/
  argument_of_contained : x.entity.contained ≠ [] → x.entity.kind? = some .argument
  /-- A placeholder has the position that counts at its place. -/
  index_eq : ∀ q, .unresolved q ∈ x.entity.slots → q.index = x.spot.index
  index_eq_iff : ∀ q, .unresolved q ∈ x.entity.slots → (q.index = -1 ↔ x.spot.isReturned)

/-- Parts as they are made of elements. -/
inductive Made : Part → Prop
  | definition (c : Category) {e : Element} (he : e.tag ≠ "array") (i : Nat) :
    Made ⟨(c.entity e i).value, .definition i, some e⟩
  | member {e : Element} (he : e.tag ≠ "array") (i : Nat) :
    Made ⟨.constant (Constant.ofElement e i (some "identifier")).value, .member i, some e⟩
  | callable (e : Element) (i : Nat) :
    Made ⟨.method (Callable.ofElement e i).value, .callable i, some e⟩
  | argument (e : Element) (s : Spot) :
    Made ⟨.argument (Argument.ofElement e s.index).value, s, some e⟩
  | void : Made ⟨.argument .void, .returned, none⟩
  | contained (e : Element) (s : Spot) :
    Made ⟨.ctype (CType.ofContained e s.index).value, .contained s, some e⟩

end Part

/-! ## What elements say of themselves -/

section

variable (e : Element) (index : Int)

theorem nameOrUnknown_ne : nameOrUnknown e index ≠ "" := by
  rw [nameOrUnknown]
  split
  · simp
  · assumption

theorem deprecation?_ne : deprecation? e ≠ some "" := by
  rw [deprecation?]
  split
  · rename_i h
    simpa using h
  · split <;> simp [deprecatedDefault]

theorem isSome_deprecation? (h : e.flag "deprecated") : (deprecation? e).isSome := by
  simp only [deprecation?, if_pos h]
  split <;> rfl

theorem isEllipsis_nameOrUnknown :
    isEllipsis (nameOrUnknown e index) = isEllipsis (e.attributeD "name") := by
  rw [nameOrUnknown]
  split
  · rename_i h
    rw [h, isEllipsis, isEllipsis, String.toList_append]
    rfl
  · rfl

/-! ## Where placeholders are -/

/-- A type that is written, or a placeholder with a position. -/
def TypeSlot.At (t : TypeSlot) : Prop := ∀ q, t = .unresolved q → q.index = index

theorem TypeSlot.at_orMissing (written : Option String) (expected reason : String)
    (report : Bool) :
    (TypeSlot.orMissing written ⟨index, expected, reason⟩ report).value.At index := by
  cases written with
  | some s => rintro q ⟨⟩
  | none => rintro q ⟨⟩; rfl

theorem at_nativeType (n : Option String) : (nativeType e index n).value.At index := by
  unfold nativeType
  split
  · exact TypeSlot.at_orMissing index _ _ _ _
  · split <;> exact TypeSlot.at_orMissing index _ _ _ _

theorem at_childTypes (report : Bool) :
    (childTypes e index report).value.1.At index ∧
      (childTypes e index report).value.2.At index := by
  unfold childTypes
  split
  · exact ⟨TypeSlot.at_orMissing index _ _ _ _, TypeSlot.at_orMissing index _ _ _ _⟩
  · exact ⟨TypeSlot.at_orMissing index none _ _ report, TypeSlot.at_orMissing index none _ _ report⟩

theorem at_arrayTypes :
    (arrayTypes e index).value.1.At index ∧ (arrayTypes e index).value.2.At index := by
  have hnative := TypeSlot.at_orMissing index (e.attribute? "type") "ctype" "unknown" true
  refine ⟨?_, hnative⟩
  simp only [arrayTypes, Reported.value_bind, Reported.value_pure]
  split
  · exact hnative
  · rintro q ⟨⟩

theorem at_argumentTypes :
    (argumentTypes e index).value.2.1.At index ∧ (argumentTypes e index).value.2.2.At index := by
  unfold argumentTypes
  split
  · exact at_arrayTypes ..
  · exact at_childTypes ..

/-! ## Types that elements describe -/

/-- The native type of what is no argument is that of a type which an element describes by itself,
and there are types of elements only if that is an array. -/
def CType.IsPlain (t : CType) : Prop := t.native.At index ∧ t.contained = []

theorem CType.isPlain_ofElement (he : e.tag ≠ "array") (a : String) (n : Option String) :
    (CType.ofElement e index a n).value.IsPlain index := by
  rw [CType.value_ofElement]
  exact ⟨at_nativeType e index n, if_neg he⟩

theorem CType.isPlain_ofContained : (CType.ofContained e index).value.IsPlain index :=
  ⟨at_nativeType e index _, rfl⟩

theorem Category.isPlain_entity (c : Category) (he : e.tag ≠ "array") :
    ∀ t, (c.entity e index).value.toCType? = some t → t.IsPlain index := by
  cases c with
  | enumeration | bitfield => rintro t ⟨⟩
  | typeAlias | constant | record | objectClass =>
    rintro t ⟨⟩
    exact CType.isPlain_ofElement e index he _ _

end

/-! ## Parts that elements make -/

theorem Callable.value_ofElement (e : Element) (index : Int) :
    (Callable.ofElement e index).value =
      { Thing.ofElement e index with
        cname := e.attributeD "identifier"
        returns := (e.firstChildNamed? "return-value").elim .void
          fun r => (Argument.ofElement r (-1)).value
        args := (Reported.each (fun p i => Argument.ofElement p i) (parameterElements e)).value
        throws := raisesErrors e } := by
  unfold Callable.ofElement
  split <;> rename_i h <;> rw [h] <;> rfl

theorem Argument.contained_ofElement (e : Element) (index : Int) :
    (Argument.ofElement e index).value.contained =
      (e.firstChildNamed? "array").elim [] fun a => (containedTypes a index).value := by
  rw [Argument.ofElement, argumentTypes]
  cases e.firstChildNamed? "array" <;> rfl

namespace Part

/-- A part is well formed if its element gives its name and deprecation, and if it has what only
arguments may have in case it is one. -/
theorem wellFormed_of_thing {x : Part} {e : Element} (hx : x.origin? = some e)
    (ht : x.entity.toThing = Thing.ofElement e x.spot.index)
    (hvarargs : ∀ a, x.entity = .argument a → a.isVarargs = a.varargs)
    (htype : ∀ q, x.entity.type? = some (.unresolved q) → x.entity.kind? = some .argument)
    (hcontained : x.entity.contained ≠ [] → x.entity.kind? = some .argument)
    (hslots : ∀ t ∈ x.entity.slots, t.At x.spot.index) : x.WellFormed where
  name_eq_empty_iff := by
    rw [Entity.name, ht, hx]
    exact iff_of_false (nameOrUnknown_ne e _) (Option.some_ne_none e)
  void_of_none := by
    rw [hx]
    rintro ⟨⟩
  deprecated_ne := by
    rw [ht]
    exact deprecation?_ne e
  deprecated_of_marked := by
    rw [ht]
    exact isSome_deprecation? e
  isVarargs_eq := hvarargs
  argument_of_unresolved := htype
  argument_of_contained := hcontained
  index_eq := fun q hq => hslots _ hq q rfl
  index_eq_iff := by
    intro q hq
    rw [hslots _ hq q rfl]
    exact x.spot.index_eq_iff

theorem wellFormed_of_plain {x : Part} {e : Element} (hx : x.origin? = some e)
    (ht : x.entity.toThing = Thing.ofElement e x.spot.index)
    (hargument : ∀ a, x.entity ≠ .argument a)
    (htype : ∀ q, x.entity.type? ≠ some (.unresolved q))
    (hplain : ∀ t, x.entity.toCType? = some t → t.IsPlain x.spot.index) : x.WellFormed := by
  refine wellFormed_of_thing hx ht (fun a ha => absurd ha (hargument a))
    (fun q hq => absurd hq (htype q)) (fun h => absurd ?_ h) fun t ht q hq => ?_
  · rw [Entity.contained]
    cases hc : x.entity.toCType? with
    | none => rfl
    | some t => exact (hplain t hc).2
  · rw [hq, Entity.slots, List.mem_append, Option.mem_toList, Option.mem_toList] at ht
    rcases ht with ht | ht
    · exact absurd ht (htype q)
    · obtain ⟨t, hc, ht⟩ := Option.map_eq_some_iff.mp ht
      exact (hplain t hc).1 q ht

theorem Made.wellFormed {x : Part} (h : x.Made) : x.WellFormed := by
  cases h with
  | @definition c e he i =>
    refine wellFormed_of_plain rfl (c.toThing_entity e _) ?_ ?_ (c.isPlain_entity e _ he)
    · intro a
      cases c <;> rintro ⟨⟩
    · obtain ⟨s, hs⟩ := c.type?_entity e i
      intro q
      rw [hs]
      rintro ⟨⟩
  | @member e he i =>
    have hplain := CType.isPlain_ofElement e i he "type" (some "identifier")
    refine wellFormed_of_plain (e := e) rfl ?_ (by rintro a ⟨⟩) ?_ ?_
    · simp [Constant.ofElement, CType.value_ofElement, Entity.toThing, Spot.index]
    · simp [Constant.ofElement, CType.value_ofElement, Entity.type?]
    · rintro t ⟨⟩
      exact hplain
  | callable e i =>
    refine wellFormed_of_plain (e := e) rfl ?_ (by rintro a ⟨⟩) (by rintro q ⟨⟩) (by rintro t ⟨⟩)
    rw [Callable.value_ofElement]
    rfl
  | argument e s =>
    refine wellFormed_of_thing (e := e) rfl rfl ?_ (fun _ _ => rfl) (fun _ => rfl) ?_
    · rintro a ⟨⟩
      have hname : (Argument.ofElement e s.index).value.name = nameOrUnknown e s.index := rfl
      have hflag : (Argument.ofElement e s.index).value.varargs = isVarargsElement e := rfl
      rw [Argument.isVarargs, hname, hflag, isEllipsis_nameOrUnknown, isVarargsElement,
        Bool.or_assoc, Bool.or_self]
    · have hat := at_argumentTypes e s.index
      exact List.forall_mem_cons.mpr ⟨hat.1, List.forall_mem_singleton.mpr hat.2⟩
  | void =>
    have hslots : ∀ q, .unresolved q ∉ (Entity.argument .void).slots := by
      intro q
      simp [Entity.slots, Entity.type?, Entity.toCType?, Argument.void]
    exact ⟨iff_of_true rfl rfl, fun _ => ⟨rfl, rfl⟩, by rintro ⟨⟩, by rintro ⟨⟩,
      fun a ha => by cases ha; rfl, fun _ _ => rfl, fun _ => rfl,
      fun q hq => absurd hq (hslots q), fun q hq => absurd hq (hslots q)⟩
  | contained e s =>
    refine wellFormed_of_plain (e := e) rfl rfl (by rintro a ⟨⟩) (by rintro q ⟨⟩) ?_
    rintro t ⟨⟩
    exact CType.isPlain_ofContained e s.index

/-! ## What is below a part -/

theorem getElem?_each {α β : Type} (f : α → Nat → Reported β) (as : List α) (i : Nat) :
    (Reported.each f as).value[i]? = as[i]?.map fun a => (f a i).value := by
  rw [Reported.value_each, List.getElem?_map, List.getElem?_zipIdx, Option.map_map, Nat.zero_add]
  rfl

section

variable {x : Part} (hx : x.Made)

include hx

theorem Made.of_members {m : Constant} (hm : m ∈ x.entity.members) :
    ∃ e, x.origin? = some e ∧
      x.entity.members = (Reported.each (fun m i => Constant.ofElement m i (some "identifier"))
        (e.childrenNamed "member")).value := by
  cases hx with
  | definition c he i =>
    cases c with
    | enumeration | bitfield => exact ⟨_, rfl, rfl⟩
    | typeAlias | constant | record | objectClass => cases hm
  | member | callable | argument | void | contained => cases hm

theorem Made.of_callables {tag : String} {ms : List Callable}
    (hms : (tag, ms) ∈ x.entity.callables) :
    ∃ e, x.origin? = some e ∧ ms = (callables e tag).value := by
  cases hx with
  | @definition c e he i =>
    refine ⟨e, rfl, ?_⟩
    cases c with
    | record | objectClass =>
      rcases List.mem_cons.mp hms with h | hms
      · cases h; rfl
      · rcases List.mem_cons.mp hms with h | hms
        · cases h; rfl
        · cases List.mem_singleton.mp hms; rfl
    | typeAlias | constant | enumeration | bitfield => cases hms
  | member | callable | argument | void | contained => cases hms

theorem Made.of_method {m : Callable} (hm : x.entity = .method m) :
    ∃ e i, x.origin? = some e ∧ m = (Callable.ofElement e i).value := by
  cases hx with
  | @definition c e he i => cases c <;> cases hm
  | callable e i =>
    cases hm
    exact ⟨e, i, rfl, rfl⟩
  | member | argument | void | contained => cases hm

theorem Made.of_contained {t : CType} (ht : t ∈ x.entity.contained) :
    ∃ e array, x.origin? = some e ∧ e.firstChildNamed? "array" = some array ∧
      x.entity.contained = (containedTypes array x.spot.index).value := by
  have hkind := hx.wellFormed.argument_of_contained (List.ne_nil_of_mem ht)
  cases hx with
  | definition c he i => cases c <;> cases hkind
  | argument e s =>
    have hcontained := Argument.contained_ofElement e s.index
    cases harray : e.firstChildNamed? "array" with
    | none =>
      rw [harray] at hcontained
      change t ∈ (Argument.ofElement e s.index).value.contained at ht
      rw [hcontained] at ht
      cases ht
    | some array =>
      rw [harray] at hcontained
      exact ⟨e, array, rfl, harray, hcontained⟩
  | void => cases ht
  | member | callable | contained => cases hkind

theorem Made.below {y : Part} (h : x.Below y) : y.Made := by
  cases h with
  | @member i m hm =>
    obtain ⟨e, he, heq⟩ := hx.of_members (List.mem_of_getElem? hm)
    rw [heq, getElem?_each] at hm
    obtain ⟨child, hchild, rfl⟩ := Option.map_eq_some_iff.mp hm
    rw [he, Option.bind_some, hchild]
    have htag : child.tag = "member" := by
      simpa using (List.mem_filter.mp (List.mem_of_getElem? hchild)).2
    exact .member (by simp [htag]) i
  | @callable tag ms i m hms hm =>
    obtain ⟨e, he, rfl⟩ := hx.of_callables hms
    rw [callables, getElem?_each] at hm
    obtain ⟨child, hchild, rfl⟩ := Option.map_eq_some_iff.mp hm
    rw [he, Option.bind_some, hchild]
    exact .callable child i
  | @parameter m i a hm ha =>
    obtain ⟨e, j, he, rfl⟩ := hx.of_method hm
    rw [Callable.value_ofElement, getElem?_each] at ha
    obtain ⟨child, hchild, rfl⟩ := Option.map_eq_some_iff.mp ha
    rw [he, Option.bind_some, hchild]
    exact .argument child (.parameter i)
  | @returned m hm =>
    obtain ⟨e, j, he, rfl⟩ := hx.of_method hm
    rw [Callable.value_ofElement, he, Option.bind_some]
    cases e.firstChildNamed? "return-value" with
    | none => exact .void
    | some r => exact .argument r .returned
  | @contained i t ht =>
    obtain ⟨e, array, he, harray, heq⟩ := hx.of_contained (List.mem_of_getElem? ht)
    rw [heq, containedTypes, getElem?_each] at ht
    obtain ⟨child, hchild, rfl⟩ := Option.map_eq_some_iff.mp ht
    rw [he, Option.bind_some, harray, Option.bind_some, hchild]
    exact .contained child x.spot

end

/-- **All parts of the entity of an element are well formed**, at any depth. -/
theorem wellFormed_of_below {c : Category} {e : Element} {i : Nat} (he : e.tag ≠ "array")
    {x : Part}
    (h : Relation.ReflTransGen Below ⟨(c.entity e i).value, .definition i, some e⟩ x) :
    x.WellFormed := by
  have hmade : x.Made := by
    induction h with
    | refl => exact .definition c he i
    | tail _ hbelow ih => exact ih.below hbelow
  exact hmade.wellFormed

end Part

end Introspection
