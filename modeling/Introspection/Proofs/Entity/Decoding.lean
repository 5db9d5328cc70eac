import Introspection.Entity.Json
import Introspection.Proofs.Json.Alike

/-!
# Entities read back

No two entities have the same object, whatever the order of its fields. An object that was made of
an entity gives the entity back: the kind says which fields there are, and the text of a placeholder
says the reason, since the rest of that text is known from the other fields.

* `Placeholder.ofJson?`, `TypeSlot.ofJson?`: types;
* `Thing.ofJson?`, `Datatype.ofJson?`, `CType.ofJson?`, `Constant.ofJson?`, `Enumeration.ofJson?`,
  `Argument.ofJson?`, `Callable.ofJson?`, `Record.ofJson?`, `ObjectClass.ofJson?`: what the kinds
  have in common and what they add;
* `Entity.ofJson?`: entities;
* **`Entity.json_lossless`**: an entity is read back from its object.
-/

namespace Introspection

/-! ## Reading -/

/-- A placeholder. Its reason is what is left of its text without all that is known. -/
def Placeholder.ofJson? (j : Json) : Option Placeholder := do
  let index ← j.readAt? "index" Json.integer?
  let expected ← j.readAt? "expected" Json.text?
  let text ← j.readAt? "placeholder" Json.text?
  let ending := " " ++ expected ++ " " ++ Text.decimal index ++ ">"
  let opening ← Text.withoutSuffix? ending.toList text.toList
  return { index, expected, reason := String.ofList (opening.drop 1) }

def TypeSlot.ofJson? : Json → Option TypeSlot
  | .text s => some (.written s)
  | j => (Placeholder.ofJson? j).map .unresolved

def Thing.ofJson? (j : Json) : Option Thing := do
  let name ← j.readAt? "name" Json.text?
  let comment ← j.readAt? "comment" Json.text?
  let introspectable ← j.readAt? "introspectable" Json.bool?
  let deprecated ← j.readAt? "deprecated" (Json.optional? Json.text?)
  let marked ← j.readAt? "marked_as_deprecated" Json.bool?
  let version ← j.readAt? "version" (Json.optional? Json.text?)
  return { name, comment, introspectable, deprecated, marked, version }

def Datatype.ofJson? (j : Json) : Option Datatype := do
  let t ← Thing.ofJson? j
  let type ← j.readAt? "type" TypeSlot.ofJson?
  return { t with type }

def CType.ofJson? : Json → Option CType
  | .object fs => do
    let t ← Datatype.ofJson? (.object fs)
    let native ← (Json.object fs).readAt? "ctype" TypeSlot.ofJson?
    let contained ← (inFields? fs).join
    return { t with native, contained }
  | _ => none
where
  /-- The types of the elements of an array, if there is a field for them. -/
  inFields? : List (String × Json) → Option (Option (List CType))
    | [] => none
    | (key, j) :: fs =>
      (inFields? fs).or (if key = "contained_types" then some (ofItems? j) else none)
  ofItems? : Json → Option (List CType)
    | .list js => ofAll? js
    | _ => none
  ofAll? : List Json → Option (List CType)
    | [] => some []
    | j :: js => do
      let t ← CType.ofJson? j
      let ts ← ofAll? js
      return t :: ts

def Constant.ofJson? (j : Json) : Option Constant := do
  let t ← CType.ofJson? j
  let value ← j.readAt? "value" Json.integer?
  let raw ← j.readAt? "raw_value" (Json.optional? Json.text?)
  return { t with value, raw }

/-- An enumeration or a bit field. -/
def Enumeration.ofJson? (j : Json) : Option Enumeration := do
  let t ← Datatype.ofJson? j
  let members ← j.readAt? "members" (Json.list? Constant.ofJson?)
  return { t with members }

def Argument.ofJson? (j : Json) : Option Argument := do
  let t ← CType.ofJson? j
  let receiver ← j.readAt? "instance" Json.bool?
  let varargs ← j.readAt? "varargs" Json.bool?
  return { t with receiver, varargs }

def Callable.ofJson? (j : Json) : Option Callable := do
  let t ← Thing.ofJson? j
  let cname ← j.readAt? "cname" Json.text?
  let returns ← j.readAt? "returns" Argument.ofJson?
  let args ← j.readAt? "args" (Json.list? Argument.ofJson?)
  let throws ← j.readAt? "throws_error" Json.bool?
  return { t with cname, returns, args, throws }

def Record.ofJson? (j : Json) : Option Record := do
  let t ← CType.ofJson? j
  let cprefix ← j.readAt? "cprefix" Json.text?
  let typeGetter ← j.readAt? "typegetter" Json.text?
  let methods ← j.readAt? "methods" (Json.list? Callable.ofJson?)
  let functions ← j.readAt? "functions" (Json.list? Callable.ofJson?)
  let constructors ← j.readAt? "constructors" (Json.list? Callable.ofJson?)
  return { t with cprefix, typeGetter, methods, functions, constructors }

def ObjectClass.ofJson? (j : Json) : Option ObjectClass := do
  let r ← Record.ofJson? j
  let parent ← j.readAt? "parent" Json.text?
  return { r with parent }

def Kind.ofJson? (j : Json) : Option Kind :=
  [Kind.typeAlias, .constant, .enumeration, .bitfield, .record, .objectClass, .method, .argument,
    .datatype].find? fun k => j.text? = some k.name

/-- An entity of the given kind. Two kinds of entities have the kind of mere types; one of them has
a native type. -/
def Entity.ofKind? (j : Json) : Kind → Option Entity
  | .typeAlias => (CType.ofJson? j).map .typeAlias
  | .constant => (Constant.ofJson? j).map .constant
  | .enumeration => (Enumeration.ofJson? j).map .enumeration
  | .bitfield => (Enumeration.ofJson? j).map .bitfield
  | .record => (Record.ofJson? j).map .record
  | .objectClass => (ObjectClass.ofJson? j).map .objectClass
  | .method => (Callable.ofJson? j).map .method
  | .argument => (Argument.ofJson? j).map .argument
  | .datatype =>
    if (j.field? "ctype").isSome then (CType.ofJson? j).map .ctype
    else (Datatype.ofJson? j).map .datatype

/-- An entity. Only a mere thing has no kind. -/
def Entity.ofJson? (j : Json) : Option Entity :=
  match j.field? "kind" with
  | none => (Thing.ofJson? j).map .thing
  | some k => (Kind.ofJson? k).bind (Entity.ofKind? j)

/-! ## Types read back -/

theorem Placeholder.withoutSuffix?_text (p : Placeholder) :
    Text.withoutSuffix? (" " ++ p.expected ++ " " ++ Text.decimal p.index ++ ">").toList
      p.text.toList = some ("<" ++ p.reason).toList := by
  have htext : p.text.toList = ("<" ++ p.reason).toList ++
      (" " ++ p.expected ++ " " ++ Text.decimal p.index ++ ">").toList := by
    rw [← String.toList_append, text]
    simp only [String.append_assoc]
  generalize (" " ++ p.expected ++ " " ++ Text.decimal p.index ++ ">").toList = ending at htext
  have hlength : 0 < ("<" ++ p.reason).toList.length := by
    rw [String.toList_append, List.length_append]
    exact Nat.lt_add_right _ (by decide)
  rw [Text.withoutSuffix?, htext, if_pos]
  · rw [List.length_append, Nat.add_sub_cancel, List.take_left]
  · exact ⟨List.isSuffixOf_iff_suffix.mpr (List.suffix_append ..), by
      rw [List.length_append]; exact Nat.lt_add_of_pos_left hlength⟩

theorem Placeholder.ofJson?_of_alike {p : Placeholder} {j : Json} (h : p.json.Alike j) :
    ofJson? j = some p := by
  have hkeys : ["unresolved", "placeholder", "index", "expected"].Nodup := by decide
  have hs := h.shows hkeys
  have hindex : j.readAt? "index" Json.integer? = some p.index :=
    hs.readAt? (by simp) fun _ => Json.integer?_of_alike
  have hexpected : j.readAt? "expected" Json.text? = some p.expected :=
    hs.readAt? (by simp) fun _ => Json.text?_of_alike
  have htext : j.readAt? "placeholder" Json.text? = some p.text :=
    hs.readAt? (by simp) fun _ => Json.text?_of_alike
  rw [ofJson?, hindex, hexpected, htext]
  change ((Text.withoutSuffix? _ _).bind fun opening => _) = _
  rw [p.withoutSuffix?_text, String.toList_append, Option.bind_some]
  change some { p with reason := String.ofList p.reason.toList } = _
  rw [String.ofList_toList]

theorem TypeSlot.ofJson?_of_alike {t : TypeSlot} {j : Json} (h : t.json.Alike j) :
    ofJson? j = some t := by
  cases t with
  | written s =>
    rw [h.eq_text]
    rfl
  | unresolved p =>
    obtain ⟨-, hs, rfl, -⟩ := h.exists_of_object
    change (Placeholder.ofJson? _).map _ = _
    rw [Placeholder.ofJson?_of_alike h, Option.map_some]

/-! ## What all entities share -/

theorem Thing.ofJson?_of_shows {t : Thing} {j : Json} (h : j.Shows t.fields) :
    ofJson? j = some t := by
  have hname : j.readAt? "name" Json.text? = some t.name :=
    h.readAt? (by simp [fields]) fun _ => Json.text?_of_alike
  have hcomment : j.readAt? "comment" Json.text? = some t.comment :=
    h.readAt? (by simp [fields]) fun _ => Json.text?_of_alike
  have hintrospectable : j.readAt? "introspectable" Json.bool? = some t.introspectable :=
    h.readAt? (by simp [fields]) fun _ => Json.bool?_of_alike
  have hdeprecated : j.readAt? "deprecated" (Json.optional? Json.text?) = some t.deprecated :=
    h.readAt? (by simp [fields]) fun _ => Json.optional?_of_alike
  have hmarked : j.readAt? "marked_as_deprecated" Json.bool? = some t.marked :=
    h.readAt? (by simp [fields]) fun _ => Json.bool?_of_alike
  have hversion : j.readAt? "version" (Json.optional? Json.text?) = some t.version :=
    h.readAt? (by simp [fields]) fun _ => Json.optional?_of_alike
  rw [ofJson?, hname, hcomment, hintrospectable, hdeprecated, hmarked, hversion]
  rfl

theorem Datatype.ofJson?_of_shows {k : Kind} {t : Datatype} {j : Json}
    (h : j.Shows (t.fields k)) : ofJson? j = some t := by
  have hthing := Thing.ofJson?_of_shows (h.of_subset (List.subset_append_left ..))
  have htype : j.readAt? "type" TypeSlot.ofJson? = some t.type :=
    h.readAt? (by simp [fields]) fun _ => TypeSlot.ofJson?_of_alike
  rw [ofJson?, hthing, htype]
  rfl

/-! ## Native types -/

namespace CType

theorem ofJson?.inFields?_eq (fs : List (String × Json)) :
    inFields? fs = ((Json.object fs).field? "contained_types").map ofItems? := by
  induction fs with
  | nil => rfl
  | cons f fs ih =>
    obtain ⟨key, j⟩ := f
    rw [inFields?, ih, Json.field?, Json.field?, List.reverse_cons, List.find?_append]
    cases fs.reverse.find? (·.1 == "contained_types") with
    | some f => rfl
    | none =>
      by_cases hk : key = "contained_types"
      · simp [hk]
      · simp [hk]

theorem ofJson?_eq (j : Json) :
    ofJson? j = do
      let t ← Datatype.ofJson? j
      let native ← j.readAt? "ctype" TypeSlot.ofJson?
      let contained ← j.readAt? "contained_types" ofJson?.ofItems?
      return { t with native, contained } := by
  cases j with
  | object fs =>
    rw [ofJson?, ofJson?.inFields?_eq, Json.readAt?, Json.readAt?]
    cases (Json.object fs).field? "contained_types" <;> rfl
  | null | bool | integer | decimal | text | broken | list => rfl

theorem keys_fields (k : Kind) (t : CType) :
    (t.fields k).map (·.1) = ["name", "comment", "introspectable", "deprecated",
      "marked_as_deprecated", "version", "type", "kind", "ctype", "contained_types"] := by
  cases t
  rfl

theorem datatype_fields_subset (k : Kind) (t : CType) : t.toDatatype.fields k ⊆ t.fields k := by
  cases t
  exact List.subset_append_left ..

theorem ofJson?_of_shows_of_contained {k : Kind} {t : Datatype} {native : TypeSlot}
    {contained : List CType} {j : Json} (h : j.Shows (fields k ⟨t, native, contained⟩))
    (hall : ∀ ks, List.Forall₂ Json.Alike (fields.objects contained) ks →
      ofJson?.ofAll? ks = some contained) : ofJson? j = some ⟨t, native, contained⟩ := by
  rw [fields] at h
  have hdatatype := Datatype.ofJson?_of_shows (h.of_subset (List.subset_append_left ..))
  have hnative : j.readAt? "ctype" TypeSlot.ofJson? = some native :=
    h.readAt? (by simp) fun _ => TypeSlot.ofJson?_of_alike
  have hcontained : j.readAt? "contained_types" ofJson?.ofItems? = some contained := by
    refine h.readAt? (by simp) (k := .list (fields.objects contained)) fun i hi => ?_
    obtain ⟨ks, rfl, hks⟩ := hi.exists_of_list
    exact hall ks hks
  rw [ofJson?_eq, hdatatype, hnative, hcontained]
  rfl

-- The recursion is that of the types. The objects that are read come along with it, as their fields
-- may be in any order.
mutual

/-- Element types are read back, however deep they go. -/
theorem ofJson?_of_alike : (t : CType) → {j : Json} →
    (Json.object (t.fields .datatype)).Alike j → ofJson? j = some t
  | ⟨t, native, contained⟩, _, h =>
    ofJson?_of_shows_of_contained (h.shows (by rw [keys_fields]; decide)) fun _ =>
      ofAll?_of_alike contained

theorem ofAll?_of_alike : (ts : List CType) → {ks : List Json} →
    List.Forall₂ Json.Alike (fields.objects ts) ks → ofJson?.ofAll? ks = some ts
  | [], _, h => by
    cases h
    rfl
  | t :: ts, _, h => by
    cases h with
    | cons hk hks =>
      rw [ofJson?.ofAll?, ofJson?_of_alike t hk, ofAll?_of_alike ts hks]
      rfl

end

theorem ofJson?_of_shows {k : Kind} {t : CType} {j : Json} (h : j.Shows (t.fields k)) :
    ofJson? j = some t := by
  obtain ⟨t, native, contained⟩ := t
  exact ofJson?_of_shows_of_contained h fun _ => ofAll?_of_alike contained

end CType

/-! ## Constants and enumerations -/

theorem Constant.ofJson?_of_shows {c : Constant} {j : Json} (h : j.Shows c.fields) :
    ofJson? j = some c := by
  have htype := CType.ofJson?_of_shows (h.of_subset (List.subset_append_left ..))
  have hvalue : j.readAt? "value" Json.integer? = some c.value :=
    h.readAt? (by simp [fields]) fun _ => Json.integer?_of_alike
  have hraw : j.readAt? "raw_value" (Json.optional? Json.text?) = some c.raw :=
    h.readAt? (by simp [fields]) fun _ => Json.optional?_of_alike
  rw [ofJson?, htype, hvalue, hraw]
  rfl

theorem Constant.nodup_keys (c : Constant) : (c.fields.map (·.1)).Nodup := by
  simp [fields, CType.keys_fields]

theorem Enumeration.ofJson?_of_shows {k : Kind} {e : Enumeration} {j : Json}
    (h : j.Shows (e.fields k)) : ofJson? j = some e := by
  have htype := Datatype.ofJson?_of_shows (h.of_subset (List.subset_append_left ..))
  have hmembers : j.readAt? "members" (Json.list? Constant.ofJson?) = some e.members :=
    h.readAt? (by simp [fields]) fun _ => Json.list?_of_alike fun c _ _ hc =>
      Constant.ofJson?_of_shows (hc.shows c.nodup_keys)
  rw [ofJson?, htype, hmembers]
  rfl

/-! ## Callables -/

theorem Argument.ofJson?_of_shows {a : Argument} {j : Json} (h : j.Shows a.fields) :
    ofJson? j = some a := by
  have htype := CType.ofJson?_of_shows (h.of_subset (List.subset_append_left ..))
  have hreceiver : j.readAt? "instance" Json.bool? = some a.receiver :=
    h.readAt? (by simp [fields]) fun _ => Json.bool?_of_alike
  have hvarargs : j.readAt? "varargs" Json.bool? = some a.varargs :=
    h.readAt? (by simp [fields]) fun _ => Json.bool?_of_alike
  rw [ofJson?, htype, hreceiver, hvarargs]
  rfl

theorem Argument.ofJson?_of_alike {a : Argument} {j : Json}
    (h : (Json.object a.fields).Alike j) : ofJson? j = some a :=
  ofJson?_of_shows (h.shows (by simp [fields, CType.keys_fields]))

theorem Callable.ofJson?_of_shows {m : Callable} {j : Json} (h : j.Shows m.fields) :
    ofJson? j = some m := by
  have hthing := Thing.ofJson?_of_shows (h.of_subset (List.subset_append_left ..))
  have hcname : j.readAt? "cname" Json.text? = some m.cname :=
    h.readAt? (by simp [fields]) fun _ => Json.text?_of_alike
  have hreturns : j.readAt? "returns" Argument.ofJson? = some m.returns :=
    h.readAt? (by simp [fields]) fun _ => Argument.ofJson?_of_alike
  have hargs : j.readAt? "args" (Json.list? Argument.ofJson?) = some m.args :=
    h.readAt? (by simp [fields]) fun _ => Json.list?_of_alike fun _ _ _ =>
      Argument.ofJson?_of_alike
  have hthrows : j.readAt? "throws_error" Json.bool? = some m.throws :=
    h.readAt? (by simp [fields]) fun _ => Json.bool?_of_alike
  rw [ofJson?, hthing, hcname, hreturns, hargs, hthrows]
  rfl

theorem Callable.list?_of_alike {ms : List Callable} {j : Json} (h : (list ms).Alike j) :
    j.list? ofJson? = some ms :=
  Json.list?_of_alike (fun m _ _ hm =>
    ofJson?_of_shows (hm.shows (by simp [fields, Thing.fields]))) h

/-! ## Records and classes -/

theorem Record.ofJson?_of_shows {k : Kind} {r : Record} {j : Json} (h : j.Shows (r.fields k)) :
    ofJson? j = some r := by
  have htype := CType.ofJson?_of_shows (h.of_subset (List.subset_append_left ..))
  have hcprefix : j.readAt? "cprefix" Json.text? = some r.cprefix :=
    h.readAt? (by simp [fields]) fun _ => Json.text?_of_alike
  have htypeGetter : j.readAt? "typegetter" Json.text? = some r.typeGetter :=
    h.readAt? (by simp [fields]) fun _ => Json.text?_of_alike
  have hmethods : j.readAt? "methods" (Json.list? Callable.ofJson?) = some r.methods :=
    h.readAt? (by simp [fields]) fun _ => Callable.list?_of_alike
  have hfunctions : j.readAt? "functions" (Json.list? Callable.ofJson?) = some r.functions :=
    h.readAt? (by simp [fields]) fun _ => Callable.list?_of_alike
  have hconstructors :
      j.readAt? "constructors" (Json.list? Callable.ofJson?) = some r.constructors :=
    h.readAt? (by simp [fields]) fun _ => Callable.list?_of_alike
  rw [ofJson?, htype, hcprefix, htypeGetter, hmethods, hfunctions, hconstructors]
  rfl

theorem ObjectClass.ofJson?_of_shows {c : ObjectClass} {j : Json} (h : j.Shows c.fields) :
    ofJson? j = some c := by
  have hrecord := Record.ofJson?_of_shows (h.of_subset (List.subset_append_left ..))
  have hparent : j.readAt? "parent" Json.text? = some c.parent :=
    h.readAt? (by simp [fields]) fun _ => Json.text?_of_alike
  rw [ofJson?, hrecord, hparent]
  rfl

/-! ## Entities -/

theorem Kind.ofJson?_of_alike {k : Kind} {j : Json} (h : k.json.Alike j) : ofJson? j = some k := by
  rw [h.eq_text]
  cases k <;> decide

namespace Entity

theorem nodup_keys (e : Entity) : (e.fields.map (·.1)).Nodup := by
  cases e <;> simp [fields, Thing.fields, Datatype.fields, CType.keys_fields, Constant.fields,
    Enumeration.fields, Argument.fields, Callable.fields, Record.fields, ObjectClass.fields]

theorem mem_fields_kind {e : Entity} {k : Kind} (hk : e.kind? = some k) :
    ("kind", k.json) ∈ e.fields := by
  have hctype : ∀ (k : Kind) (t : CType), ("kind", k.json) ∈ t.fields k := fun k t =>
    t.datatype_fields_subset k (by simp [Datatype.fields])
  cases e with
  | thing => cases hk
  | datatype | enumeration | bitfield | method =>
    cases hk
    simp [fields, Datatype.fields, Enumeration.fields, Callable.fields]
  | ctype | typeAlias | constant | argument | record | objectClass =>
    cases hk
    simp [fields, Constant.fields, Argument.fields, Record.fields, ObjectClass.fields, hctype]

theorem ofKind?_of_alike {e : Entity} {k : Kind} (hk : e.kind? = some k) {j : Json}
    (h : e.json.Alike j) : ofKind? j k = some e := by
  have hs : j.Shows e.fields := h.shows e.nodup_keys
  cases e with
  | thing => cases hk
  | datatype t =>
    cases hk
    have hnone : j.field? "ctype" = none :=
      h.field?_eq_none (by simp [fields, Datatype.fields, Thing.fields])
    rw [ofKind?, hnone, Datatype.ofJson?_of_shows hs]
    rfl
  | ctype t =>
    cases hk
    obtain ⟨i, hi, -⟩ := hs ("ctype", t.native.json) (by cases t; simp [fields, CType.fields])
    rw [ofKind?, hi, CType.ofJson?_of_shows hs]
    rfl
  | typeAlias =>
    cases hk
    rw [ofKind?, CType.ofJson?_of_shows hs, Option.map_some]
  | constant =>
    cases hk
    rw [ofKind?, Constant.ofJson?_of_shows hs, Option.map_some]
  | enumeration | bitfield =>
    cases hk
    rw [ofKind?, Enumeration.ofJson?_of_shows hs, Option.map_some]
  | argument =>
    cases hk
    rw [ofKind?, Argument.ofJson?_of_shows hs, Option.map_some]
  | method =>
    cases hk
    rw [ofKind?, Callable.ofJson?_of_shows hs, Option.map_some]
  | record =>
    cases hk
    rw [ofKind?, Record.ofJson?_of_shows hs, Option.map_some]
  | objectClass =>
    cases hk
    rw [ofKind?, ObjectClass.ofJson?_of_shows hs, Option.map_some]

theorem ofJson?_of_alike {e : Entity} {j : Json} (h : e.json.Alike j) : ofJson? j = some e := by
  have hs : j.Shows e.fields := h.shows e.nodup_keys
  cases hk : e.kind? with
  | none =>
    cases e with
    | thing t =>
      have hnone : j.field? "kind" = none := h.field?_eq_none (by simp [fields, Thing.fields])
      rw [ofJson?, hnone]
      change (Thing.ofJson? j).map _ = _
      rw [Thing.ofJson?_of_shows hs, Option.map_some]
    | _ => cases hk
  | some k =>
    obtain ⟨i, hi, hki⟩ := hs _ (mem_fields_kind hk)
    rw [ofJson?, hi]
    change (Kind.ofJson? i).bind _ = _
    rw [Kind.ofJson?_of_alike hki, Option.bind_some, ofKind?_of_alike hk h]

end Entity

/-- **An entity is read back from its object.** So no two entities have objects that say the same,
and no placeholder is taken for a type that is written like its text. -/
theorem Entity.json_lossless :
    (∀ e : Entity, ofJson? e.json = some e) ∧
      (∀ (e : Entity) (j : Json), e.json.Alike j → ofJson? j = some e) ∧
      (∀ e e' : Entity, e.json.Alike e'.json → e = e') ∧
      ∀ (p : Placeholder) (s : String),
        ¬ (TypeSlot.unresolved p).json.Alike (TypeSlot.written s).json := by
  refine ⟨fun e => ofJson?_of_alike (.refl _), fun e j => ofJson?_of_alike, fun e e' h => ?_,
    fun p s h => ?_⟩
  · exact Option.some.inj ((ofJson?_of_alike h).symm.trans (ofJson?_of_alike (.refl _)))
  · cases h

/-- An alias whose placeholder has a text that could be cut in several ways. -/
def spacedAlias : Entity :=
  .typeAlias { name := "Quark", type := .unresolved ⟨-3, "type 1", "not quite known"⟩ }

/-- The alias is read back from its fields in reverse order. -/
theorem Entity.json_lossless_of_spacedAlias :
    spacedAlias.json.Alike (.object spacedAlias.fields.reverse) ∧
      ofJson? (.object spacedAlias.fields.reverse) = some spacedAlias := by
  have h : spacedAlias.json.Alike (.object spacedAlias.fields.reverse) :=
    .object rfl (Json.Alike.forall_refl _) (List.reverse_perm _).symm
  exact ⟨h, Entity.json_lossless.2.1 _ _ h⟩

end Introspection
