import Introspection.Document
import Introspection.Proofs.Xml.PathName
import Introspection.Proofs.Xml.Renaming

/-!
# The names of loaded elements

The reader of markup takes a name only where one is written, so the tag of every element of a loaded
document is a name. No namespace holds a closing brace, so the written form of the whole name tells
the namespace and the local name apart.

* `isName_of_readName?`, `isName_of_readTag?`: what is read is a name;
* `Markup.IsNamed`: trees whose elements have names;
* **`isNamed_of_readContent?`**: content is read into such trees;
* `Name.IsProper`, **`Name.IsProper.raw_eq_iff`**: names that their written forms tell apart;
* **`Document.isProper_of_load`**, `Document.isName_of_load`: the elements of a loaded document have
  such names.
-/

namespace Introspection

namespace Xml

/-! ## Reading -/

theorem isName_of_readName? {cs rest : List Char} {s : String}
    (h : readName? cs = some (s, rest)) : isName s := by
  cases cs with
  | nil => cases h
  | cons c cs =>
    rw [readName?] at h
    split at h
    · next hc =>
      cases h
      have hall : (cs.takeWhile isNameChar).all isNameChar :=
        List.all_eq_true.mpr fun x hx => List.mem_takeWhile_imp hx
      simp [isName, hc, hall]
    · cases h

theorem isName_of_readLabel? {cs rest : List Char} {l : Label}
    (h : readLabel? cs = some (l, rest)) : isName l.base := by
  rw [readLabel?] at h
  obtain ⟨⟨first, behind⟩, hfirst, h⟩ := Option.bind_eq_some_iff.mp h
  dsimp only at h
  split at h
  · obtain ⟨⟨second, rest'⟩, hsecond, h⟩ := Option.bind_eq_some_iff.mp h
    cases h
    exact isName_of_readName? hsecond
  · cases h
    exact isName_of_readName? hfirst

theorem isName_of_readTag? {d : Doctype} {budget left : Nat} {cs rest : List Char} {tag : Tag}
    {closed : Bool} (h : readTag? d budget cs = some (tag, closed, left, rest)) :
    isName tag.name.base := by
  rw [readTag?] at h
  obtain ⟨⟨name, behind⟩, hname, h⟩ := Option.bind_eq_some_iff.mp h
  obtain ⟨⟨given, _⟩, -, h⟩ := Option.bind_eq_some_iff.mp h
  cases h
  exact isName_of_readLabel? hname

/-! ## Markup -/

/-- A tree in which every element has a name. -/
inductive Markup.IsNamed : Markup → Prop where
  | text (s : String) : IsNamed (.text s)
  | element {tag : Tag} {content : List Markup} (name : isName tag.name.base)
      (below : ∀ m ∈ content, IsNamed m) : IsNamed (.element tag content)

/-- An open element with a name, behind content in which every element has one. -/
structure Frame.IsNamed (f : Frame) : Prop where
  name : isName f.tag.name.base
  before : ∀ m ∈ f.before, m.IsNamed

section Reading

variable {done : List Markup} (hdone : ∀ m ∈ done, m.IsNamed)

include hdone

theorem isNamed_text_cons (s : String) : ∀ m ∈ Markup.text s :: done, m.IsNamed :=
  List.forall_mem_cons.mpr ⟨.text s, hdone⟩

theorem isNamed_element_cons {tag : Tag} {content : List Markup} (hname : isName tag.name.base)
    (hcontent : ∀ m ∈ content, m.IsNamed) : ∀ m ∈ Markup.element tag content :: done, m.IsNamed :=
  List.forall_mem_cons.mpr ⟨.element hname hcontent, hdone⟩

/-- **Content is read into trees whose elements have names**, behind such trees and inside such
elements. -/
theorem isNamed_of_readContent? {d : Doctype} {fuel : Nat} {extent : Extent}
    {inside : List String} {budget left : Nat} {frames : List Frame} {read : List Markup}
    {cs rest : List Char}
    (h : readContent? d fuel extent inside budget frames done cs = some (read, left, rest))
    (hframes : ∀ f ∈ frames, f.IsNamed) : ∀ m ∈ read, m.IsNamed := by
  have hnil : ∀ m ∈ ([] : List Markup), m.IsNamed := fun m hm => nomatch hm
  have hreverse {ms : List Markup} (h : ∀ m ∈ ms, m.IsNamed) : ∀ m ∈ ms.reverse, m.IsNamed :=
    fun m hm => h m (List.mem_reverse.mp hm)
  fun_induction readContent? d fuel extent inside budget frames done cs generalizing read left rest
  -- The end of what replaces an entity.
  case case2 =>
    cases h
    exact hdone
  -- End tags, of the outermost element and of another one.
  case case4 =>
    cases h
    have hframe := hframes _ List.mem_cons_self
    exact isNamed_element_cons hframe.before hframe.name (hreverse hdone)
  case case5 ih =>
    rw [List.forall_mem_cons] at hframes
    exact ih (isNamed_element_cons hframes.1.before hframes.1.name (hreverse hdone)) h hframes.2
  -- Instructions and comments.
  case case8 ih => exact ih hdone h hframes
  case case10 ih => exact ih hdone h hframes
  -- Sections of literal text.
  case case12 ih => exact ih (isNamed_text_cons hdone _) h hframes
  -- Start tags, of the outermost element without content, of another one, and with content.
  case case15 htag _ _ =>
    cases h
    exact isNamed_element_cons hdone (isName_of_readTag? htag) hnil
  case case16 htag _ _ ih =>
    exact ih (isNamed_element_cons hdone (isName_of_readTag? htag) hnil) h hframes
  case case17 htag ih =>
    exact ih hnil h (List.forall_mem_cons.mpr ⟨⟨isName_of_readTag? htag, hdone⟩, hframes⟩)
  -- References to characters and to entities.
  case case20 ih => exact ih (isNamed_text_cons hdone _) h hframes
  case case21 ih => exact ih (isNamed_text_cons hdone _) h hframes
  case case23 hread ih' ih =>
    exact ih (ih' hdone hread fun f hf => nomatch hf) h hframes
  -- Plain text.
  case case27 ih => exact ih (isNamed_text_cons hdone _) h hframes
  all_goals cases h

end Reading

theorem Markup.exists_of_ofSource? {s : Source} {m : Markup} (h : ofSource? s = some m) :
    ∃ d fuel budget cs left rest,
      readContent? d fuel .element [] budget [] [] cs = some ([m], left, rest) := by
  rw [ofSource?] at h
  obtain ⟨rest, -, h⟩ := Option.bind_eq_some_iff.mp h
  -- What is behind the declaration of the document type is read alike with and without one.
  extract_lets behind at h
  obtain ⟨d, rest, h⟩ : ∃ d rest, behind (d, rest) = some m := by
    split at h
    · obtain ⟨_, -, h⟩ := Option.bind_eq_some_iff.mp h
      obtain ⟨_, -, h⟩ := Option.bind_eq_some_iff.mp h
      obtain ⟨⟨d, rest⟩, -, h⟩ := Option.bind_eq_some_iff.mp h
      exact ⟨d, rest, h⟩
    · obtain ⟨⟨d, rest⟩, -, h⟩ := Option.bind_eq_some_iff.mp h
      exact ⟨d, rest, h⟩
  dsimp only [behind] at h
  split at h
  · split at h
    · obtain ⟨_, h, -⟩ := Option.bind_eq_some_iff.mp h
      cases h
    · obtain ⟨_, hread, h⟩ := Option.bind_eq_some_iff.mp h
      split at h
      · obtain ⟨_, -, h⟩ := Option.bind_eq_some_iff.mp h
        split at h
        · cases h
          exact ⟨_, _, _, _, _, _, hread⟩
        · cases h
      · cases h
  · cases h

theorem Markup.isNamed_of_ofSource? {s : Source} {m : Markup} (h : ofSource? s = some m) :
    m.IsNamed := by
  obtain ⟨d, fuel, budget, cs, left, rest, h⟩ := exists_of_ofSource? h
  exact isNamed_of_readContent? (by simp) h (by simp) m
    List.mem_cons_self

/-! ## Names in namespaces -/

/-- A name as it comes out of a document: the local name is a name, and the namespace holds no
closing brace. -/
structure Name.IsProper (n : Name) : Prop where
  base : isName n.base
  space : '\x7d' ∉ n.space.toList

theorem isUnbraced_of_isName {s : String} (h : isName s) : isUnbraced s := by
  obtain ⟨c, cs, hs, hc, -⟩ := exists_cons_of_isName h
  rw [isUnbraced, hs, List.head?_cons, bne_iff_ne, ne_eq, Option.some.injEq]
  rintro rfl
  exact absurd hc (by decide)

/-- **The written form tells names apart.** -/
theorem Name.IsProper.raw_eq_iff {m n : Name} (hm : m.IsProper) (hn : n.IsProper) :
    m.raw = n.raw ↔ m = n := by
  refine ⟨fun h => ?_, congrArg Name.raw⟩
  rcases m with ⟨s, a⟩
  rcases n with ⟨t, b⟩
  by_cases hs : s = ""
  · have hraw := (Name.raw_eq_iff (n := ⟨t, b⟩) (isUnbraced_of_isName hm.base)).mp (by
      rw [← h, Name.raw, if_pos hs])
    rw [Name.mk.injEq]
    exact ⟨hs.trans hraw.1.symm, hraw.2.symm⟩
  by_cases ht : t = ""
  · have hraw := (Name.raw_eq_iff (n := ⟨s, a⟩) (isUnbraced_of_isName hn.base)).mp (by
      rw [h, Name.raw, if_pos ht])
    exact absurd hraw.1 hs
  -- The namespace ends at the first closing brace.
  · have hcut : ∀ n : Name, n.IsProper → n.space ≠ "" →
        Text.splitAtFirst? '\x7d' n.raw.toList.tail = some (n.space.toList, n.base.toList) := by
      intro n hn hs
      rw [Name.raw, if_neg hs]
      simp [Text.splitAtFirst?_append hn.space]
    have hsplit := hcut _ hm hs
    rw [h, hcut _ hn ht, Option.some.injEq, Prod.mk.injEq, String.toList_inj,
      String.toList_inj] at hsplit
    rw [Name.mk.injEq]
    exact ⟨hsplit.1.symm, hsplit.2.symm⟩

/-- Bindings to namespaces without closing braces. -/
def Scope.IsProper (scope : Scope) : Prop := ∀ b ∈ scope, '\x7d' ∉ b.2.toList

namespace Scope

variable {scope : Scope}

theorem isProper_initial : Scope.initial.IsProper :=
  List.forall_mem_singleton.mpr (by decide)

theorem isProper_of_extend? (hscope : scope.IsProper) {t : Tag} {inner : Scope}
    (h : scope.extend? t = some inner) : inner.IsProper := by
  rw [extend?, Option.ite_none_right_eq_some, Option.some.injEq] at h
  obtain ⟨hall, rfl⟩ := h
  refine List.forall_mem_append.mpr ⟨fun b hb => ?_, hscope⟩
  have hmay := List.all_eq_true.mp hall b (List.mem_reverse.mp hb)
  simp only [mayBind, Bool.and_eq_true] at hmay
  simpa using hmay.2

theorem brace_not_mem_of_lookup (hscope : scope.IsProper) {p : Option String} {space : String}
    (h : scope.lookup p = some space) : '\x7d' ∉ space.toList := by
  obtain ⟨before, behind, rfl, -⟩ := List.lookup_eq_some_iff.mp h
  exact hscope (p, space) (by simp)

theorem brace_not_mem_default (hscope : scope.IsProper) : '\x7d' ∉ scope.default.toList := by
  rw [Scope.default]
  cases h : scope.lookup none with
  | none => decide
  | some space => exact brace_not_mem_of_lookup hscope h

theorem isProper_of_resolve? (hscope : scope.IsProper) {l : Label} (hl : isName l.base) {n : Name}
    (h : scope.resolve? scope.default l = some n) : n.IsProper := by
  rcases l with ⟨_ | p, base⟩
  · cases h
    exact ⟨hl, brace_not_mem_default hscope⟩
  · obtain ⟨space, hspace, rfl⟩ := Option.map_eq_some_iff.mp h
    exact ⟨hl, brace_not_mem_of_lookup hscope hspace⟩

end Scope

/-! ## Elements -/

mutual

theorem Markup.isProper_of_element? :
    ∀ {m : Markup} {scope : Scope} {e : Element}, m.IsNamed → scope.IsProper →
      m.element? scope = some e → ∀ x ∈ e.subtree, x.name.IsProper
  | .text _, _, _, _, _, h => nomatch h
  | .element tag content, scope, e, .element hname hbelow, hscope, h => by
    rw [Markup.element?] at h
    obtain ⟨inner, hinner, h⟩ := Option.bind_eq_some_iff.mp h
    obtain ⟨name, hresolve, h⟩ := Option.bind_eq_some_iff.mp h
    obtain ⟨attributes, -, h⟩ := Option.bind_eq_some_iff.mp h
    obtain ⟨⟨lead, children⟩, hcontents, h⟩ := Option.bind_eq_some_iff.mp h
    cases h
    have hscope := Scope.isProper_of_extend? hscope hinner
    rw [Element.subtree, List.forall_mem_cons]
    exact ⟨Scope.isProper_of_resolve? hscope hname hresolve,
      Markup.isProper_of_contents? hbelow hscope hcontents⟩

theorem Markup.isProper_of_contents? :
    ∀ {content : List Markup} {scope : Scope} {lead : String} {es : List Element},
      (∀ m ∈ content, m.IsNamed) → scope.IsProper →
        Markup.contents? scope content = some (lead, es) →
        ∀ x ∈ Element.subtree.subtrees es, x.name.IsProper
  | [], scope, lead, es, _, _, h => by
    cases h
    exact fun x hx => nomatch hx
  | .text s :: content, scope, lead, es, hnamed, hscope, h => by
    rw [Markup.contents?] at h
    obtain ⟨⟨lead, children⟩, hcontents, h⟩ := Option.bind_eq_some_iff.mp h
    cases h
    exact Markup.isProper_of_contents? (List.forall_mem_cons.mp hnamed).2 hscope hcontents
  | .element tag inner :: content, scope, lead, es, hnamed, hscope, h => by
    rw [Markup.contents?] at h
    obtain ⟨e, he, h⟩ := Option.bind_eq_some_iff.mp h
    obtain ⟨⟨tail, children⟩, hcontents, h⟩ := Option.bind_eq_some_iff.mp h
    cases h
    rw [List.forall_mem_cons] at hnamed
    have hfirst := Markup.isProper_of_element? hnamed.1 hscope he
    rw [Element.subtree_eq, List.forall_mem_cons] at hfirst
    rw [Element.subtree.subtrees, Element.subtree_eq, List.cons_append, List.forall_mem_cons,
      List.forall_mem_append]
    exact ⟨hfirst.1, hfirst.2, Markup.isProper_of_contents? hnamed.2 hscope hcontents⟩

end

end Xml

namespace Document

variable {source : String} {bytes : List UInt8} {d : Document}

theorem exists_ofSource? (h : load source bytes = .ok (some d)) :
    ∃ s, Xml.Source.ofBytes bytes = .ok s ∧ ofSource? source s = some d := by
  rw [load] at h
  cases hs : Xml.Source.ofBytes bytes with
  | ok s =>
    rw [hs] at h
    exact ⟨s, rfl, Except.ok.inj h⟩
  | error fault =>
    rw [hs] at h
    cases fault <;> cases h

/-- **The elements of a loaded document have proper names.** -/
theorem isProper_of_load (h : load source bytes = .ok (some d)) :
    ∀ e ∈ d.root.subtree, e.name.IsProper := by
  obtain ⟨s, -, hs⟩ := exists_ofSource? h
  rw [ofSource?] at hs
  obtain ⟨m, hm, hs⟩ := Option.bind_eq_some_iff.mp hs
  obtain ⟨root, hroot, hs⟩ := Option.bind_eq_some_iff.mp hs
  cases hs
  exact Xml.Markup.isProper_of_element? (Xml.Markup.isNamed_of_ofSource? hm)
    Xml.Scope.isProper_initial hroot

theorem isName_of_load (h : load source bytes = .ok (some d)) :
    ∀ e ∈ d.root.subtree, Xml.isName e.tag :=
  fun e he => (isProper_of_load h e he).base

end Document

end Introspection
