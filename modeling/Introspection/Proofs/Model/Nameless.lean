import Mathlib.Data.List.Forall2
import Mathlib.Data.List.Induction
import Introspection.Proofs.Model.Merge
import Introspection.Proofs.Text.Integer

/-!
# Definitions without names

The name of a definition that has none is made from its position, which counts the definitions of
one category in one document. So definitions without names are told apart inside a category, but not
across categories and documents that share a registry.

* `unknownName`, `Candidate.name_eq_iff`: the names that are made from positions;
* `pairwise_candidatesOf`: the positions in a category of a document;
* `Swallows`, `swallows_iff`: definitions that are dropped because of others;
* `NamedApart`, `NamedApart.verdict_eq_kept_iff`: what becomes of all definitions if the names that
  are there raise no doubts;
* `BuiltInTurn`, `ModelSet.exists_builtInTurn`: documents that share a registry, as those of a model
  set do;
* `Verdicts`, **`BuiltInTurn.exists_verdicts`**: the verdicts on all that such documents define;
* **`BuiltInTurn.nameless_share_positions`**: what becomes of definitions without names.
-/

namespace Introspection

open Xml

/-! ## Names made from positions -/

/-- The name that is made from a position. -/
def unknownName (i : Nat) : String := "Unknown" ++ Text.decimal i

theorem unknownName_inj {i j : Nat} (h : unknownName i = unknownName j) : i = j := by
  have hnil : Text.Undigited [] := by simp [Text.Undigited]
  have hlist := congrArg String.toList h
  rw [unknownName, unknownName, String.toList_append, String.toList_append] at hlist
  have hdecimal := List.append_cancel_left hlist
  rw [← List.append_nil (Text.decimal i).toList, ← List.append_nil (Text.decimal j).toList]
    at hdecimal
  exact Int.ofNat.inj (Text.decimal_append_inj hnil hnil hdecimal).1

namespace Candidate

variable {b c : Candidate}

theorem name_of_not_isNamed (h : ¬c.isNamed) : c.name = unknownName c.index := by
  have hnone : c.element.attributeD "name" = "" := by
    rw [isNamed, Option.not_isSome_iff_eq_none] at h
    rw [Element.attributeD, h, Option.getD_none]
  rw [name, nameOrUnknown, if_pos hnone, unknownName]

theorem name_of_attribute? {n : String} (h : c.element.attribute? "name" = some n) (hn : n ≠ "") :
    c.name = n := by
  have hsome : c.element.attributeD "name" = n := by rw [Element.attributeD, h, Option.getD_some]
  rw [name, nameOrUnknown, hsome, if_neg hn]

theorem name_eq_iff (hb : ¬b.isNamed) (hc : ¬c.isNamed) : b.name = c.name ↔ b.index = c.index := by
  rw [name_of_not_isNamed hb, name_of_not_isNamed hc]
  exact ⟨unknownName_inj, congrArg unknownName⟩

end Candidate

theorem pairwise_candidatesOf (definitions : Category → List Element) :
    (candidatesOf definitions).Pairwise fun b c => b.category = c.category → b.index ≠ c.index := by
  have hcategory : Category.all.Pairwise (· ≠ ·) := by decide
  rw [candidatesOf, List.pairwise_flatMap]
  refine ⟨fun c _ => ?_, hcategory.imp fun {a b} hab x hx y hy hxy => ?_⟩
  · have hpositions : ((definitions c).zipIdx.map Prod.snd).Pairwise (· < ·) := by
      rw [List.zipIdx_map_snd]
      exact List.pairwise_lt_range'
    rw [List.pairwise_map] at hpositions ⊢
    refine hpositions.imp ?_
    intro p q hlt _
    exact Nat.ne_of_lt hlt
  · obtain ⟨p, -, rfl⟩ := List.mem_map.mp hx
    obtain ⟨q, -, rfl⟩ := List.mem_map.mp hy
    exact absurd hxy hab

/-! ## Candidates that swallow others -/

section Verdicts

variable {config : Config} {taken : List String}

variable (config taken) in
/-- A candidate swallows one that comes later: it is kept, and the other one is a duplicate under
its name. -/
structure Swallows (before : List Candidate) (b : Candidate) (between : List Candidate)
    (c : Candidate) : Prop where
  kept : b.verdict config taken before = .kept
  duplicate : c.verdict config taken (before ++ b :: between) = .duplicate
  name_eq : b.name = c.name

theorem swallows_iff {before between : List Candidate} {b c : Candidate} (hb : ¬b.isNamed)
    (hc : ¬c.isNamed) :
    Swallows config taken before b between c ↔
      b.verdict config taken before = .kept ∧ b.index = c.index := by
  constructor
  · rintro ⟨hkept, -, hname⟩
    exact ⟨hkept, (Candidate.name_eq_iff hb hc).mp hname⟩
  · rintro ⟨hkept, hindex⟩
    have hname := (Candidate.name_eq_iff hb hc).mpr hindex
    have hbl := (verdict_eq_kept_iff.mp hkept).1
    refine ⟨hkept, ?_, hname⟩
    rw [Candidate.verdict, if_neg (hname ▸ hbl), if_pos]
    exact .inr ⟨b, by simp, hbl, hname⟩

theorem forall_judge_iff {P : Judged → Prop} {before cs : List Candidate} :
    (∀ j ∈ judge config taken before cs, P j) ↔
      ∀ xs c ys, cs = xs ++ c :: ys → P ⟨c, c.verdict config taken (before ++ xs)⟩ := by
  constructor
  · rintro h xs c ys rfl
    refine h _ ?_
    rw [judge_append, judge]
    exact List.mem_append_right _ List.mem_cons_self
  · intro h
    induction cs generalizing before with
    | nil =>
      intro j hj
      cases hj
    | cons c cs ih =>
      rw [judge, List.forall_mem_cons]
      refine ⟨by simpa using h [] c cs rfl, ih fun xs d ys hcs => ?_⟩
      simpa using h (c :: xs) d ys (by rw [hcs, List.cons_append])

theorem pairwise_iff_split {α : Type} {R : α → α → Prop} {as : List α} :
    as.Pairwise R ↔ ∀ xs a ys, as = xs ++ a :: ys → ∀ x ∈ xs, R x a := by
  constructor
  · rintro h xs a ys rfl x hx
    exact (List.pairwise_append.mp h).2.2 x hx a List.mem_cons_self
  · intro h
    induction as using List.reverseRecOn with
    | nil => exact .nil
    | append_singleton as a ih =>
      refine List.pairwise_append.mpr ⟨ih fun xs b ys has => ?_, List.pairwise_singleton _ _, ?_⟩
      · exact h xs b (ys ++ [a]) (by rw [has, List.append_assoc, List.cons_append])
      · intro x hx b hb
        exact List.mem_singleton.mp hb ▸ h as a [] rfl x hx

/-! ## Names that raise no doubts -/

/-- The names that candidates have by themselves. -/
def presentNames (cs : List Candidate) : List String :=
  cs.filterMap (·.element.attribute? "name")

variable (config taken) in
/-- Names are all different, and none of them is empty, blacklisted, taken or of the kind that is
made from positions. -/
structure NamedApart (names : List String) : Prop where
  nodup : names.Nodup
  free : ∀ n ∈ names, n ≠ "" ∧ n ∉ config.blacklist ∧ n ∉ taken ∧ ∀ i, n ≠ unknownName i

namespace NamedApart

variable {cs : List Candidate} (h : NamedApart config taken (presentNames cs))

include h

theorem exists_name {c : Candidate} (hc : c ∈ cs) (hn : c.isNamed) :
    ∃ n ∈ presentNames cs, c.element.attribute? "name" = some n ∧ c.name = n := by
  obtain ⟨n, hn⟩ := Option.isSome_iff_exists.mp hn
  have hmem : n ∈ presentNames cs := List.mem_filterMap.mpr ⟨c, hc, hn⟩
  exact ⟨n, hmem, hn, Candidate.name_of_attribute? hn (h.free n hmem).1⟩

section Split

variable {before after : List Candidate} {c : Candidate} (hcs : cs = before ++ c :: after)

include hcs

theorem verdict_of_isNamed (hn : c.isNamed) : c.verdict config taken before = .kept := by
  obtain ⟨n, hmem, hattribute, hname⟩ := h.exists_name (c := c) (by simp [hcs]) hn
  obtain ⟨-, hbl, htaken, hunknown⟩ := h.free n hmem
  rw [verdict_eq_kept_iff, hname]
  refine ⟨hbl, htaken, fun b hb _ hbn => ?_⟩
  by_cases hbnamed : b.isNamed
  · -- The names that are there are all different.
    obtain ⟨m, -, hm, hbname⟩ := h.exists_name (c := b) (by simp [hcs, hb]) hbnamed
    have hnodup := h.nodup
    rw [presentNames, hcs, List.filterMap_append, List.filterMap_cons_some (by exact hattribute),
      List.nodup_append] at hnodup
    exact hnodup.2.2 m (List.mem_filterMap.mpr ⟨b, hb, hm⟩) n List.mem_cons_self
      (hbname.symm.trans hbn)
  · exact hunknown b.index (hbn.symm.trans (Candidate.name_of_not_isNamed hbnamed))

/-- A candidate without a name is kept if the name that is made for it is free, also of those that
are made for candidates before. -/
theorem verdict_of_not_isNamed (hn : ¬c.isNamed) :
    c.verdict config taken before = .kept ↔
      c.name ∉ config.blacklist ∧ c.name ∉ taken ∧
        ∀ b ∈ before, ¬b.isNamed → b.index ≠ c.index := by
  rw [verdict_eq_kept_iff]
  refine and_congr_right fun hbl => and_congr_right fun _ => forall_congr' fun b =>
    forall_congr' fun hb => ⟨fun hall hbn hindex => ?_, fun hall _ hname => ?_⟩
  · have hname := (Candidate.name_eq_iff hbn hn).mpr hindex
    exact hall (hname ▸ hbl) hname
  · by_cases hbn : b.isNamed
    · obtain ⟨m, hm, -, hbname⟩ := h.exists_name (c := b) (by simp [hcs, hb]) hbn
      refine (h.free m hm).2.2.2 c.index ?_
      rw [← hbname, hname, Candidate.name_of_not_isNamed hn]
    · exact hall hbn ((Candidate.name_eq_iff hbn hn).mp hname)

end Split

theorem forall_kept_iff :
    (∀ j ∈ judge config taken [] cs, j.verdict = .kept) ↔
      (∀ c ∈ cs, ¬c.isNamed → c.name ∉ config.blacklist ∧ c.name ∉ taken) ∧
        cs.Pairwise fun b c => ¬b.isNamed → ¬c.isNamed → b.index ≠ c.index := by
  rw [forall_judge_iff, pairwise_iff_split]
  simp only [List.nil_append]
  constructor
  · intro hkept
    refine ⟨fun c hc hn => ?_, fun before c after hcs b hb hbn hn => ?_⟩
    · obtain ⟨before, after, hcs⟩ := List.append_of_mem hc
      have hfree := (h.verdict_of_not_isNamed hcs hn).mp (hkept before c after hcs)
      exact ⟨hfree.1, hfree.2.1⟩
    · exact ((h.verdict_of_not_isNamed hcs hn).mp (hkept before c after hcs)).2.2 b hb hbn
  · rintro ⟨hfree, hindex⟩ before c after hcs
    by_cases hn : c.isNamed
    · exact h.verdict_of_isNamed hcs hn
    · have hc : c ∈ cs := by simp [hcs]
      exact (h.verdict_of_not_isNamed hcs hn).mpr ⟨(hfree c hc hn).1, (hfree c hc hn).2,
        fun b hb hbn => hindex before c after hcs b hb hbn hn⟩

end NamedApart

end Verdicts

/-! ## Documents that share a registry -/

/-- Verdicts go by the names that are taken, whether these were taken from the start or by
candidates before. -/
theorem judge_congr {config : Config} {taken taken' : List String} {before before' : List Candidate}
    (h : ∀ n, (n ∈ taken ∨ ∃ b ∈ before, b.name ∉ config.blacklist ∧ b.name = n) ↔
      n ∈ taken' ∨ ∃ b ∈ before', b.name ∉ config.blacklist ∧ b.name = n) (cs : List Candidate) :
    judge config taken before cs = judge config taken' before' cs := by
  induction cs generalizing before before' with
  | nil => rfl
  | cons c cs ih =>
    have hverdict : c.verdict config taken before = c.verdict config taken' before' := by
      simp only [Candidate.verdict, h]
    rw [judge, judge, hverdict, ih fun n => ?_]
    have hn := h n
    simp only [List.mem_append, List.mem_singleton, or_and_right, exists_or, exists_eq_left] at hn ⊢
    rw [← or_assoc, ← or_assoc, hn]

/-- Documents that are built in turn on one registry. -/
inductive BuiltInTurn (config : Config) (r : Registry) :
    List Document → List Built → Registry → Prop where
  | start : BuiltInTurn config r [] [] r
  | build {ds : List Document} {bs : List Built} {r' : Registry} {d : Document} {b : Built} :
    BuiltInTurn config r ds bs r' → (Model.ofDocument config r' d).result = .ok b →
      BuiltInTurn config r (ds ++ [d]) (bs ++ [b]) b.registry

/-- The verdicts on what several documents define, in turn. -/
structure Verdicts (config : Config) (r : Registry) (ds : List Document) (bs : List Built)
    (jss : List (List Judged)) : Prop where
  candidates : List.Forall₂
    (fun d js => d.candidates config.rootPrefix = .ok (js.map (·.candidate))) ds jss
  models : List.Forall₂ (fun b js => b.model.kept = js.flatMap Judged.kept ∧
    b.model.diagnostics = js.flatMap Judged.diagnostics) bs jss
  /-- The verdicts are those on one walk through all documents. -/
  judged : jss.flatten = judge config r.names [] (jss.flatten.map (·.candidate))

theorem Verdicts.exists_document {config : Config} {r : Registry} {ds : List Document}
    {bs : List Built} {jss : List (List Judged)} (h : Verdicts config r ds bs jss)
    {js : List Judged} (hjs : js ∈ jss) :
    ∃ d ∈ ds, d.candidates config.rootPrefix = .ok (js.map (·.candidate)) := by
  obtain ⟨i, hi, rfl⟩ := List.getElem_of_mem hjs
  have hi' : i < ds.length := h.candidates.length_eq ▸ hi
  exact ⟨ds[i], List.getElem_mem hi', h.candidates.get hi' hi⟩

namespace BuiltInTurn

variable {config : Config} {r r' : Registry} {ds : List Document} {bs : List Built}

/-- One more document. Its verdicts go by a registry that knows what was kept before. -/
theorem verdicts_concat {jss : List (List Judged)} (h : Verdicts config r ds bs jss)
    (hnames : r'.names = r.names ++ (jss.flatten.flatMap Judged.kept).map (·.entity.name))
    {d : Document} {b : Built} (hb : (Model.ofDocument config r' d).result = .ok b) :
    ∃ js, Verdicts config r (ds ++ [d]) (bs ++ [b]) (jss ++ [js]) ∧
      b.registry.names = r'.names ++ (js.flatMap Judged.kept).map (·.entity.name) := by
  obtain ⟨header?, cs, hh, hc⟩ := Model.exists_of_ofDocument hb
  have hf := Intake.follows_ofCandidates config r' cs
  rw [Model.ofDocument_eq hh hc] at hb
  have hb := Except.ok.inj hb
  have hjudge : judge config r'.names [] cs =
      judge config r.names (jss.flatten.map (·.candidate)) cs := by
    refine judge_congr (fun n => ?_) cs
    have hkept : jss.flatten.flatMap Judged.kept =
        keptOf config r.names [] (jss.flatten.map (·.candidate)) := by
      rw [keptOf, ← h.judged]
    rw [hnames, List.mem_append, hkept, mem_taken_or_mem_keptOf]
    simp
  refine ⟨judge config r'.names [] cs, ⟨?_, ?_, ?_⟩, ?_⟩
  · exact List.rel_append h.candidates (.cons (by rw [map_candidate_judge, hc]) .nil)
  · refine List.rel_append h.models (.cons ⟨?_, ?_⟩ .nil)
    · rw [← hb]
      exact hf.kept
    · rw [← hb]
      exact hf.diagnostics
  · rw [List.flatten_append, List.flatten_singleton, List.map_append, map_candidate_judge,
      judge_append, ← h.judged, List.nil_append, hjudge]
  · rw [← hb]
    change (Intake.ofCandidates config r' cs).registry.names = _
    rw [Registry.names_of_types_eq hf.types, hf.kept, keptOf, List.map_map]
    rfl

/-- **Documents that are built in turn are judged as one walk through all of them.** -/
theorem exists_verdicts (h : BuiltInTurn config r ds bs r') :
    ∃ jss, Verdicts config r ds bs jss := by
  have hnames : ∃ jss, Verdicts config r ds bs jss ∧
      r'.names = r.names ++ (jss.flatten.flatMap Judged.kept).map (·.entity.name) := by
    induction h with
    | start => exact ⟨[], ⟨.nil, .nil, rfl⟩, by simp⟩
    | build _ hb ih =>
      obtain ⟨jss, hjss, hnames⟩ := ih
      obtain ⟨js, hjs, hbnames⟩ := verdicts_concat hjss hnames hb
      refine ⟨jss ++ [js], hjs, ?_⟩
      rw [hbnames, hnames, List.flatten_append, List.flatten_singleton, List.flatMap_append,
        List.map_append, List.append_assoc]
  obtain ⟨jss, hjss, -⟩ := hnames
  exact ⟨jss, hjss⟩

end BuiltInTurn

/-- The documents at several paths, as far as they can be loaded. -/
def loadable (fs : Files) (paths : List String) : List Document :=
  paths.filterMap fun path => (Document.ofFile fs path).toOption.join

theorem ModelSet.exists_builtInTurn {config : Config} {r : Registry} {fs : Files}
    {paths : List String} (h : (ofFiles config r fs paths).failure = none) :
    ∃ bs, BuiltInTurn config r (loadable fs paths) bs (ofFiles config r fs paths).registry ∧
      (ofFiles config r fs paths).models = bs.map (·.model) := by
  induction paths using List.reverseRecOn with
  | nil => exact ⟨[], .start, rfl⟩
  | append_singleton paths path ih =>
    rw [ofFiles_concat] at h ⊢
    have hf : (ofFiles config r fs paths).failure = none := by
      cases hs : (ofFiles config r fs paths).failure with
      | none => rfl
      | some e =>
        rw [add, hs] at h
        simp [hs] at h
    obtain ⟨bs, hbs, hmodels⟩ := ih hf
    have hload : loadable fs (paths ++ [path]) =
        loadable fs paths ++ (Document.ofFile fs path).toOption.join.toList := by
      rw [loadable, List.filterMap_append, loadable]
      cases h : (Document.ofFile fs path).toOption.join <;> simp [h]
    rw [hload]
    cases hd : Document.ofFile fs path with
    | error e =>
      rw [add, hf, Model.ofFile_eq, hd] at h
      cases h
    | ok d? =>
      cases d? with
      | none =>
        have hnone : (Model.ofFile config .empty fs path).result = .ok none := by
          rw [Model.ofFile_eq, hd]
          rfl
        rw [add_of_none hf hnone]
        exact ⟨bs, (List.append_nil (loadable fs paths)).symm ▸ hbs, hmodels⟩
      | some d =>
        have hresult : (Model.ofFile config (ofFiles config r fs paths).registry fs path).result =
            (Model.ofDocument config (ofFiles config r fs paths).registry d).result.map some := by
          rw [Model.ofFile_eq, hd]
        cases hb : (Model.ofDocument config (ofFiles config r fs paths).registry d).result with
        | error e =>
          rw [hb] at hresult
          rw [add, hf] at h
          simp [hresult, Except.map] at h
        | ok b =>
          rw [hb] at hresult
          rw [add_of_some hf hresult]
          exact ⟨bs ++ [b], hbs.build hb, by simp [hmodels]⟩

theorem Document.name_ne_of_category_eq {d : Document} {rootPrefix : String} {cs : List Candidate}
    (h : d.candidates rootPrefix = .ok cs) :
    cs.Pairwise fun b c =>
      ¬b.isNamed → ¬c.isNamed → b.category = c.category → b.name ≠ c.name := by
  obtain ⟨selected, -, rfl⟩ := exists_of_candidates h
  refine (pairwise_candidatesOf _).imp ?_
  intro b c hindex hb hc hcategory hname
  exact hindex hcategory ((Candidate.name_eq_iff hb hc).mp hname)

/-- **What becomes of definitions without names.** Several documents, or one, are built on one
registry. Inside a category of a document, definitions without names are never called the same. In
all documents together, one that is kept swallows a later one just if they are at the same position,
each in its own category and document. So if the names that there are raise no doubts, those that
have one are kept; one without is kept if the name that is made for it is neither blacklisted nor
known from the start and none before it has its position; and all are kept if this holds of all
those without names. -/
theorem BuiltInTurn.nameless_share_positions {config : Config} {r r' : Registry}
    {ds : List Document} {bs : List Built} (h : BuiltInTurn config r ds bs r') :
    ∃ (jss : List (List Judged)) (cs : List Candidate),
      Verdicts config r ds bs jss ∧ cs = jss.flatten.map (·.candidate) ∧
      (∀ js ∈ jss, (js.map (·.candidate)).Pairwise fun b c =>
        ¬b.isNamed → ¬c.isNamed → b.category = c.category → b.name ≠ c.name) ∧
      (∀ before b between c after, cs = before ++ b :: (between ++ c :: after) →
        ¬b.isNamed → ¬c.isNamed →
          (Swallows config r.names before b between c ↔
            b.verdict config r.names before = .kept ∧ b.index = c.index)) ∧
      (NamedApart config r.names (presentNames cs) →
        (∀ before c after, cs = before ++ c :: after →
          (c.verdict config r.names before = .kept ↔
            c.isNamed ∨ c.name ∉ config.blacklist ∧ c.name ∉ r.names ∧
              ∀ b ∈ before, ¬b.isNamed → b.index ≠ c.index)) ∧
        ((∀ j ∈ jss.flatten, j.verdict = .kept) ↔
          (∀ c ∈ cs, ¬c.isNamed → c.name ∉ config.blacklist ∧ c.name ∉ r.names) ∧
            cs.Pairwise fun b c => ¬b.isNamed → ¬c.isNamed → b.index ≠ c.index)) := by
  obtain ⟨jss, hjss⟩ := h.exists_verdicts
  refine ⟨jss, _, hjss, rfl, fun js hjs => ?_, fun _ _ _ _ _ _ hb hc => swallows_iff hb hc,
    fun hapart => ⟨fun before c after hcs => ?_, ?_⟩⟩
  · obtain ⟨d, -, hd⟩ := hjss.exists_document hjs
    exact Document.name_ne_of_category_eq hd
  · by_cases hn : c.isNamed
    · exact iff_of_true (hapart.verdict_of_isNamed hcs hn) (.inl hn)
    · rw [hapart.verdict_of_not_isNamed hcs hn, or_iff_right hn]
  · have hall := hapart.forall_kept_iff
    rwa [← hjss.judged] at hall

/-! ## Some documents -/

/-- What the name of a candidate is made of. -/
def Candidate.sketch (c : Candidate) : Option String × Nat :=
  (c.element.attribute? "name", c.index)

theorem presentNames_eq (cs : List Candidate) :
    presentNames cs = (cs.map Candidate.sketch).filterMap Prod.fst := by
  rw [List.filterMap_map]
  rfl

/-- A document that defines an alias without a name and a record. -/
def bareAlias : String := "<r><n><alias/><record name=\"A\"/></n></r>"

/-- A document that defines two constants without names. -/
def bareConstants : String := "<r><n><constant/><constant/></n></r>"

/-- The alias of one document swallows the first constant of the other, but not the second one. -/
theorem nameless_of_bareConstants :
    ∃ d₁ d₂ b₁ b₂, Document.loadText bareAlias = .ok (some d₁) ∧
      Document.loadText bareConstants = .ok (some d₂) ∧
      BuiltInTurn {} .empty [d₁, d₂] [b₁, b₂] b₂.registry ∧
      b₁.model.types.map Entity.name = ["Unknown0", "A"] ∧
      b₂.model.types.map Entity.name = ["Unknown1"] ∧
      ∃ jss, Verdicts {} .empty [d₁, d₂] [b₁, b₂] jss ∧
        NamedApart {} [] (presentNames (jss.flatten.map (·.candidate))) ∧
        ¬∀ j ∈ jss.flatten, j.verdict = .kept := by
  have hok : (Document.loadText bareAlias).toOption.join.any (fun d₁ =>
      (Document.loadText bareConstants).toOption.join.any fun d₂ =>
        (Model.ofDocument {} .empty d₁).result.toOption.any fun b₁ =>
          (Model.ofDocument {} b₁.registry d₂).result.toOption.any fun b₂ =>
            (b₁.model.types.map Entity.name, b₂.model.types.map Entity.name) =
                (["Unknown0", "A"], ["Unknown1"]) &&
              ((d₁.candidates "gir").toOption.map (·.map Candidate.sketch),
                (d₂.candidates "gir").toOption.map (·.map Candidate.sketch)) =
                (some [(none, 0), (some "A", 0)], some [(none, 0), (none, 1)])) := by
    decide +kernel
  obtain ⟨d₁, hd₁, hok⟩ := exists_of_any_join hok
  obtain ⟨d₂, hd₂, hok⟩ := exists_of_any_join hok
  obtain ⟨b₁, hb₁, hok⟩ := exists_of_any hok
  obtain ⟨b₂, hb₂, hok⟩ := exists_of_any hok
  simp only [Bool.and_eq_true, decide_eq_true_eq, Prod.mk.injEq] at hok
  obtain ⟨⟨hnames₁, hnames₂⟩, hsketch₁, hsketch₂⟩ := hok
  have hturn : BuiltInTurn {} .empty [d₁, d₂] [b₁, b₂] b₂.registry :=
    .build (.build .start hb₁) hb₂
  obtain ⟨jss, cs, hv, hcs, -, -, hall⟩ := hturn.nameless_share_positions
  have hsketch : cs.map Candidate.sketch = [(none, 0), (some "A", 0), (none, 0), (none, 1)] := by
    rw [hcs]
    rcases hv.candidates with _ | ⟨h₁, _ | ⟨h₂, ⟨⟩⟩⟩
    rw [h₁] at hsketch₁
    rw [h₂] at hsketch₂
    have hsketch₁ := Option.some.inj hsketch₁
    have hsketch₂ := Option.some.inj hsketch₂
    simp only [List.flatten_cons, List.flatten_nil, List.append_nil, List.map_append, hsketch₁,
      hsketch₂]
    rfl
  have hpresent : presentNames cs = ["A"] := by
    rw [presentNames_eq, hsketch]
    rfl
  have hapart : NamedApart {} [] (presentNames cs) := by
    rw [hpresent]
    refine ⟨by simp, fun n hn => ?_⟩
    rw [List.mem_singleton.mp hn]
    refine ⟨by decide, by decide, by decide, fun i hi => ?_⟩
    -- The names that are made from positions begin with another letter.
    have hhead := congrArg (·.toList.head?) hi
    simp [unknownName] at hhead
  refine ⟨d₁, d₂, b₁, b₂, hd₁, hd₂, hturn, hnames₁, hnames₂, jss, hv, hcs ▸ hapart,
    fun hkept => ?_⟩
  have hindex := ((hall hapart).2.mp hkept).2
  have hpairwise : (cs.map Candidate.sketch).Pairwise fun p q =>
      p.1 = none → q.1 = none → p.2 ≠ q.2 := by
    rw [List.pairwise_map]
    refine hindex.imp ?_
    intro b c h hb hc
    exact h (Option.not_isSome_iff_eq_none.mpr hb) (Option.not_isSome_iff_eq_none.mpr hc)
  rw [hsketch] at hpairwise
  exact absurd hpairwise (by decide)

/-- A document that defines an alias and a constant, both without a name. -/
def bareKinds : String := "<r><n><alias/><constant/></n></r>"

/-- The constant is dropped as a duplicate of the alias. -/
theorem nameless_of_bareKinds :
    (Document.loadText bareKinds).toOption.join.bind (fun d =>
        (Model.ofDocument {} .empty d).result.toOption.map fun b =>
          ((d.candidates "gir").toOption.map (·.map Candidate.sketch),
            b.model.types.map Entity.kind?,
            b.model.diagnostics.filter (·.kind = .duplicateDefinition))) =
      some (some [(none, 0), (none, 0)], [some .typeAlias],
        [.duplicate .constant "Unknown0" 0]) := by
  decide +kernel

end Introspection
