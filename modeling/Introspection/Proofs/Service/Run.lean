import Introspection.Proofs.Cache.Transparent
import Introspection.Service.Repository

/-!
# Runs of repositories with one cache

Repositories are constructed while files change and time goes by.

* `Event`, `World.occur`: what can happen, and what there is afterwards;
* `World.occur_eq_step`: a construction does to the cache what parsing the document does;
* `Served`, `World.served`: the repositories that come to be in a run, with their files;
* `World.exists_of_mem_served`: the moment at which one of them came to be;
* `Built.IsNew`, **`World.isNew_of_mem_served`**: their models were built with nothing registered.
-/

namespace Introspection

/-! ## Events -/

/-- What can happen around repositories. -/
inductive Event where
  | write (path : String) (file : File) (time : Rat)
  | delete (path : String) (time : Rat)
  | advance (time : Float)
  | construct (path : Option String) (config : Config)

/-- The step that an event is for the cache. -/
def Event.toStep : Event → Step
  | .write path file time => .write path file time
  | .delete path time => .delete path time
  | .advance time => .advance time
  | .construct path config => .parse { config } (path.filter (· ≠ "")) false

/-- A repository with the file that it was constructed from, if there is one. -/
structure Served where
  repository : Repository
  file : Option File

namespace World

variable {β : Type}

/-- What there is after an event. -/
def occur (w : World β) : Event → World β
  | .write path file time => w.step (.write path file time)
  | .delete path time => w.step (.delete path time)
  | .advance time => w.step (.advance time)
  | .construct path config =>
    { w with cache := (Repository.ofPath w.cache w.now w.files path config).1 }

/-- The repository that comes to be by an event. -/
def constructed? (w : World β) : Event → Option Served
  | .construct path config =>
    match (Repository.ofPath w.cache w.now w.files path config).2.result with
    | .ok r => some ⟨r, r.path.bind fun p => w.files.find? (Path.ofText p)⟩
    | .error _ => none
  | _ => none

/-- Nothing has happened. -/
def fresh : World Unit := ⟨.empty _ 5, 0, {}⟩

/-- The repositories that come to be by events, in order. -/
def served (w : World β) : List Event → List Served
  | [] => []
  | e :: es => (w.constructed? e).toList ++ (w.occur e).served es

end World

/-! ## Constructions -/

namespace Repository

variable {β : Type} {cache : Cache (Cached β)} {now : Float} {fs : Files} {path : Option String}
  {config : Config}

theorem path_ofBuilt (config : Config) (path digest : Option String) (b : Built) :
    (ofBuilt config path digest b).path = path := rfl

theorem exists_of_ofEmbedded {r : Repository} (h : (ofEmbedded config).result = .ok r) :
    ∃ d b, Document.loadText embeddedText = .ok (some d) ∧
      (Model.ofDocument config .empty d).result = .ok b ∧ r = ofBuilt config none none b := by
  rw [ofEmbedded] at h
  obtain ⟨d?, hd, h⟩ := Outcome.exists_of_bind h
  cases d? with
  | none => cases h
  | some d =>
    obtain ⟨b, hb, h⟩ := Outcome.exists_of_bind h
    exact ⟨d, b, hd, hb, (Except.ok.inj h).symm⟩

theorem ofPath_of_none (h : path.filter (· ≠ "") = none) :
    ofPath cache now fs path config = (cache, ofEmbedded config) := by
  rw [ofPath, h]

theorem cache_ofPath_of_some {p : String} (h : path.filter (· ≠ "") = some p) :
    (ofPath cache now fs path config).1 = (Parser.parseAt { config } cache now fs p false).1 := by
  rw [ofPath, h]
  rfl

theorem result_ofPath_of_unusable {p : String} (h : path.filter (· ≠ "") = some p)
    (hx : (Parser.parseAt { config } cache now fs p false).2.result = .ok none) :
    (ofPath cache now fs path config).2.result = (ofEmbedded config).result := by
  have hwarned : (Outcome.warn (.fallingBack (Path.ofText p).text) >>= fun _ =>
      ofEmbedded config).result = (ofEmbedded config).result :=
    Outcome.result_bind rfl fun _ => ofEmbedded config
  rw [ofPath, h]
  exact (Outcome.result_bind hx _).trans hwarned

theorem exists_of_ofPath {r : Repository}
    (h : (ofPath cache now fs path config).2.result = .ok r) :
    (ofEmbedded config).result = .ok r ∨
      ∃ p x, path.filter (· ≠ "") = some p ∧
        (Parser.parseAt { config } cache now fs p false).2.result = .ok (some x) ∧
        r = ofBuilt config (some (Path.ofText p).text)
          (some ((Parser.parseAt { config } cache now fs p false).1.tag
            (Parser.key { config } p))) x.toBuilt := by
  cases hp : path.filter (· ≠ "") with
  | none =>
    rw [ofPath_of_none hp] at h
    exact .inl h
  | some p =>
    have hparsed := h
    rw [ofPath, hp] at hparsed
    obtain ⟨x?, hx, hmade⟩ := Outcome.exists_of_bind hparsed
    cases x? with
    | none => exact .inl ((result_ofPath_of_unusable hp hx).symm.trans h)
    | some x => exact .inr ⟨p, x, rfl, hx, (Except.ok.inj hmade).symm⟩

end Repository

namespace World

variable {β : Type} {w : World β}

/-- **A construction does to the cache what parsing the document does.** -/
theorem occur_eq_step (w : World β) (e : Event) : w.occur e = w.step e.toStep := by
  cases e with
  | construct path config =>
    cases hp : path.filter (· ≠ "") with
    | none =>
      have hstep : Event.toStep (.construct path config) = .parse { config } none false := by
        rw [Event.toStep, hp]
      rw [occur, Repository.ofPath_of_none hp, hstep]
      rfl
    | some p =>
      have hstep : Event.toStep (.construct path config) = .parse { config } (some p) false := by
        rw [Event.toStep, hp]
      rw [occur, Repository.cache_ofPath_of_some hp, hstep]
      rfl
  | _ => rfl

theorem foldl_occur_eq_run (es : List Event) :
    es.foldl occur w = w.run (es.map Event.toStep) := by
  induction es generalizing w with
  | nil => rfl
  | cons e es ih =>
    rw [List.foldl_cons, ih, occur_eq_step, List.map_cons, run, run, List.foldl_cons]

theorem exists_of_mem_served {es : List Event} {s : Served} (h : s ∈ w.served es) :
    ∃ before path config after, es = before ++ .construct path config :: after ∧
      (before.foldl occur w).constructed? (.construct path config) = some s := by
  induction es generalizing w with
  | nil => cases h
  | cons e es ih =>
    rw [served, List.mem_append, Option.mem_toList] at h
    rcases h with h | h
    · cases e with
      | construct path config => exact ⟨[], path, config, es, rfl, h⟩
      | _ => cases h
    · obtain ⟨before, path, config, after, rfl, hs⟩ := ih h
      exact ⟨e :: before, path, config, after, rfl, hs⟩

theorem exists_of_constructed? {path : Option String} {config : Config} {s : Served}
    (h : w.constructed? (.construct path config) = some s) :
    (Repository.ofPath w.cache w.now w.files path config).2.result = .ok s.repository ∧
      s.file = s.repository.path.bind fun p => w.files.find? (Path.ofText p) := by
  rw [constructed?] at h
  cases hr : (Repository.ofPath w.cache w.now w.files path config).2.result with
  | error e => rw [hr] at h; cases h
  | ok r =>
    rw [hr] at h
    rw [← Option.some.inj h]
    exact ⟨rfl, rfl⟩

end World

/-! ## Models -/

/-- A model was built from a document with nothing registered. -/
def Built.IsNew (b : Built) : Prop :=
  ∃ config d, (Model.ofDocument config .empty d).result = .ok b

theorem Model.isNew_of_ofFile {config : Config} {fs : Files} {path : String} {b : Built}
    (h : (ofFile config .empty fs path).result = .ok (some b)) : b.IsNew := by
  rw [ofFile] at h
  obtain ⟨d?, -, h⟩ := Outcome.exists_of_bind h
  cases d? with
  | none => cases h
  | some d =>
    obtain ⟨b', hb, h⟩ := Outcome.exists_of_bind h
    exact ⟨config, d, Option.some.inj (Except.ok.inj h) ▸ hb⟩

namespace World

variable {β : Type} {w : World β}

/-- The cache holds nothing but models that were built with nothing registered. -/
def Stocked (w : World β) : Prop := ∀ x ∈ w.cache.entries, ∃ b, x.2.data = .model b ∧ b.IsNew

namespace Stocked

variable {p : Parser} {path : String}

theorem rebuild (h : Stocked w) {cache : Cache (Cached β)}
    (hc : cache.entries ⊆ w.cache.entries) :
    Stocked { w with cache := (p.rebuild cache w.now w.files path).1 } ∧
      ∀ x, (p.rebuild cache w.now w.files path).2.result = .ok (some x) → x.toBuilt.IsNew := by
  refine ⟨fun x hx => ?_, fun x hx => ?_⟩
  · rcases Parser.mem_of_mem_rebuild hx with hx | ⟨b, f, hb, -, -, hdata, -, -⟩
    · exact h x (hc hx)
    · exact ⟨b, hdata, Model.isNew_of_ofFile hb⟩
  · have hbuilt : (Model.ofFile p.config .empty w.files path).result = .ok (some x.toBuilt) := by
      rw [← Parser.rebuild_result, hx]
      rfl
    exact Model.isNew_of_ofFile hbuilt

theorem parseAt (h : Stocked w) (refresh : Bool) :
    Stocked { w with cache := (p.parseAt w.cache w.now w.files path refresh).1 } ∧
      ∀ x, (p.parseAt w.cache w.now w.files path refresh).2.result = .ok (some x) →
        x.toBuilt.IsNew := by
  rw [Parser.parseAt]
  cases refresh with
  | true => exact h.rebuild (List.Subset.refl _)
  | false =>
    rw [if_neg (by decide)]
    rcases Parser.remembered?_cases w.cache w.now (p.key path)
      (w.files.found? (Path.ofText path)) with hr | ⟨e, -, he, -, -, hsub, hdata⟩
    · rw [hr]
      exact h.rebuild (List.Subset.refl _)
    · -- What an entry holds is given back if it is a model, and else the model is built.
      split
      · rename_i b heq
        rw [heq] at hsub hdata
        obtain ⟨b', hb', hnew⟩ := h _ (Cache.mem_of_lookup he)
        have hb := (hdata b rfl).1
        rw [hb'] at hb
        refine ⟨fun x hx => h x (hsub hx), fun x hx => ?_⟩
        rw [← Option.some.inj (Except.ok.inj hx)]
        exact Cached.model.inj hb ▸ hnew
      · rename_i heq
        rw [heq] at hsub
        exact h.rebuild hsub

theorem occur (h : Stocked w) (e : Event) : Stocked (w.occur e) := by
  cases e with
  | construct path config =>
    rw [World.occur]
    cases hp : path.filter (· ≠ "") with
    | none =>
      rw [Repository.ofPath_of_none hp]
      exact h
    | some p =>
      rw [Repository.cache_ofPath_of_some hp]
      exact (h.parseAt false).1
  | _ => exact h

theorem foldl_occur (h : Stocked w) (es : List Event) : Stocked (es.foldl World.occur w) := by
  induction es generalizing w with
  | nil => exact h
  | cons e es ih => exact ih (h.occur e)

end Stocked

/-- **The repositories of a run hold models that were built with nothing registered.** -/
theorem isNew_of_mem_served {w₀ : World β} (hempty : w₀.cache.entries = []) {es : List Event}
    {s : Served} (hs : s ∈ w₀.served es) :
    ∃ config path digest b, s.repository = .ofBuilt config path digest b ∧ b.IsNew := by
  have hstart : Stocked w₀ := by
    intro x hx
    rw [hempty] at hx
    cases hx
  obtain ⟨before, path, config, after, rfl, hmade⟩ := exists_of_mem_served hs
  have hstocked := hstart.foldl_occur before
  obtain ⟨hr, -⟩ := exists_of_constructed? hmade
  generalize before.foldl World.occur w₀ = w at hstocked hr
  rcases Repository.exists_of_ofPath hr with he | ⟨p, x, -, hx, hrepo⟩
  · obtain ⟨d, b, -, hb, hrepo⟩ := Repository.exists_of_ofEmbedded he
    exact ⟨config, none, none, b, hrepo, config, d, hb⟩
  · exact ⟨_, _, _, _, hrepo, (hstocked.parseAt false).2 x hx⟩

end World

end Introspection
