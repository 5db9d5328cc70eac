import Introspection.Cache.Parser
import Introspection.Proofs.Cache.Basic
import Introspection.Proofs.Files.Changes

/-!
# What a parser with a cache does

* `Model.ofFile_congr`, `Model.exists_file_of_ofFile`: the model of a file depends on what the path
  denotes and on what the file holds;
* `Parser.rebuild_result`, `Parser.rebuild_cache`, `Parser.mem_of_mem_rebuild`: building anew;
* `Parser.remembered?_cases`: looking a model up;
* `Parser.exists_entry_of_parseAt`: the entry of a model that is given.
-/

namespace Introspection

/-! ## Models of files -/

theorem Document.ofFile_congr {fs fs' : Files} {path path' : String} {f f' : File}
    (hp : Path.ofText path = Path.ofText path') (hn : '\x00' ∉ path.toList)
    (hn' : '\x00' ∉ path'.toList) (hf : fs.find? (Path.ofText path) = some f)
    (hf' : fs'.find? (Path.ofText path') = some f') (hb : f.bytes = f'.bytes) :
    Document.ofFile fs path = Document.ofFile fs' path' := by
  rw [hp] at hf
  simp only [Document.ofFile, if_neg hn, if_neg hn', hp, hf, hf', hb]

namespace Model

variable {config : Config} {r : Registry} {fs fs' : Files} {path path' : String}

theorem ofFile_congr (h : Document.ofFile fs path = Document.ofFile fs' path') :
    ofFile config r fs path = ofFile config r fs' path' := by
  rw [ofFile, ofFile, h]

theorem exists_file_of_ofFile {b : Built} (h : (ofFile config r fs path).result = .ok (some b)) :
    '\x00' ∉ path.toList ∧ ∃ f, fs.find? (Path.ofText path) = some f := by
  rw [ofFile, Document.ofFile] at h
  by_cases hn : '\x00' ∈ path.toList
  · rw [if_pos hn] at h
    cases h
  · rw [if_neg hn] at h
    cases hf : fs.find? (Path.ofText path) with
    | none => rw [hf] at h; cases h
    | some f => exact ⟨hn, f, rfl⟩

end Model

/-! ## Parsers -/

namespace Parser

variable {β : Type} {p : Parser} {cache : Cache (Cached β)} {now : Float} {fs : Files}
  {path : String}

theorem rebuild_result :
    (p.rebuild cache now fs path).2.result.map (·.map Parsed.toBuilt) =
      (Model.ofFile p.config .empty fs path).result := by
  rw [rebuild]
  cases hr : (Model.ofFile p.config .empty fs path).result with
  | error e => rfl
  | ok b? =>
    cases b? with
    | none => rfl
    | some b =>
      -- There is a file, so it is no folder that is to be stored.
      obtain ⟨-, f, hf⟩ := Model.exists_file_of_ofFile hr
      simp only [Files.found?_of_find? hf, Cache.setFound?]
      rfl

theorem rebuild_cache (h : ∀ b, (Model.ofFile p.config .empty fs path).result ≠ .ok (some b)) :
    (p.rebuild cache now fs path).1 = cache := by
  rw [rebuild]
  cases hr : (Model.ofFile p.config .empty fs path).result with
  | error e => rfl
  | ok b? =>
    cases b? with
    | none => rfl
    | some b => exact absurd hr (h b)

/-- What is stored is what is built from the file that is there. -/
theorem mem_of_mem_rebuild {x : String × CacheEntry (Cached β)}
    (h : x ∈ (p.rebuild cache now fs path).1.entries) :
    x ∈ cache.entries ∨ ∃ b f, (Model.ofFile p.config .empty fs path).result = .ok (some b) ∧
      fs.find? (Path.ofText path) = some f ∧ x.1 = p.key path ∧ x.2.data = .model b ∧
        x.2.modified = f.modified ∧ x.2.tag = Md5.hex f.bytes := by
  cases hr : (Model.ofFile p.config .empty fs path).result with
  | error e =>
    rw [rebuild_cache (by simp [hr])] at h
    exact .inl h
  | ok b? =>
    cases b? with
    | none =>
      rw [rebuild_cache (by simp [hr])] at h
      exact .inl h
    | some b =>
      obtain ⟨-, f, hf⟩ := Model.exists_file_of_ofFile hr
      have hset : (p.rebuild cache now fs path).1 =
          cache.set now (p.key path) (.model b) none (some f) := by
        rw [rebuild]
        simp only [hr, Files.found?_of_find? hf, Cache.setFound?]
      rw [hset] at h
      refine (Cache.eq_or_mem_of_mem_set h).imp_right fun ⟨hkey, hdata, hmodified, htag⟩ => ?_
      exact ⟨b, f, rfl, hf, hkey, hdata, hmodified, htag⟩

/-- A look-up leaves the cache alone, or there is an entry that is not stale. -/
theorem remembered?_cases (cache : Cache (Cached β)) (now : Float) (key : String)
    (found : Option Found) :
    remembered? cache now key found = (cache, none) ∨
      ∃ e x, cache.lookup key = some e ∧ found = some x ∧ x.modified ≤ e.modified ∧
        (remembered? cache now key found).1.entries ⊆ cache.entries ∧
        ∀ b, (remembered? cache now key found).2 = some b →
          e.data = .model b ∧ Cache.lookup (remembered? cache now key found).1 key = some e := by
  rw [remembered?]
  by_cases hs : cache.isStale key found
  · rw [if_pos hs]
    exact .inl rfl
  · rw [if_neg hs]
    obtain ⟨e, x, he, hx, hm⟩ := Cache.exists_of_not_isStale hs
    have hsub := Cache.entries_get_subset (c := cache) now key
    refine .inr ⟨e, x, he, hx, hm, ?_, ?_⟩
    · split
      · rename_i heq
        rw [heq] at hsub
        exact hsub
      · rename_i heq
        rw [heq] at hsub
        exact hsub
    · intro b hb
      split at hb
      · rename_i b' heq
        have hgot : (cache.get now key).2 = some (.model b') := by rw [heq]
        have hkept := Cache.entries_of_get hgot
        rw [heq] at hkept
        rw [← Option.some.inj hb]
        refine ⟨(Cache.data_of_get he hgot).symm, ?_⟩
        rwa [Cache.lookup, hkept]
      · cases hb

theorem exists_entry_of_rebuild {y : Parsed}
    (h : (p.rebuild cache now fs path).2.result = .ok (some y)) :
    ∃ e x, Cache.lookup (p.rebuild cache now fs path).1 (p.key path) = some e ∧
      fs.found? (Path.ofText path) = some x ∧ x.modified ≤ e.modified := by
  have hbuilt : (Model.ofFile p.config .empty fs path).result = .ok (some y.toBuilt) := by
    rw [← rebuild_result, h]
    rfl
  obtain ⟨-, f, hf⟩ := Model.exists_file_of_ofFile hbuilt
  have hx := Files.found?_of_find? hf
  obtain ⟨e, he, hm⟩ := cache.exists_of_set now (p.key path) (.model y.toBuilt) none (some f)
  refine ⟨e, .file f, ?_, hx, hm ▸ Rat.le_refl⟩
  rw [rebuild]
  simp only [hbuilt, hx, Cache.setFound?]
  exact he

theorem exists_entry_of_parseAt {refresh : Bool} {y : Parsed}
    (h : (p.parseAt cache now fs path refresh).2.result = .ok (some y)) :
    ∃ e x, Cache.lookup (p.parseAt cache now fs path refresh).1 (p.key path) = some e ∧
      fs.found? (Path.ofText path) = some x ∧ x.modified ≤ e.modified := by
  rw [parseAt] at h ⊢
  cases refresh with
  | true => exact exists_entry_of_rebuild h
  | false =>
    rw [if_neg (by decide)] at h ⊢
    rcases remembered?_cases cache now (p.key path) (fs.found? (Path.ofText path)) with
      hr | ⟨e, x, -, hx, hm, -, hkept⟩
    · rw [hr] at h ⊢
      exact exists_entry_of_rebuild h
    · split at h
      · rename_i b heq
        rw [heq] at hkept
        exact ⟨e, x, (hkept b rfl).2, hx, hm⟩
      · exact exists_entry_of_rebuild h

end Parser

end Introspection
