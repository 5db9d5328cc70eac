import Introspection.Proofs.Cache.Parser
import Introspection.Proofs.Cache.Run
import Introspection.Proofs.Model.First

/-!
# Caches that no one notices

Parsers that share a cache give what they would give without it, as long as files are only written
later than what was at their place before and digests tell the texts of keys apart. A folder may
come in place of a file; then it has to be later as well, or it is taken for the file as it was.

* `Origin`, `Traced`: how a cached model came to be, and what is still true of it;
* `World.Sound`: every cached model can be traced back;
* **`World.Sound.step`**, `World.Sound.run`: nothing that happens changes that;
* **`World.parse_eq_uncached`**: what parsers give.
-/

namespace Introspection

variable {β : Type}

/-! ## Origins -/

/-- How a cached model came to be. -/
structure Origin where
  path : String
  config : Config
  files : Files
  file : File
  place : Path
  built : Built

/-- A cached model was built from a file, and nothing else is at the place of that file unless it is
newer. -/
structure Traced (texts : List String) (seen : Times) (fs : Files) (key : String)
    (e : CacheEntry (Cached β)) (o : Origin) : Prop where
  key_eq : key = modelKey (Path.ofText o.path).text o.config
  text_mem : keyText (modelKeyParts (Path.ofText o.path).text o.config) ∈ texts
  data : e.data = .model o.built
  tag : e.tag = Md5.hex o.file.bytes
  built : (Model.ofFile o.config .empty o.files o.path).result = .ok (some o.built)
  found : o.files.find? (Path.ofText o.path) = some o.file
  located : fs.locate? (Path.ofText o.path) = some o.place
  seen : (o.place, e.modified) ∈ seen
  unchanged : ∀ x, fs.at? o.place = some x → x.modified ≤ e.modified →
    ∃ f, x = .file f ∧ f.bytes = o.file.bytes

namespace Traced

variable {texts : List String} {seen : Times} {fs : Files} {key : String}
  {e : CacheEntry (Cached β)} {o : Origin}

theorem write (h : Traced texts seen fs key e o) {p : Path} {file : File} {time : Rat}
    (hnew : ∀ m, (Files.place p, m) ∈ seen → m < file.modified)
    (hway : ∀ q ∈ Files.way p, ∀ m, (q, m) ∈ seen → m < time) :
    Traced texts ((Files.place p, file.modified) :: seen) (fs.write p file time) key e o :=
  { h with
    located := Files.locate?_of_hasFolder (fun _ => Files.hasFolder_write p file time) h.located
    seen := List.mem_cons_of_mem _ h.seen
    unchanged := by
      intro x hx hm
      rcases fs.at?_write p file time with heq | ⟨-, hat⟩
      · rw [heq] at hx
        exact h.unchanged x hx hm
      · rw [hat] at hx
        split at hx
        · rename_i hp
          rw [← Option.some.inj hx] at hm
          exact absurd hm (Rat.not_le.mpr (hnew _ (hp ▸ h.seen)))
        · split at hx
          · rename_i hg
            rw [← Option.some.inj hx] at hm
            exact absurd hm (Rat.not_le.mpr (hway _ (Files.grown_subset_way p hg) _ h.seen))
          · exact h.unchanged x hx hm }

theorem delete (h : Traced texts seen fs key e o) {p : Path} {time : Rat}
    (hway : ∀ q ∈ Files.way p, ∀ m, (q, m) ∈ seen → m < time) :
    Traced texts seen (fs.delete p time) key e o :=
  { h with
    located := Files.locate?_of_hasFolder (fun _ => Files.hasFolder_delete p time) h.located
    unchanged := by
      intro x hx hm
      rcases fs.at?_delete p time with heq | ⟨q, -, hat⟩
      · rw [heq] at hx
        exact h.unchanged x hx hm
      · rw [hat] at hx
        split at hx
        · rename_i hholder
          rw [← Option.some.inj hx] at hm
          have hlater := hway _ (List.mem_of_getLast? hholder) _ h.seen
          exact absurd hm (Rat.not_le.mpr hlater)
        · split at hx
          · cases hx
          · exact h.unchanged x hx hm }

theorem exists_file (h : Traced texts seen fs key e o) {path : String} {x : Found}
    (hp : Path.ofText path = Path.ofText o.path) (hx : fs.found? (Path.ofText path) = some x)
    (hm : x.modified ≤ e.modified) :
    ∃ f, fs.find? (Path.ofText path) = some f ∧ f.bytes = o.file.bytes := by
  have hat := hx
  rw [Files.found?, hp, h.located, Option.bind_some] at hat
  obtain ⟨f, rfl, hb⟩ := h.unchanged x hat hm
  exact ⟨f, Files.find?_of_found? hx, hb⟩

theorem ofFile_eq (h : Traced texts seen fs key e o) {path : String} {x : Found}
    (hp : Path.ofText path = Path.ofText o.path) (hx : fs.found? (Path.ofText path) = some x)
    (hm : x.modified ≤ e.modified) :
    (Model.ofFile o.config .empty fs path).result = .ok (some o.built) := by
  obtain ⟨f, hf, hb⟩ := h.exists_file hp hx hm
  have hno := (Model.exists_file_of_ofFile h.built).1
  have hn : '\x00' ∉ path.toList := by
    rwa [Path.null_mem_iff, hp, ← Path.null_mem_iff]
  have hdoc := Document.ofFile_congr hp hn hno hf h.found hb
  rw [Model.ofFile_congr hdoc, h.built]

end Traced

/-! ## Sound caches -/

namespace World

/-- The digest tells texts apart. -/
def Injective (texts : List String) : Prop :=
  ∀ s ∈ texts, ∀ t ∈ texts, Md5.ofText s = Md5.ofText t → s = t

/-- Every cached model can be traced back. -/
structure Sound (texts : List String) (seen : Times) (w : World β) : Prop where
  times : ∀ q f, (q, .file f) ∈ w.files.places → (q, f.modified) ∈ seen
  entries : ∀ x ∈ w.cache.entries, ∃ o, Traced texts seen w.files x.1 x.2 o

namespace Sound

variable {texts : List String} {seen : Times} {w : World β}

theorem start (h : w.cache.entries = []) : Sound texts w.files.times w := by
  refine ⟨fun q f hf => List.mem_filterMap.mpr ⟨_, hf, rfl⟩, fun x hx => ?_⟩
  rw [h] at hx
  cases hx

theorem of_subset (h : Sound texts seen w) {cache : Cache (Cached β)}
    (hc : cache.entries ⊆ w.cache.entries) : Sound texts seen { w with cache } :=
  ⟨h.times, fun x hx => h.entries x (hc hx)⟩

/-- What is found was built under the configuration and from the path that it is found for. -/
theorem exists_origin (h : Sound texts seen w) (hi : Injective texts) {p : Parser} {path : String}
    (ht : keyText (modelKeyParts (Path.ofText path).text p.config) ∈ texts)
    {e : CacheEntry (Cached β)} (he : w.cache.lookup (p.key path) = some e) :
    ∃ o, Traced texts seen w.files (p.key path) e o ∧ p.config = o.config ∧
      Path.ofText path = Path.ofText o.path := by
  obtain ⟨o, ho⟩ := h.entries _ (Cache.mem_of_lookup he)
  obtain ⟨htext, hconfig⟩ := keyText_modelKeyParts_inj (hi _ ht _ ho.text_mem ho.key_eq)
  exact ⟨o, ho, hconfig, Path.text_inj (Path.normal_ofText path) (Path.normal_ofText o.path) htext⟩

/-- What is found and not stale is what is built now. -/
theorem exists_built (h : Sound texts seen w) (hi : Injective texts) {p : Parser} {path : String}
    (ht : keyText (modelKeyParts (Path.ofText path).text p.config) ∈ texts)
    {e : CacheEntry (Cached β)} {x : Found} (he : w.cache.lookup (p.key path) = some e)
    (hx : w.files.found? (Path.ofText path) = some x) (hm : x.modified ≤ e.modified) :
    ∃ b, e.data = .model b ∧ (Model.ofFile p.config .empty w.files path).result = .ok (some b) := by
  obtain ⟨o, ho, hconfig, hp⟩ := h.exists_origin hi ht he
  refine ⟨o.built, ho.data, ?_⟩
  rw [hconfig]
  exact ho.ofFile_eq hp hx hm

theorem exists_of_map_toBuilt {x : Except Failure (Option Parsed)} {b : Built}
    (h : x.map (·.map Parsed.toBuilt) = .ok (some b)) : ∃ y, x = .ok (some y) := by
  cases x with
  | error e => cases h
  | ok y? =>
    cases y? with
    | none => cases h
    | some y => exact ⟨y, rfl⟩

section ParseAt

variable (h : Sound texts seen w) (hi : Injective texts) {p : Parser} {path : String}
  (ht : keyText (modelKeyParts (Path.ofText path).text p.config) ∈ texts) (refresh : Bool)

include h hi ht

theorem parseAt_result :
    (p.parseAt w.cache w.now w.files path refresh).2.result.map (·.map Parsed.toBuilt) =
      (Model.ofFile p.config .empty w.files path).result := by
  rw [Parser.parseAt]
  cases refresh with
  | true => exact Parser.rebuild_result
  | false =>
    rw [if_neg (by decide)]
    rcases Parser.remembered?_cases w.cache w.now (p.key path)
      (w.files.found? (Path.ofText path)) with hr | ⟨e, x, he, hx, hm, -, hdata⟩
    · rw [hr]
      exact Parser.rebuild_result
    · obtain ⟨b, hb, hbuilt⟩ := h.exists_built hi ht he hx hm
      split
      · rename_i b' heq
        have := (hdata b' (by rw [heq])).1
        rw [hb] at this
        rw [hbuilt, ← (Cached.model.inj this)]
        rfl
      · exact Parser.rebuild_result

theorem parseAt_cache
    (hno : ∀ b, (Model.ofFile p.config .empty w.files path).result ≠ .ok (some b)) :
    (p.parseAt w.cache w.now w.files path refresh).1 = w.cache := by
  rw [Parser.parseAt]
  cases refresh with
  | true => exact Parser.rebuild_cache hno
  | false =>
    rw [if_neg (by decide)]
    rcases Parser.remembered?_cases w.cache w.now (p.key path)
      (w.files.found? (Path.ofText path)) with hr | ⟨e, x, he, hx, hm, -, -⟩
    · rw [hr]
      exact Parser.rebuild_cache hno
    · obtain ⟨b, -, hbuilt⟩ := h.exists_built hi ht he hx hm
      exact absurd hbuilt (hno b)

omit hi in
theorem rebuild {cache : Cache (Cached β)} (hc : cache.entries ⊆ w.cache.entries) :
    Sound texts seen { w with cache := (p.rebuild cache w.now w.files path).1 } where
  times := h.times
  entries := by
    intro x hx
    rcases Parser.mem_of_mem_rebuild hx with hx | ⟨b, f, hb, hf, hkey, hdata, hmodified, htag⟩
    · exact h.entries x (hc hx)
    · obtain ⟨q, hq, hat⟩ := Option.bind_eq_some_iff.mp (Files.found?_of_find? hf)
      refine ⟨⟨path, p.config, w.files, f, q, b⟩, ⟨hkey, ht, hdata, htag, hb, hf, hq, ?_, ?_⟩⟩
      · rw [hmodified]
        exact h.times _ _ (Files.mem_of_at? hat)
      · intro x' hx' _
        exact ⟨f, Option.some.inj (hx'.symm.trans hat), rfl⟩

omit hi in
theorem parseAt :
    Sound texts seen { w with cache := (p.parseAt w.cache w.now w.files path refresh).1 } := by
  rw [Parser.parseAt]
  cases refresh with
  | true => exact h.rebuild ht (List.Subset.refl _)
  | false =>
    rw [if_neg (by decide)]
    rcases Parser.remembered?_cases w.cache w.now (p.key path)
      (w.files.found? (Path.ofText path)) with hr | ⟨-, -, -, -, -, hsub, -⟩
    · rw [hr]
      exact h.rebuild ht (List.Subset.refl _)
    · split
      · rename_i heq
        rw [heq] at hsub
        exact h.of_subset hsub
      · rename_i heq
        rw [heq] at hsub
        exact h.rebuild ht hsub

end ParseAt

section Parse

variable (h : Sound texts seen w) (hi : Injective texts) {p : Parser} {path : Option String}
  {refresh : Bool} (ht : ∀ t, (Step.parse p path refresh).keyText? = some t → t ∈ texts)

include h hi ht

theorem parse_result :
    (p.parse w.cache w.now w.files path refresh).2.result.map (·.map Parsed.toBuilt) =
      p.uncached w.files path := by
  rw [Parser.parse, Parser.uncached]
  rw [Step.keyText?] at ht
  cases hp : path.or p.path with
  | none => rfl
  | some path =>
    rw [hp] at ht
    exact h.parseAt_result hi (ht _ rfl) refresh

theorem parse_cache
    (hno : ∀ x, (p.parse w.cache w.now w.files path refresh).2.result ≠ .ok (some x)) :
    (p.parse w.cache w.now w.files path refresh).1 = w.cache := by
  have hresult := h.parse_result hi ht
  rw [Parser.parse] at hno hresult ⊢
  rw [Parser.uncached] at hresult
  rw [Step.keyText?] at ht
  cases hp : path.or p.path with
  | none => rfl
  | some path =>
    rw [hp] at hno hresult ht
    refine h.parseAt_cache hi (ht _ rfl) refresh fun b hb => ?_
    obtain ⟨x, hx⟩ := exists_of_map_toBuilt (hresult.trans hb)
    exact hno x hx

end Parse

/-- **Nothing that happens makes a cache unsound.** -/
theorem step (h : Sound texts seen w) {s : Step} (ht : ∀ t, s.keyText? = some t → t ∈ texts)
    (hs : s.IsLater seen) : Sound texts (seen.after s) (w.step s) := by
  cases s with
  | parse p path refresh =>
    change Sound texts seen { w with cache := (p.parse w.cache w.now w.files path refresh).1 }
    rw [Parser.parse]
    cases hp : path.or p.path with
    | none => exact h
    | some path => exact h.parseAt (ht _ (by rw [Step.keyText?, hp]; rfl)) refresh
  | write path file time =>
    refine ⟨fun q f hf => ?_, fun x hx => ?_⟩
    · rcases Files.mem_write hf with heq | hf
      · cases heq
        exact List.mem_cons_self
      · exact List.mem_cons_of_mem _ (h.times q f hf)
    · obtain ⟨o, ho⟩ := h.entries x hx
      exact ⟨o, ho.write hs.1 hs.2⟩
  | delete path time =>
    refine ⟨fun q f hf => h.times q f (Files.mem_delete hf), fun x hx => ?_⟩
    obtain ⟨o, ho⟩ := h.entries x hx
    exact ⟨o, ho.delete hs⟩
  | advance time => exact ⟨h.times, h.entries⟩
  | get key => exact h.of_subset (Cache.entries_get_subset w.now key)
  | tag key | isStale key path => exact h
  | invalidate key => exact h.of_subset (Cache.entries_invalidate_subset key)
  | clear => exact h.of_subset (List.nil_subset _)

theorem run (h : Sound texts seen w) {steps : List Step}
    (ht : ∀ s ∈ steps, ∀ t, s.keyText? = some t → t ∈ texts) (ho : Ordered seen steps) :
    ∃ seen', Sound texts seen' (w.run steps) := by
  induction steps generalizing seen w with
  | nil => exact ⟨seen, h⟩
  | cons s steps ih =>
    exact ih (h.step (ht s List.mem_cons_self) ho.1)
      (fun s hs => ht s (List.mem_cons_of_mem _ hs)) ho.2

end Sound

/-! ## What parsers give -/

theorem ordered_of_append {seen : Times} {before after : List Step}
    (h : Ordered seen (before ++ after)) : Ordered seen before := by
  induction before generalizing seen with
  | nil => trivial
  | cons s before ih => exact ⟨h.1, ih h.2⟩

/-- **A parser gives what it would give without a cache.** In any run that began with nothing in the
cache, in which files and folders came to places only later than the files there before, and in
which the digest tells the texts of the keys apart, parsing gives what is built from the files as
they are. Where nothing is built, nothing is stored. -/
theorem parse_eq_uncached {w₀ : World β} (hempty : w₀.cache.entries = [])
    {before after : List Step} {p : Parser} {path : Option String} {refresh : Bool}
    (ho : Ordered w₀.files.times (before ++ .parse p path refresh :: after))
    (hi : Injective ((before ++ .parse p path refresh :: after).filterMap Step.keyText?))
    {w : World β} (hw : w = w₀.run before) :
    (p.parse w.cache w.now w.files path refresh).2.result.map (·.map Parsed.toBuilt) =
        p.uncached w.files path ∧
      ((∀ x, (p.parse w.cache w.now w.files path refresh).2.result ≠ .ok (some x)) →
        (p.parse w.cache w.now w.files path refresh).1 = w.cache) := by
  have hmem : ∀ s ∈ before ++ .parse p path refresh :: after, ∀ t, s.keyText? = some t →
      t ∈ (before ++ .parse p path refresh :: after).filterMap Step.keyText? :=
    fun s hs t ht => List.mem_filterMap.mpr ⟨s, hs, ht⟩
  obtain ⟨seen, hs⟩ := (Sound.start hempty).run (fun s hs => hmem s (List.mem_append_left _ hs))
    (ordered_of_append ho)
  have ht := hmem (.parse p path refresh) (List.mem_append_right _ List.mem_cons_self)
  rw [← hw] at hs
  exact ⟨hs.parse_result hi ht, hs.parse_cache hi ht⟩

/-- A parser that leaves nothing out. -/
def plain : Parser := { config := {} }

/-- A parser that leaves errors out. -/
def strict : Parser := { config := { blacklist := .ofList ["Error"] } }

/-- A file is written, and both parsers read it. -/
def visits : List Step :=
  [.write "a" ⟨twiceDefined.toUTF8.toList, 1⟩ 1, .parse plain (some "a") false,
    .parse strict (some "a") false]

/-- What there is after the visits. -/
def visited : World Unit := run ⟨.empty _ 5, 0, {}⟩ visits

/-- The text of the key that a parser uses for the file. -/
def visitText (p : Parser) : String := keyText (modelKeyParts (Path.ofText "a").text p.config)

/-- After both visits the first parser gives what it would give without the cache. -/
theorem parse_visited_eq_uncached :
    Ordered [] (visits ++ Step.parse plain (some "a") false :: []) ∧
      Injective ((visits ++ Step.parse plain (some "a") false :: []).filterMap Step.keyText?) ∧
      ∃ b, (plain.parse visited.cache visited.now visited.files (some "a") false).2.result.map
          (·.map Parsed.toBuilt) = .ok (some b) ∧
        plain.uncached visited.files (some "a") = .ok (some b) := by
  have ho : Ordered [] (visits ++ Step.parse plain (some "a") false :: []) :=
    ⟨⟨nofun, nofun⟩, trivial, trivial, trivial, trivial⟩
  have htexts : (visits ++ Step.parse plain (some "a") false :: []).filterMap Step.keyText? =
      [visitText plain, visitText strict, visitText plain] := rfl
  have hapart : Md5.ofText (visitText plain) ≠ Md5.ofText (visitText strict) := by
    decide +kernel
  have hi : Injective ((visits ++ Step.parse plain (some "a") false :: []).filterMap
      Step.keyText?) := by
    rw [htexts]
    intro s hs t ht hst
    have hcases : ∀ u ∈ [visitText plain, visitText strict, visitText plain],
        u = visitText plain ∨ u = visitText strict := by
      simp
    rcases hcases s hs with rfl | rfl <;> rcases hcases t ht with rfl | rfl
    · rfl
    · exact absurd hst hapart
    · exact absurd hst.symm hapart
    · rfl
  have hbuilt : (plain.uncached visited.files (some "a")).toOption.join.isSome := by
    decide +kernel
  have hempty : (⟨.empty _ 5, 0, {}⟩ : World Unit).cache.entries = [] := rfl
  have hsame := (parse_eq_uncached hempty ho hi (w := visited) rfl).1
  obtain ⟨b, hb⟩ := Option.isSome_iff_exists.mp hbuilt
  have hb := eq_ok_of_toOption (Option.join_eq_some_iff.mp hb)
  exact ⟨ho, hi, b, hsame.trans hb, hb⟩

end World

end Introspection
