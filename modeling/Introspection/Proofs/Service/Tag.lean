import Introspection.Proofs.Service.Run
import Introspection.Proofs.Text.Quoted
import Introspection.Service.Server

/-!
# Tags of repositories

The tag of a repository is a digest of its configuration, its source and, if it serves a file, the
digest of that file. Clients hold on to what they know about a model as long as its tag stays.

* `tagText_hex_inj`, `tagText_hex_ne`: what the text behind a tag tells;
* `Served.IsGenuine`: a repository that is made of what its file held;
* **`World.Sound.isGenuine`**: such are repositories that share a sound cache;
* `Served.IsGenuine.repository_eq`: repositories with the same text behind their tags;
* **`World.tags_tell`**: what the tags of a run tell, and whom the server answers with nothing new.
-/

namespace Introspection

open Service

/-! ## Digests -/

namespace Md5

theorem length_bytes (count n : Nat) : (bytes count n).length = count := by
  induction count generalizing n with
  | zero => rfl
  | succ count ih => rw [bytes, List.length_cons, ih]

theorem length_digest (message : List UInt8) : (digest message).length = 16 := by
  simp [digest, length_bytes]

theorem length_hex (message : List UInt8) : (hex message).length = 32 := by
  have hflat : ∀ bs : List UInt8, (bs.flatMap hexByte).length = 2 * bs.length := by
    intro bs
    induction bs with
    | nil => rfl
    | cons b bs ih =>
      rw [List.flatMap_cons, List.length_append, ih, hexByte, Text.length_hexDigits,
        List.length_cons]
      omega
  rw [hex, String.length_ofList, hflat, length_digest]

end Md5

/-! ## Texts -/

section TagText

variable {c c' : Config} {s s' : String} {m m' : List UInt8}

theorem tagText_some (c : Config) (s d : String) :
    tagText c s (some d) = c.text ++ ("-" ++ s ++ "-" ++ d) := by
  simp only [tagText, String.append_assoc]

theorem tagText_none (c : Config) (s : String) : tagText c s none = c.text ++ ("-" ++ s) := by
  simp only [tagText, String.append_assoc, String.append_empty]

/-- With a digest, the text tells the configuration, the source and the digest. -/
theorem tagText_hex_inj
    (h : tagText c s (some (Md5.hex m)) = tagText c' s' (some (Md5.hex m'))) :
    c = c' ∧ s = s' ∧ Md5.hex m = Md5.hex m' := by
  rw [tagText_some, tagText_some] at h
  obtain ⟨hc, h⟩ := Config.text_append_inj h
  have h := congrArg String.toList h
  have hlen : (Md5.hex m).toList.length = (Md5.hex m').toList.length := by
    rw [String.length_toList, String.length_toList, Md5.length_hex, Md5.length_hex]
  simp only [String.toList_append] at h
  -- A source may hold the separator, so the text is taken apart from its end.
  obtain ⟨hs, hd⟩ := List.append_inj' h hlen
  have hs := List.append_cancel_left (List.append_cancel_right hs)
  exact ⟨hc, String.toList_inj.mp hs, String.toList_inj.mp hd⟩

theorem tagText_none_inj (h : tagText c s none = tagText c' s' none) : c = c' := by
  rw [tagText_none, tagText_none] at h
  exact (Config.text_append_inj h).1

/-- No digest is short enough to be a part of the name of the embedded document. -/
theorem tagText_hex_ne :
    tagText c s (some (Md5.hex m)) ≠ tagText c' Repository.embeddedSource none := by
  rw [tagText_some, tagText_none]
  intro h
  have hlen := congrArg String.length (Config.text_append_inj h).2
  have hsource : ("-" ++ Repository.embeddedSource).length = 9 := by decide
  rw [hsource, String.length_append, Md5.length_hex] at hlen
  omega

end TagText

/-! ## Repositories -/

/-- The text that the tag of a repository is the digest of. -/
def Served.tagText (s : Served) : String :=
  Introspection.tagText s.repository.config s.repository.source
    (s.file.map fun f => Md5.hex f.bytes)

/-- A repository is made of what its file held when it was constructed, or of the embedded
document. -/
inductive Served.IsGenuine : Served → Prop where
  | ofFile {config : Config} {fs : Files} {path : String} {f : File} {b : Built} :
    fs.find? (Path.ofText path) = some f →
    (Model.ofFile config .empty fs path).result = .ok (some b) →
    IsGenuine ⟨.ofBuilt config (some (Path.ofText path).text) (some (Md5.hex f.bytes)) b, some f⟩
  | embedded {config : Config} {d : Document} {b : Built} :
    Document.loadText embeddedText = .ok (some d) →
    (Model.ofDocument config .empty d).result = .ok b →
    IsGenuine ⟨.ofBuilt config none none b, none⟩

namespace Served.IsGenuine

variable {a b : Served}

theorem tag_eq (h : a.IsGenuine) : a.repository.tag = "\"" ++ Md5.ofText a.tagText ++ "\"" := by
  cases h <;> rfl

theorem isSome_path_iff (h : a.IsGenuine) : a.repository.path.isSome ↔ a.file.isSome := by
  cases h <;> simp [Repository.ofBuilt]

section TagText

variable (ha : a.IsGenuine) (hb : b.IsGenuine)
  (hfiles : ∀ f ∈ a.file, ∀ g ∈ b.file, Md5.hex f.bytes = Md5.hex g.bytes → f.bytes = g.bytes)
  (h : a.tagText = b.tagText)

include ha hb h

theorem isSome_file_iff : a.file.isSome ↔ b.file.isSome := by
  cases ha with
  | ofFile =>
    cases hb with
    | ofFile => exact Iff.rfl
    | embedded => exact absurd h tagText_hex_ne
  | embedded =>
    cases hb with
    | ofFile => exact absurd h.symm tagText_hex_ne
    | embedded => exact Iff.rfl

include hfiles

theorem bytes_eq : a.file.map (·.bytes) = b.file.map (·.bytes) := by
  have hsome := isSome_file_iff ha hb h
  cases ha with
  | ofFile =>
    cases hb with
    | ofFile =>
      obtain ⟨-, -, hd⟩ := tagText_hex_inj h
      exact congrArg some (hfiles _ rfl _ rfl hd)
    | embedded => cases hsome.mp rfl
  | embedded =>
    cases hb with
    | ofFile => cases hsome.mpr rfl
    | embedded => rfl

/-- **Repositories with the same text behind their tags are the same.** -/
theorem repository_eq : a.repository = b.repository := by
  have hsome := isSome_file_iff ha hb h
  have hbytes := bytes_eq ha hb hfiles h
  cases ha with
  | ofFile hf hbuilt =>
    cases hb with
    | ofFile hf' hbuilt' =>
      obtain ⟨hconfig, hsource, hd⟩ := tagText_hex_inj h
      -- One source is one place, and with the same content there it is one document.
      have hp := Path.text_inj (Path.normal_ofText _) (Path.normal_ofText _) hsource
      have hdoc := Document.ofFile_congr hp (Model.exists_file_of_ofFile hbuilt).1
        (Model.exists_file_of_ofFile hbuilt').1 hf hf' (Option.some.inj hbytes)
      dsimp only [Repository.ofBuilt] at hconfig
      subst hconfig
      rw [Model.ofFile_congr hdoc, hbuilt'] at hbuilt
      cases hbuilt
      dsimp only [Repository.source, Repository.ofBuilt, Option.getD_some] at hsource
      rw [hsource, hd]
    | embedded => cases hsome.mp rfl
  | embedded hd hbuilt =>
    cases hb with
    | ofFile => cases hsome.mpr rfl
    | embedded hd' hbuilt' =>
      have hconfig := tagText_none_inj h
      dsimp only [Repository.ofBuilt] at hconfig
      subst hconfig
      rw [hd] at hd'
      cases hd'
      rw [hbuilt] at hbuilt'
      cases hbuilt'
      rfl

end TagText

end Served.IsGenuine

/-! ## Runs -/

namespace World

variable {β : Type} {texts : List String} {seen : Times} {w : World β}

theorem Sound.exists_tag_eq (h : Sound texts seen w) (hi : Injective texts) {p : Parser}
    {path : String} (ht : keyText (modelKeyParts (Path.ofText path).text p.config) ∈ texts)
    {refresh : Bool} {x : Parsed}
    (hx : (p.parseAt w.cache w.now w.files path refresh).2.result = .ok (some x)) :
    ∃ f, w.files.find? (Path.ofText path) = some f ∧
      (p.parseAt w.cache w.now w.files path refresh).1.tag (p.key path) = Md5.hex f.bytes := by
  obtain ⟨e, y, he, hy, hm⟩ := Parser.exists_entry_of_parseAt hx
  obtain ⟨o, ho, -, hp⟩ := (h.parseAt ht refresh).exists_origin hi ht he
  obtain ⟨f, hf, hb⟩ := ho.exists_file hp hy hm
  refine ⟨f, hf, ?_⟩
  rw [Cache.tag, he, Option.map_some, Option.getD_some, ho.tag, hb]

/-- **With a sound cache, a repository is made of what its file holds.** -/
theorem Sound.isGenuine (h : Sound texts seen w) (hi : Injective texts) {path : Option String}
    {config : Config} {s : Served}
    (ht : ∀ t, (Event.toStep (.construct path config)).keyText? = some t → t ∈ texts)
    (hs : w.constructed? (.construct path config) = some s) : s.IsGenuine := by
  obtain ⟨hr, hfile⟩ := exists_of_constructed? hs
  obtain ⟨r, file⟩ := s
  dsimp only at hr hfile
  rcases Repository.exists_of_ofPath hr with he | ⟨p, x, hp, hx, rfl⟩
  · obtain ⟨d, b, hd, hb, rfl⟩ := Repository.exists_of_ofEmbedded he
    rw [hfile]
    exact .embedded hd hb
  · have htext : keyText (modelKeyParts (Path.ofText p).text config) ∈ texts :=
      ht _ (by rw [Event.toStep, hp]; rfl)
    have hresult := Sound.parseAt_result (p := { config }) h hi htext false
    rw [hx] at hresult
    obtain ⟨f, hf, htag⟩ := Sound.exists_tag_eq (p := { config }) h hi htext hx
    rw [Repository.path_ofBuilt, Option.bind_some, Path.ofText_text (Path.normal_ofText p), hf]
      at hfile
    rw [hfile, htag]
    exact .ofFile hf hresult.symm

/-- The digest tells apart what is digested in a run: the texts of keys, those of tags, and what
files held. -/
structure DigestTells (w₀ : World β) (events : List Event) : Prop where
  keys : Injective (events.filterMap fun e => e.toStep.keyText?)
  tags : Injective ((w₀.served events).map Served.tagText)
  files : ∀ f ∈ (w₀.served events).filterMap Served.file,
    ∀ g ∈ (w₀.served events).filterMap Served.file,
      Md5.hex f.bytes = Md5.hex g.bytes → f.bytes = g.bytes

theorem isGenuine_of_mem_served {w₀ : World β} (hempty : w₀.cache.entries = [])
    {events : List Event} (ho : Ordered w₀.files.times (events.map Event.toStep))
    (hi : Injective (events.filterMap fun e => e.toStep.keyText?)) {s : Served}
    (hs : s ∈ w₀.served events) : s.IsGenuine := by
  obtain ⟨before, path, config, after, rfl, hmade⟩ := exists_of_mem_served hs
  have hmem : ∀ e ∈ before ++ .construct path config :: after, ∀ t, e.toStep.keyText? = some t →
      t ∈ (before ++ .construct path config :: after).filterMap fun e => e.toStep.keyText? :=
    fun e he t ht => List.mem_filterMap.mpr ⟨e, he, ht⟩
  rw [List.map_append] at ho
  have hsteps : ∀ step ∈ before.map Event.toStep, ∀ t, step.keyText? = some t →
      t ∈ (before ++ .construct path config :: after).filterMap fun e => e.toStep.keyText? := by
    intro step hstep
    obtain ⟨e, he, rfl⟩ := List.mem_map.mp hstep
    exact hmem e (List.mem_append_left _ he)
  obtain ⟨seen, hsound⟩ := (Sound.start hempty).run hsteps (ordered_of_append ho)
  rw [foldl_occur_eq_run] at hmade
  exact hsound.isGenuine hi (hmem _ (List.mem_append_right _ List.mem_cons_self)) hmade

theorem metadataResponse_of_etag {r : Repository} {known : Option String}
    (h : (Server.metadataResponse r known).etag.isSome) :
    (Server.metadataResponse r known).etag = some r.tag ∧
      (Server.metadataResponse r known).content = .json r.metadata := by
  rw [Server.metadataResponse] at h ⊢
  by_cases hk : known = some r.tag
  · rw [if_pos hk] at h
    cases h
  · rw [if_neg hk]
    exact ⟨rfl, rfl⟩

theorem known_of_metadataResponse {r : Repository} {known : Option String}
    (h : (Server.metadataResponse r known).status = 304) : known = some r.tag := by
  rw [Server.metadataResponse] at h
  by_contra hk
  rw [if_neg hk] at h
  cases h

/-- **Tags tell repositories apart.** In any run that began with nothing in the cache, in which
files and folders came to places only later than the files there before, and in which the digest
tells apart what it is made of, equal tags mean that the same is known about the models. So the
server says that there is nothing new only to a client with the tag of the repository, and whoever
was given that tag was given what is known about the model. Repositories that serve files have the
same tag only for the same configuration, source and content, and never that of one that serves the
embedded document. -/
theorem tags_tell {w₀ : World β} (hempty : w₀.cache.entries = []) {events : List Event}
    (ho : Ordered w₀.files.times (events.map Event.toStep)) (hd : DigestTells w₀ events)
    {a b : Served} (ha : a ∈ w₀.served events) (hb : b ∈ w₀.served events) :
    (a.repository.tag = b.repository.tag → a.repository.metadata = b.repository.metadata) ∧
      (∀ fs fs' q q' x y, Server.answer fs a.repository q .metadata = .ok x →
        Server.answer fs' b.repository q' .metadata = .ok y → y.status = 304 →
        q'.header? "if-none-match" = some b.repository.tag ∧
          (x.etag.isSome → x.etag = q'.header? "if-none-match" →
            x.content = .json b.repository.metadata)) ∧
      (a.repository.path.isSome → b.repository.path.isSome →
        a.repository.config ≠ b.repository.config ∨ a.repository.source ≠ b.repository.source ∨
          a.file.map (·.bytes) ≠ b.file.map (·.bytes) →
        a.repository.tag ≠ b.repository.tag) ∧
      (a.repository.path.isSome → b.repository.path = none →
        a.repository.tag ≠ b.repository.tag) := by
  have hga := isGenuine_of_mem_served hempty ho hd.keys ha
  have hgb := isGenuine_of_mem_served hempty ho hd.keys hb
  have htext : a.repository.tag = b.repository.tag → a.tagText = b.tagText := by
    intro h
    rw [hga.tag_eq, hgb.tag_eq] at h
    have hdigest := (String.append_right_inj _).mp ((String.append_left_inj _).mp h)
    exact hd.tags _ (List.mem_map_of_mem ha) _ (List.mem_map_of_mem hb) hdigest
  have hfiles : ∀ f ∈ a.file, ∀ g ∈ b.file, Md5.hex f.bytes = Md5.hex g.bytes →
      f.bytes = g.bytes := by
    intro f hf g hg
    exact hd.files f (List.mem_filterMap.mpr ⟨a, ha, hf⟩) g (List.mem_filterMap.mpr ⟨b, hb, hg⟩)
  have hsame : a.repository.tag = b.repository.tag → a.repository = b.repository :=
    fun h => hga.repository_eq hgb hfiles (htext h)
  refine ⟨fun h => by rw [hsame h], ?_, fun _ _ hne h => ?_, fun hpath hnone h => ?_⟩
  · intro fs fs' q q' x y hx hy h304
    cases hx
    cases hy
    have hknown := known_of_metadataResponse h304
    refine ⟨hknown, fun hsome heq => ?_⟩
    obtain ⟨htag, hcontent⟩ := metadataResponse_of_etag hsome
    rw [htag, hknown] at heq
    rw [hcontent, hsame (Option.some.inj heq)]
  · rw [hsame h] at hne
    exact hne.elim (· rfl) (·.elim (· rfl) (· (hga.bytes_eq hgb hfiles (htext h))))
  · rw [hsame h, hnone] at hpath
    cases hpath

/-- What a file holds at first. -/
def older : File := ⟨"<a/>".toUTF8.toList, 1⟩

/-- What it holds later. -/
def newer : File := ⟨"<b/>".toUTF8.toList, 2⟩

/-- A file is served twice, the second time from the cache, and once more when it holds something
else. -/
def rewritten : List Event :=
  [.write "a" older 1, .construct (some "a") {}, .construct (some "a") {}, .write "a" newer 2,
    .construct (some "a") {}]

/-- The text behind the tag of a repository that serves the file. -/
def rewrittenText (f : File) : String := tagText {} "a" (some (Md5.hex f.bytes))

/-- The tag stays as long as the file does. -/
theorem tags_tell_of_rewritten :
    Ordered [] (rewritten.map Event.toStep) ∧ DigestTells fresh rewritten ∧
      ∃ a b c, fresh.served rewritten = [a, b, c] ∧
        a.repository.tag = b.repository.tag ∧ a.repository.metadata = b.repository.metadata ∧
        a.repository.tag ≠ c.repository.tag := by
  have ho : Ordered [] (rewritten.map Event.toStep) := by
    refine ⟨⟨nofun, nofun⟩, trivial, trivial, ⟨?_, ?_⟩, trivial, trivial⟩
    · rintro m (_ | ⟨_, ⟨⟩⟩)
      decide +kernel
    · rintro q hq m (_ | ⟨_, ⟨⟩⟩)
      exact absurd hq (by decide +kernel)
  have hkeys : (rewritten.filterMap fun e => e.toStep.keyText?) =
      List.replicate 3 (keyText (modelKeyParts (Path.ofText "a").text {})) := rfl
  -- The texts are computed with their digests, but the tags, being digests of those, are not.
  have hserved : (fresh.served rewritten).map (fun s => (s.tagText, s.file)) =
      [(rewrittenText older, some older), (rewrittenText older, some older),
        (rewrittenText newer, some newer)] := by
    decide +kernel
  have htags : Md5.ofText (rewrittenText older) ≠ Md5.ofText (rewrittenText newer) := by
    decide +kernel
  have hbytes : older.bytes ≠ newer.bytes := by decide +kernel
  have hhex : Md5.hex older.bytes ≠ Md5.hex newer.bytes := by decide +kernel
  obtain ⟨a, _, hs, ha, hserved⟩ := List.map_eq_cons_iff.mp hserved
  obtain ⟨b, _, rfl, hb, hserved⟩ := List.map_eq_cons_iff.mp hserved
  obtain ⟨c, _, rfl, hc, hserved⟩ := List.map_eq_cons_iff.mp hserved
  obtain rfl := List.map_eq_nil_iff.mp hserved
  obtain ⟨hat, haf⟩ := Prod.mk.inj ha
  obtain ⟨hbt, hbf⟩ := Prod.mk.inj hb
  obtain ⟨hct, hcf⟩ := Prod.mk.inj hc
  have hd : DigestTells fresh rewritten := by
    refine ⟨?_, ?_, ?_⟩
    · rw [hkeys]
      intro s hs t ht _
      rw [List.eq_of_mem_replicate hs, List.eq_of_mem_replicate ht]
    · rw [hs, List.map_cons, List.map_cons, List.map_cons, hat, hbt, hct]
      simp [Injective, htags, htags.symm]
    · rw [hs]
      simp [haf, hbf, hcf, hhex, hhex.symm]
  have hempty : fresh.cache.entries = [] := rfl
  have hmem : ∀ s ∈ [a, b, c], s ∈ fresh.served rewritten := fun s h => hs ▸ h
  have hga := isGenuine_of_mem_served hempty ho hd.keys (hmem a (by simp))
  have hgb := isGenuine_of_mem_served hempty ho hd.keys (hmem b (by simp))
  have hgc := isGenuine_of_mem_served hempty ho hd.keys (hmem c (by simp))
  have htag : a.repository.tag = b.repository.tag := by rw [hga.tag_eq, hgb.tag_eq, hat, hbt]
  have hab := (tags_tell hempty ho hd (hmem a (by simp)) (hmem b (by simp))).1 htag
  have hac := (tags_tell hempty ho hd (hmem a (by simp)) (hmem c (by simp))).2.2.1
    (hga.isSome_path_iff.mpr (by rw [haf]; rfl)) (hgc.isSome_path_iff.mpr (by rw [hcf]; rfl))
    (.inr (.inr (by rw [haf, hcf]; exact fun h => hbytes (Option.some.inj h))))
  exact ⟨ho, hd, a, b, c, hs, htag, hab, hac⟩

end World

end Introspection
