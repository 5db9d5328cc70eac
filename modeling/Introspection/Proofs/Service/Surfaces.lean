import Introspection.CommandLine.Run
import Introspection.Proofs.Cache.Transparent
import Introspection.Proofs.Model.Records
import Introspection.Proofs.Service.Run
import Introspection.Proofs.Xml.Names
import Introspection.Proofs.Xml.Source
import Introspection.Service.Server

/-!
# The command line and the server

A document can be asked about at the command line and through a server. The commands find entities
in what one model keeps or in the registry, and build models without a cache; a server goes by its
repository. All the same they give the same answers.

* `Parser.IsCurrent`: what a cache remembers of a document is what is built of it now, as with
  nothing in the cache (`Parser.isCurrent_of_empty`);
* `Parser.IsCurrent.exists_ofPath`: the repository of a document;
* `Built.lookup_eq`, `CommandLine.modelSet_singleton`: a set of one model finds what it finds;
* `ShowsSame`, `TellsSame`, `SurfacesAgree`: the answers to each question at either place;
* **`Repository.surfaces_agree`**: they agree.
-/

namespace Introspection

open CommandLine Http Service Xml

/-! ## Repositories that are up to date -/

namespace Parser

variable {β : Type} {p : Parser} {cache : Cache (Cached β)} {now : Float} {fs : Files}
  {path : String}

/-- What a cache remembers of a document is what is built of it now. -/
def IsCurrent (p : Parser) (cache : Cache (Cached β)) (now : Float) (fs : Files) (path : String) :
    Prop :=
  ∀ b, (remembered? cache now (p.key path) (fs.found? (Path.ofText path))).2 = some b →
    (Model.ofFile p.config .empty fs path).result = .ok (some b)

theorem isCurrent_of_empty (h : cache.entries = []) : p.IsCurrent cache now fs path := by
  intro b hb
  rcases remembered?_cases cache now (p.key path) (fs.found? (Path.ofText path)) with
    hr | ⟨e, x, he, -⟩
  · rw [hr] at hb
    cases hb
  · have hmem := Cache.mem_of_lookup he
    rw [h] at hmem
    cases hmem

theorem IsCurrent.exists_parsed (h : p.IsCurrent cache now fs path) {b : Built}
    (hb : (Model.ofFile p.config .empty fs path).result = .ok (some b)) :
    ∃ x, (p.parseAt cache now fs path false).2.result = .ok (some x) ∧ x.toBuilt = b := by
  rw [parseAt, if_neg (by decide)]
  -- Either the cache remembers the model, or the model is built anew.
  split
  · rename_i b' heq
    have hb' := h b' (by rw [heq])
    rw [hb] at hb'
    exact ⟨.kept b', rfl, (Option.some.inj (Except.ok.inj hb')).symm⟩
  · rename_i cache' heq
    have hmap : (p.rebuild cache' now fs path).2.result.map (·.map Parsed.toBuilt) =
        .ok (some b) := rebuild_result.trans hb
    obtain ⟨x, hx⟩ := World.Sound.exists_of_map_toBuilt hmap
    rw [hx] at hmap
    exact ⟨x, hx, Option.some.inj (Except.ok.inj hmap)⟩

end Parser

theorem Parser.IsCurrent.exists_ofPath {β : Type} {cache : Cache (Cached β)} {now : Float}
    {fs : Files} {config : Config} {path : String} (h : IsCurrent { config } cache now fs path)
    (hp : path ≠ "") {b : Built}
    (hb : (Model.ofFile config .empty fs path).result = .ok (some b)) :
    ∃ tag, (Repository.ofPath cache now fs (some path) config).2.result =
      .ok (.ofBuilt config (some (Path.ofText path).text) (some tag) b) := by
  obtain ⟨x, hx, rfl⟩ := h.exists_parsed hb
  have hpath : (some path).filter (· ≠ "") = some path :=
    Option.filter_eq_some_iff.mpr ⟨rfl, decide_eq_true hp⟩
  rw [Repository.ofPath, hpath]
  exact ⟨_, Outcome.result_bind hx _⟩

/-! ## What one model finds -/

section

variable {config : Config} {fs : Files} {file : String} {b : Built}

theorem Built.lookup_eq (hb : (Model.ofFile config .empty fs file).result = .ok (some b))
    (name : String) : b.registry.lookup name = b.model.find? name := by
  have hseries : Registry.Series [b.model] b.registry := Registry.Series.start.ofFile hb
  rw [hseries.lookup_eq, List.flatMap_singleton]
  rfl

theorem CommandLine.modelSet_singleton {key : Option String}
    (hc : (Config.readOptional key).result = .ok config)
    (hb : (Model.ofFile config .empty fs file).result = .ok (some b)) :
    ∃ s, (modelSet fs key [file]).result = .ok s ∧ s.models = [b.model] ∧
      s.registry = b.registry := by
  have hone : ModelSet.ofFiles config .empty fs [file] = ModelSet.add config fs {} file := rfl
  have hset := ModelSet.add_of_some (s := {}) rfl hb
  rw [modelSet, Outcome.result_bind hc, hone, hset]
  exact ⟨_, rfl, rfl, rfl⟩

end

/-! ## Stubs -/

namespace Document

theorem ofFile_text (fs : Files) (file : String) :
    ofFile fs (Path.ofText file).text = ofFile fs file := by
  have hpath := Path.ofText_text (Path.normal_ofText file)
  have hnull : '\x00' ∈ (Path.ofText file).text.toList ↔ '\x00' ∈ file.toList := by
    rw [Path.null_mem_iff, hpath, ← Path.null_mem_iff]
  rw [ofFile, ofFile, hpath]
  simp only [hnull]

/-- What is loaded depends on the characters that are read, up to the name of the source. -/
theorem load_of_ofBytes_eq {source : String} {bytes bytes' : List UInt8}
    (h : Source.ofBytes bytes' = Source.ofBytes bytes) {d : Document}
    (hd : load source bytes = .ok (some d)) (source' : String) :
    load source' bytes' = .ok (some { d with source := source' }) := by
  obtain ⟨s, hs, hd⟩ := exists_ofSource? hd
  obtain ⟨m, hm, hd⟩ := Option.bind_eq_some_iff.mp hd
  obtain ⟨root, hroot, hd⟩ := Option.bind_eq_some_iff.mp hd
  obtain rfl := Option.some.inj hd
  have hsource : ofSource? source' s = some ⟨root, firstBindings m.bindings, source'⟩ := by
    rw [ofSource?, hm, Option.bind_eq_bind, Option.bind_some, hroot]
    rfl
  rw [load, h, hs]
  exact congrArg Except.ok hsource

theorem stub_congr {d d' : Document} (h : d'.root = d.root) : d'.stub = d.stub := by
  rw [stub, stubLines, tree, h, stub, stubLines, tree]

end Document

theorem Service.exists_stubOfPosted {text : String} {d : Document}
    (h : Document.loadText text = .ok (some d)) :
    ∃ s, stubOfPosted text = .ok s ∧ Document.linesText s.lines = d.stub := by
  rw [stubOfPosted, h]
  exact ⟨_, rfl, rfl⟩

/-! ## Answers -/

/-- An entity is printed if the server shows it, and else there is none at either place. -/
def ShowsSame (reply : Reply) (response : Response) : Prop :=
  (reply.exit = 0 ∧ ∃ j, reply.out = line j.print ∧
      response = { content := .json (.object [("type", j)]) }) ∨
    (reply.exit = 1 ∧ response.status = 404)

/-- A class is printed with its ancestors, one on a line, if the server tells them, and else there
is no class at either place. -/
def TellsSame (reply : Reply) (response : Response) : Prop :=
  (reply.exit = 0 ∧ ∃ l : Repository.Lineage,
      reply.out = String.join ((l.name :: l.ancestors).map line) ∧
      response = { content := .json l.json }) ∨
    (reply.exit = 1 ∧ response.status = 404)

/-- The answers about a document at the command line and those of a server. -/
structure SurfacesAgree (fs : Files) (key : Option String) (file : String) (repo : Repository) :
    Prop where
  lookup : ∀ name q path, ∃ reply, (lookupCommand fs key file name).result = .ok reply ∧
    ShowsSame reply (Server.stated path (Server.answer fs repo q (.detail name)))
  ancestry : ∀ name q path, ∃ reply, (ancestryCommand fs key name [file]).result = .ok reply ∧
    TellsSame reply (Server.stated path (Server.answer fs repo q (.lineage name)))
  /-- The stub is the same, and so is that of every posted text that is the same document. -/
  stub : ∃ text, (emitCommand fs file).result = .ok { exit := 0, out := text } ∧
    (∀ q path, Server.stated path (Server.answer fs repo q .stub) = { content := .text text }) ∧
    ∀ posted d d', Document.ofFile fs file = .ok (some d) →
      Document.loadText posted = .ok (some d') → d'.root = d.root →
        ∃ s, stubOfPosted posted = .ok s ∧ Document.linesText s.lines = text
  /-- A text is the same document if it is read as the same characters as the file. -/
  posted : ∀ posted f d, fs.find? (Path.ofText file) = some f →
    Source.ofBytes posted.toUTF8.toList = Source.ofBytes f.bytes →
      Document.ofFile fs file = .ok (some d) →
        ∃ d', Document.loadText posted = .ok (some d') ∧ d'.root = d.root

section

variable {config : Config} {key : Option String} {fs : Files} {file : String} {b : Built}
  (hc : (Config.readOptional key).result = .ok config)
  (hb : (Model.ofFile config .empty fs file).result = .ok (some b))

include hc hb

theorem CommandLine.lookupCommand_eq (name : String) :
    (lookupCommand fs key file name).result = .ok
      (match b.model.find? name with
        | none => { exit := 1, err := complaint ("No type named " ++ name) }
        | some e => { exit := 0, out := line e.json.print }) := by
  rw [lookupCommand, Outcome.result_bind hc, Outcome.result_bind hb]
  cases hm : b.model.find? name <;> simp only [hm] <;> rfl

theorem CommandLine.ancestryCommand_eq (name : String) :
    (ancestryCommand fs key name [file]).result = .ok
      (match b.model.find? name with
        | some (.objectClass c) =>
          { exit := 0
            out := String.join ((c.name :: (b.registry.ancestry c).map (·.name)).map line) }
        | _ => { exit := 1, err := complaint ("No class named " ++ name) }) := by
  obtain ⟨s, hs, hmodels, hregistry⟩ := modelSet_singleton hc hb
  rw [ancestryCommand, Outcome.result_bind hs]
  simp only [hmodels, hregistry, Built.lookup_eq hb]
  cases b.model.find? name with
  | none => rfl
  | some e => cases e <;> rfl

end

namespace Repository

variable (config : Config) (source digest : Option String) (b : Built) (fs : Files) (q : Request)
  (path name : String)

theorem showsSame_detail :
    ShowsSame
      (match b.model.find? name with
        | none => { exit := 1, err := complaint ("No type named " ++ name) }
        | some e => { exit := 0, out := line e.json.print })
      (Server.stated path
        (Server.answer fs (ofBuilt config source digest b) q (.detail name))) := by
  have hfind : (ofBuilt config source digest b).model.find? name = b.model.find? name := rfl
  rw [Server.answer, detail, hfind]
  cases b.model.find? name with
  | none => exact .inr ⟨rfl, rfl⟩
  | some e => exact .inl ⟨rfl, e.json, rfl, rfl⟩

theorem tellsSame_lineage :
    TellsSame
      (match b.model.find? name with
        | some (.objectClass c) =>
          { exit := 0
            out := String.join ((c.name :: (b.registry.ancestry c).map (·.name)).map line) }
        | _ => { exit := 1, err := complaint ("No class named " ++ name) })
      (Server.stated path
        (Server.answer fs (ofBuilt config source digest b) q (.lineage name))) := by
  have hfind : (ofBuilt config source digest b).model.find? name = b.model.find? name := rfl
  rw [Server.answer, lineage, hfind]
  cases b.model.find? name with
  | none => exact .inr ⟨rfl, rfl⟩
  | some e =>
    cases e with
    | objectClass c => exact .inl ⟨rfl, _, rfl, rfl⟩
    | _ => exact .inr ⟨rfl, rfl⟩

end Repository

theorem Model.exists_document_of_ofFile {config : Config} {fs : Files} {file : String} {b : Built}
    (hb : (Model.ofFile config .empty fs file).result = .ok (some b)) :
    ∃ d, Document.ofFile fs file = .ok (some d) :=
  (Model.exists_of_ofFile hb).imp fun _ h => h.1

/-- **The command line and the server give the same answers.** The configuration can be read, the
document can be built, and what the cache remembers of it is what is built of it now. A path without
characters stands for no document where a repository is made. -/
theorem Repository.surfaces_agree {β : Type} {cache : Cache (Cached β)} {now : Float} {fs : Files}
    {key : Option String} {config : Config} (hc : (Config.readOptional key).result = .ok config)
    {file : String} (hfile : file ≠ "") {b : Built}
    (hb : (Model.ofFile config .empty fs file).result = .ok (some b))
    (hcurrent : Parser.IsCurrent { config } cache now fs file) :
    ∃ repo, (Repository.ofPath cache now fs (some file) config).2.result = .ok repo ∧
      SurfacesAgree fs key file repo := by
  obtain ⟨tag, hrepo⟩ := hcurrent.exists_ofPath hfile hb
  obtain ⟨d, hd⟩ := Model.exists_document_of_ofFile hb
  refine ⟨_, hrepo, ?_, ?_, ⟨d.stub, ?_, ?_, ?_⟩, ?_⟩
  · exact fun name q path => ⟨_, lookupCommand_eq hc hb name, showsSame_detail ..⟩
  · exact fun name q path => ⟨_, ancestryCommand_eq hc hb name, tellsSame_lineage ..⟩
  · rw [emitCommand, Outcome.result_bind hd]
    rfl
  · intro q path
    have hdocument : (ofBuilt config (some (Path.ofText file).text) (some tag) b).document fs =
        .ok (some d) := (Document.ofFile_text fs file).trans hd
    rw [Server.answer, Repository.stub, hdocument]
    rfl
  · intro posted d₁ d' hd₁ hload hroot
    obtain ⟨s, hs, hlines⟩ := exists_stubOfPosted hload
    obtain rfl := Option.some.inj (Except.ok.inj (hd₁.symm.trans hd))
    exact ⟨s, hs, hlines.trans (Document.stub_congr hroot)⟩
  · intro posted f d₁ hf hread hd₁
    rw [Document.ofFile] at hd₁
    split at hd₁
    · cases hd₁
    · rw [hf] at hd₁
      exact ⟨_, Document.load_of_ofBytes_eq hread hd₁ Document.bufferSource, rfl⟩

/-- A document with an alias, a class and the parent of the class. -/
def shelfText : String :=
  "<r><n><alias name=\"Size\" type=\"int\"/><class name=\"Book\" parent=\"N.Item\"/>" ++
    "<class name=\"Item\"/></n></r>"

/-- The file that holds the document. -/
def shelf : Files := ({} : Files).write (Path.ofText "shelf") ⟨shelfText.toUTF8.toList, 1⟩ 1

/-- A configuration that leaves the alias out. -/
def sizeless : Config := { blacklist := .ofList ["Size"] }

/-- With nothing in the cache, a class is answered for at both places, and so is the lack of the
alias. -/
theorem Repository.surfaces_agree_of_shelf :
    ∃ repo, (ofPath (.empty (Cached Unit) 5) 0 shelf (some "shelf") sizeless).2.result = .ok repo ∧
      SurfacesAgree shelf (some "blacklist=Size") "shelf" repo ∧
      (ancestryCommand shelf (some "blacklist=Size") "Book" ["shelf"]).result.toOption =
        some { exit := 0, out := "Book\nItem\n" } ∧
      (lookupCommand shelf (some "blacklist=Size") "shelf" "Size").result.toOption.map (·.exit) =
        some 1 := by
  have hc : (Config.readOptional (some "blacklist=Size")).result.toOption = some sizeless := by
    decide +kernel
  have hbuilt : ((Model.ofFile sizeless .empty shelf "shelf").result.toOption.join).isSome := by
    decide +kernel
  obtain ⟨b, hb⟩ := Option.isSome_iff_exists.mp hbuilt
  have hb := eq_ok_of_toOption (Option.join_eq_some_iff.mp hb)
  have hcurrent : Parser.IsCurrent { config := sizeless } (.empty (Cached Unit) 5) 0 shelf
      "shelf" := Parser.isCurrent_of_empty rfl
  obtain ⟨repo, hrepo, hagree⟩ :=
    Repository.surfaces_agree (eq_ok_of_toOption hc) (by decide) hb hcurrent
  exact ⟨repo, hrepo, hagree, by decide +kernel, by decide +kernel⟩

end Introspection
