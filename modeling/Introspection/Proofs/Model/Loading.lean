import Introspection.Model.Load
import Introspection.Proofs.Model.Merge
import Introspection.Proofs.Model.Header
import Introspection.Proofs.Text.Bytes
import Introspection.Proofs.Xml.Source

/-!
# What loading can fail with

Bytes that are no document give nothing, and so does a path without a file. All the same loading
can fail: where a document declares an encoding that is unknown, or of several bytes a character, or
that stands for no text, and where no file system could hold the path. Nothing fails after that with
options as they are by default.

* `Xml.Fault.loaded`, `Document.load_eq`: what is loaded of a document at fault;
* `Document.Refused`: documents that declare what cannot be read;
* `Model.exists_ofDocument`: every loaded document has a model;
* **`loading_fails_iff`**: the failures of loading.
-/

namespace Introspection

open Xml

/-- What is loaded of a document at fault. -/
def Xml.Fault.loaded (fault : Fault) : Except Failure (Option Document) :=
  fault.failure?.elim (.ok none) .error

theorem Xml.Fault.loaded_eq_error_iff {fault : Fault} {f : Failure} :
    fault.loaded = .error f ↔ fault.failure? = some f := by
  cases fault <;> simp [loaded, failure?]

namespace Document

theorem load_eq (source : String) (bytes : List UInt8) :
    load source bytes =
      match Source.ofBytes bytes with
      | .ok s => .ok (ofSource? source s)
      | .error fault => fault.loaded := rfl

/-- Whether a document begins with a declaration that names an encoding which cannot be read, and
how that is told. -/
def Refused (bytes : List UInt8) (f : Failure) : Prop :=
  ∃ (o : Opening) (l : Layout) (n : EncodingName),
    o.Begins bytes ∧ o.encoding? = some (l, n) ∧ (unreadable? n.text).bind Fault.failure? = some f

theorem load_eq_error_iff {source : String} {bytes : List UInt8} {f : Failure} :
    load source bytes = .error f ↔ Refused bytes f := by
  have hload : load source bytes = .error f ↔
      ∃ fault : Fault, Source.ofBytes bytes = .error fault ∧ fault.failure? = some f := by
    rw [load_eq]
    cases Source.ofBytes bytes <;> simp [Fault.loaded_eq_error_iff]
  have hne {fault : Fault} (h : fault.failure? = some f) : fault ≠ .malformed := by
    rintro rfl
    cases h
  rw [hload]
  constructor
  · rintro ⟨fault, hfault, hf⟩
    obtain ⟨o, l, n, hbegins, hname, hn⟩ := (Source.ofBytes_eq_error_iff (hne hf)).mp hfault
    exact ⟨o, l, n, hbegins, hname, by rw [hn]; exact hf⟩
  · rintro ⟨o, l, n, hbegins, hname, hn⟩
    obtain ⟨fault, hfault, hf⟩ := Option.bind_eq_some_iff.mp hn
    exact ⟨fault, (Source.ofBytes_eq_error_iff (hne hf)).mpr ⟨o, l, n, hbegins, hname, hfault⟩, hf⟩

theorem ofFile_eq_error_iff {fs : Files} {path : String} {f : Failure} :
    ofFile fs path = .error f ↔
      if '\x00' ∈ path.toList then f = .nullInPath
      else ∃ file, fs.find? (Path.ofText path) = some file ∧ Refused file.bytes f := by
  rw [ofFile]
  split
  · simp [eq_comm]
  · cases fs.find? (Path.ofText path) with
    | none => simp
    | some file => simp [load_eq_error_iff]

end Document

namespace Model

theorem exists_ofDocument {config : Config} (hp : isName config.rootPrefix)
    (hd : config.delimiter ≠ "") (r : Registry) (d : Document) :
    ∃ b, (ofDocument config r d).result = .ok b := by
  have hheader : ∃ header?, Header.read? config d = .ok header? := by
    rw [Header.read?_eq hp]
    cases d.heading? with
    | none => exact ⟨none, rfl⟩
    | some e =>
      obtain ⟨header, he⟩ := Header.exists_ofElement hd e
      exact ⟨some header, congrArg (Except.map some) he⟩
  obtain ⟨header?, hh⟩ := hheader
  exact ⟨_, by rw [ofDocument_eq hh (Document.candidates_eq hp)]⟩

/-- The model of what was loaded. -/
def ofLoaded (config : Config) (r : Registry) (loaded : Except Failure (Option Document)) :
    Outcome (Option Built) := do
  match ← Outcome.ofExcept loaded with
  | none => return none
  | some d => return some (← ofDocument config r d)

theorem ofLoaded_eq_error_iff {config : Config} (hp : isName config.rootPrefix)
    (hd : config.delimiter ≠ "") {r : Registry} {loaded : Except Failure (Option Document)}
    {f : Failure} : (ofLoaded config r loaded).result = .error f ↔ loaded = .error f := by
  rcases loaded with e | _ | d
  · change Except.error e = Except.error f ↔ _
    rw [Except.error.injEq, Except.error.injEq]
  · exact iff_of_false nofun nofun
  · obtain ⟨b, hb⟩ := exists_ofDocument hp hd r d
    have hsome : (ofLoaded config r (.ok (some d))).result = .ok (some b) := by
      rw [ofLoaded, Outcome.ofExcept_ok_bind]
      simp only [Outcome.bind_pure_comp, hb]
      rfl
    rw [hsome]
    exact iff_of_false nofun nofun

end Model

/-- **Loading fails for encodings that cannot be read and for paths that cannot be, and for nothing
else.** -/
theorem loading_fails_iff (source : String) (bytes : List UInt8) (fs : Files) (path : String)
    (r : Registry) (f : Failure) :
    (Document.load source bytes = .error f ↔ Document.Refused bytes f) ∧
      (Document.ofFile fs path = .error f ↔
        if '\x00' ∈ path.toList then f = .nullInPath
        else ∃ file, fs.find? (Path.ofText path) = some file ∧ Document.Refused file.bytes f) ∧
      ((Model.ofBuffer {} r bytes).result = .error f ↔ Document.Refused bytes f) ∧
      ((Model.ofFile {} r fs path).result = .error f ↔ Document.ofFile fs path = .error f) := by
  have hp : isName ({} : Config).rootPrefix := by decide
  have hd : ({} : Config).delimiter ≠ "" := by decide
  have hbuffer : (Model.ofBuffer {} r bytes).result = .error f ↔ Document.Refused bytes f :=
    Iff.trans (Model.ofLoaded_eq_error_iff hp hd) Document.load_eq_error_iff
  exact ⟨Document.load_eq_error_iff, Document.ofFile_eq_error_iff, hbuffer,
    Model.ofLoaded_eq_error_iff hp hd⟩

/-- A document that is well formed but for the encoding it declares. -/
theorem load_unheard :
    Document.loadText "<?xml version='1.0' encoding='bogus'?><r/>" =
      .error (.unknownEncoding "bogus") := by
  have hsource : Source.ofBytes (Text.utf8Bytes
      "<?xml version='1.0' encoding='bogus'?><r/>".toList) = .error (.unknownEncoding "bogus") := by
    decide +kernel
  rw [Document.loadText, Text.toList_toUTF8, Document.load_eq, hsource]
  rfl

end Introspection
