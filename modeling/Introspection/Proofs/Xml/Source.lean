import Introspection.Proofs.Xml.Opening

/-!
# Documents with an opening declaration

The declaration of a document is found in the ASCII characters it begins with. Which encoding a
name stands for depends on the first bytes only where the name is one of the few that every reader
knows, and only names that stand for nothing readable are faults of their own.

* `beginning`, `Opening.Begins`: the declaration that a document begins with;
* `Source.ofBytes_of_begins`: what is read behind a declaration;
* `unreadable?`: what is wrong with the name of an encoding;
* **`Source.ofBytes_eq_error_iff`**: the documents that are at fault for their encoding.
-/

namespace Introspection.Xml

open Introspection.Text

/-! ## The beginning of a document -/

/-- The ASCII characters that a document begins with. -/
def beginning (bytes : List UInt8) : List Char :=
  (Encoding.detect bytes).1.asciiHead (Encoding.detect bytes).2

/-- Whether a document begins with a declaration. -/
def Opening.Begins (o : Opening) (bytes : List UInt8) : Prop := o.written <+: beginning bytes

theorem after?_eq_some_iff {ps cs rest : List Char} :
    after? ps cs = some rest ↔ cs = ps ++ rest := by
  induction ps generalizing cs with
  | nil => simp [after?]
  | cons p ps ih =>
    cases cs with
    | nil => simp [after?]
    | cons c cs =>
      rw [after?, List.cons_append, List.cons.injEq]
      split
      · next h => simp [h, ih]
      · next h => simp [Ne.symm h]

theorem beforeInstructionEnd?_append {cs : List Char} (h : ∀ c ∈ cs, c ≠ '?') (rest : List Char) :
    beforeInstructionEnd? (cs ++ '?' :: '>' :: rest) = some cs := by
  induction cs with
  | nil => rfl
  | cons c cs ih =>
    rw [List.cons_append, beforeInstructionEnd?,
      ih fun d hd => h d (List.mem_cons_of_mem c hd), Option.map_some]
    intro _ hc
    exact absurd hc (h c List.mem_cons_self)

theorem exists_of_beforeInstructionEnd? {cs text : List Char}
    (h : beforeInstructionEnd? cs = some text) : ∃ rest, cs = text ++ '?' :: '>' :: rest := by
  fun_induction beforeInstructionEnd? cs generalizing text with
  | case1 => cases h
  | case2 rest =>
    cases h
    exact ⟨rest, rfl⟩
  | case3 c cs hend ih =>
    obtain ⟨text, hcs, rfl⟩ := Option.map_eq_some_iff.mp h
    obtain ⟨rest, rfl⟩ := ih hcs
    exact ⟨rest, rfl⟩

theorem Opening.declarationText?_append (o : Opening) (rest : List Char) :
    declarationText? (o.written ++ rest) = some (o.inside ++ '?' :: '>' :: rest) := by
  obtain ⟨c, lead, hlead⟩ := List.exists_cons_of_ne_nil o.layout.lead_ne
  obtain ⟨tail, htail⟩ : ∃ tail, o.inside ++ '?' :: '>' :: rest = c :: tail :=
    ⟨_, by rw [inside, Layout.write, hlead]; rfl⟩
  have hafter : after? "<?xml".toList (o.written ++ rest) = some (c :: tail) := by
    rw [after?_eq_some_iff, ← htail]
    simp [written]
  have hc : isSpace c := o.layout.lead.isSpace_of_mem c (hlead ▸ List.mem_cons_self)
  rw [declarationText?, hafter, htail]
  simp [hc]

theorem exists_opening {head rest text : List Char} {d : Declaration}
    (hrest : declarationText? head = some rest) (htext : beforeInstructionEnd? rest = some text)
    (hd : Declaration.read? text = some d) :
    ∃ o : Opening, o.written <+: head := by
  obtain ⟨o, rfl, -⟩ := Declaration.read?_eq_some_iff.mp hd
  obtain ⟨more, rfl⟩ := exists_of_beforeInstructionEnd? htext
  rw [declarationText?] at hrest
  split at hrest
  · next c cs hafter =>
    obtain ⟨-, h⟩ := Option.ite_none_right_eq_some.mp hrest
    refine ⟨o, more, ?_⟩
    rw [after?_eq_some_iff.mp hafter, Option.some.inj h]
    simp [Opening.written]
  · cases hrest

/-! ## Behind the declaration -/

theorem Opening.length_written (o : Opening) : o.written.length = o.inside.length + 7 := by
  simp [written]

/-- The encoding that the text behind a declaration is in, where a document begins in `e`. -/
def Opening.encodingFrom (o : Opening) (e : Encoding) : Except Fault Encoding :=
  match o.encoding? with
  | some (_, n) => e.declared n.text
  | none => .ok e

theorem ok_bind {ε α β : Type} (a : α) (f : α → Except ε β) : (Except.ok a >>= f) = f a := rfl

theorem error_of_bind {ε α β : Type} {x : Except ε α} {f : α → Except ε β} {e : ε}
    (h : (x >>= f) = .error e) : x = .error e ∨ ∃ a, x = .ok a ∧ f a = .error e := by
  cases x with
  | error e' =>
    cases h
    exact .inl rfl
  | ok a => exact .inr ⟨a, rfl, h⟩

theorem Source.ofBytes_of_begins {o : Opening} {bytes : List UInt8} (h : o.Begins bytes) :
    Source.ofBytes bytes =
      o.encodingFrom (Encoding.detect bytes).1 >>= fun e =>
        Source.decode e o.ending.standalone
          ((Encoding.detect bytes).2.drop
            ((Encoding.detect bytes).1.unitSize * o.written.length)) := by
  obtain ⟨rest, hrest⟩ := h
  have htext : declarationText? ((Encoding.detect bytes).1.asciiHead (Encoding.detect bytes).2) =
      some (o.inside ++ '?' :: '>' :: rest) := by
    rw [← o.declarationText?_append, hrest]
    rfl
  have hend : beforeInstructionEnd? (o.inside ++ '?' :: '>' :: rest) = some o.inside :=
    beforeInstructionEnd?_append (fun c hc => (o.isPlain_of_mem_inside c hc).2) rest
  have hd : Declaration.read? o.inside = some o.declaration :=
    Declaration.read?_eq_some_iff.mpr ⟨o, rfl, rfl⟩
  rw [Source.ofBytes]
  simp only [htext, hend, hd, o.length_written, orMalformed, ok_bind]
  rw [Opening.declaration, Opening.encodingFrom]
  cases o.encoding? <;> rfl

/-! ## Faults -/

/-- The encodings that are read or refused by their own names. -/
def builtinNames : List String :=
  ["utf-8", "iso-8859-1", "us-ascii", "utf-16", "utf-16be", "utf-16le"]

/-- What is wrong with the name of an encoding, wherever it is declared. -/
def unreadable? (name : String) : Option Fault :=
  if name.toLower ∈ builtinNames then none
  else match reading? name with
    | some (.charset _) | some .foreign => none
    | some .multiByte => some .multiByteEncoding
    | some .notText => some (.notTextEncoding name)
    | some (.strict reason) => some (.strictEncoding name reason)
    | some .punycode => some .punycodeEncoding
    | none => some (.unknownEncoding name)

namespace Encoding

theorem declared_of_not_mem {name : String} (h : name.toLower ∉ builtinNames) (e : Encoding) :
    e.declared name = declared.named name := by
  simp only [builtinNames, List.mem_cons, List.not_mem_nil, or_false, not_or] at h
  obtain ⟨h8, h1, ha, h16, hbe, hle⟩ := h
  cases e with
  | utf16 bigEndian => cases bigEndian <;> simp [declared, h8, h1, ha, h16, hbe, hle]
  | _ => simp [declared, h8, h1, ha, h16, hbe, hle]

theorem eq_malformed_of_mem {name : String} (h : name.toLower ∈ builtinNames) {e : Encoding}
    {fault : Fault} (hfault : e.declared name = .error fault) : fault = .malformed := by
  simp only [builtinNames, List.mem_cons, List.not_mem_nil, or_false] at h
  rcases h with h | h | h | h | h | h <;> rcases e with _ | (_ | _) | _ | _ | _ <;>
    simp [declared, h] at hfault <;> exact hfault.symm

/-- A name is at fault for itself in whatever encoding the document begins. -/
theorem declared_eq_error_iff {e : Encoding} {name : String} {fault : Fault}
    (hf : fault ≠ .malformed) : e.declared name = .error fault ↔ unreadable? name = some fault := by
  rw [unreadable?]
  by_cases hmem : name.toLower ∈ builtinNames
  · rw [if_pos hmem]
    exact iff_of_false (fun h => hf (eq_malformed_of_mem hmem h)) (by simp)
  · rw [declared_of_not_mem hmem, declared.named, if_neg hmem]
    cases reading? name with
    | none => simp
    | some r => cases r <;> simp [hf.symm]

end Encoding

theorem Source.decode_ne {e : Encoding} {standalone : Bool} {bs : List UInt8} {fault : Fault}
    (hf : fault ≠ .malformed) : Source.decode e standalone bs ≠ .error fault := by
  rw [Source.decode]
  split
  · split
    · simp
    · simpa using hf.symm
  · simpa using hf.symm

theorem eq_malformed_of_orMalformed {α : Type} {x : Option α} {fault : Fault}
    (h : orMalformed x = .error fault) : fault = .malformed := by
  cases x <;> cases h
  rfl

theorem eq_some_of_orMalformed {α : Type} {x : Option α} {a : α} (h : orMalformed x = .ok a) :
    x = some a := by
  cases x <;> cases h
  rfl

/-- A document without a declaration can only be malformed. -/
theorem Source.exists_begins {bytes : List UInt8} {fault : Fault} (hf : fault ≠ .malformed)
    (h : Source.ofBytes bytes = .error fault) : ∃ o : Opening, o.Begins bytes := by
  rw [ofBytes] at h
  dsimp only at h
  split at h
  · exact absurd h (decode_ne hf)
  next rest hrest =>
  rcases error_of_bind h with h | ⟨text, htext, h⟩
  · exact absurd (eq_malformed_of_orMalformed h) hf
  rcases error_of_bind h with h | ⟨d, hd, -⟩
  · exact absurd (eq_malformed_of_orMalformed h) hf
  exact exists_opening hrest (eq_some_of_orMalformed htext) (eq_some_of_orMalformed hd)

/-- **A document is at fault for its encoding only if it begins with a declaration that names an
encoding which cannot be read.** -/
theorem Source.ofBytes_eq_error_iff {bytes : List UInt8} {fault : Fault} (hf : fault ≠ .malformed) :
    Source.ofBytes bytes = .error fault ↔
      ∃ (o : Opening) (l : Layout) (n : EncodingName),
        o.Begins bytes ∧ o.encoding? = some (l, n) ∧ unreadable? n.text = some fault := by
  constructor
  · intro h
    obtain ⟨o, hbegins⟩ := exists_begins hf h
    rw [ofBytes_of_begins hbegins] at h
    rcases error_of_bind h with h | ⟨e, -, h⟩
    · rw [Opening.encodingFrom] at h
      split at h
      · next l n hname =>
        exact ⟨o, l, n, hbegins, hname, (Encoding.declared_eq_error_iff hf).mp h⟩
      · cases h
    · exact absurd h (decode_ne hf)
  · rintro ⟨o, l, n, hbegins, hname, hfault⟩
    rw [ofBytes_of_begins hbegins, Opening.encodingFrom, hname]
    simp only [(Encoding.declared_eq_error_iff hf).mpr hfault]
    rfl

end Introspection.Xml
