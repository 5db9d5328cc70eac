import Introspection.Proofs.Text.Piece
import Introspection.Proofs.Text.Quoted
import Introspection.Xml.Encoding
import Mathlib.Data.List.Infix
import Mathlib.Data.List.TakeWhile

/-!
# Opening declarations

A declaration names the version of markup, and may name an encoding and say whether the document
stands alone. Blanks and quotes are free, and nothing else is read as a declaration.

* `Layout`, `Layout.write`: blanks and quotes around a value;
* `Opening`, `Opening.inside`, `Opening.written`: a declaration as it is written;
* `readPseudoAttribute?_write`, `exists_layout`: one value of a declaration;
* **`Declaration.read?_eq_some_iff`**: the texts that are read as a declaration.
-/

namespace Introspection.Xml

open Introspection.Text

/-! ## What is written -/

/-- White space of markup, perhaps none. -/
structure Spaces where
  chars : List Char
  isSpace_of_mem : ∀ c ∈ chars, isSpace c

/-- A value of a declaration. -/
structure DeclarationValue where
  chars : List Char
  isDeclarationChar_of_mem : ∀ c ∈ chars, isDeclarationChar c

/-- The name of an encoding. -/
structure EncodingName extends DeclarationValue where
  begins : chars.head?.any Char.isAlpha

/-- The blanks and quotes around a value of a declaration. -/
structure Layout where
  lead : Spaces
  lead_ne : lead.chars ≠ []
  beforeSign : Spaces
  afterSign : Spaces
  quote : Char
  isQuote : IsQuote quote

/-- A name and a value with blanks and quotes around them. -/
def Layout.write (l : Layout) (name : String) (value : List Char) : List Char :=
  l.lead.chars ++ (name.toList ++ (l.beforeSign.chars ++
    '=' :: (l.afterSign.chars ++ l.quote :: (value ++ [l.quote]))))

/-- What is written behind the encoding. -/
structure Ending where
  standalone? : Option (Layout × Bool)
  trail : Spaces

/-- An opening declaration as it is written. -/
structure Opening where
  layout : Layout
  version : DeclarationValue
  encoding? : Option (Layout × EncodingName)
  ending : Ending

/-- The name of an encoding as it is looked up. -/
def EncodingName.text (n : EncodingName) : String := String.ofList n.chars

namespace Ending

/-- How it is said whether a document stands alone. -/
def answer (standalone : Bool) : List Char := (if standalone then "yes" else "no").toList

def chars (e : Ending) : List Char :=
  (e.standalone?.elim [] fun (l, b) => l.write "standalone" (answer b)) ++ e.trail.chars

def standalone (e : Ending) : Bool := e.standalone?.any (·.2)

end Ending

namespace Opening

/-- The text of a declaration between its opening and its closing. -/
def inside (o : Opening) : List Char :=
  o.layout.write "version" o.version.chars ++
    ((o.encoding?.elim [] fun (l, n) => l.write "encoding" n.chars) ++ o.ending.chars)

/-- The whole of a declaration. -/
def written (o : Opening) : List Char := "<?xml".toList ++ (o.inside ++ "?>".toList)

/-- What a declaration says. -/
def declaration (o : Opening) : Declaration :=
  ⟨o.encoding?.map (·.2.text), o.ending.standalone⟩

end Opening

/-! ## Pseudo-attributes -/

/-- Whether a name may stand before a value. -/
def IsPseudoName (name : String) : Prop :=
  name.toList ≠ [] ∧ ∀ c ∈ name.toList, (c != '=' && !isSpace c) = true

theorem forall_mem_of_all {p : Char → Prop} [DecidablePred p] {cs : List Char}
    (h : cs.all fun c => decide (p c)) : ∀ c ∈ cs, p c := fun c hc =>
  of_decide_eq_true (List.all_eq_true.mp h c hc)

theorem isSpace_eq_false_of_isQuote {q : Char} (h : IsQuote q) : isSpace q = false := by
  rcases h with rfl | rfl <;> decide

theorem isDeclarationChar_eq_false_of_isQuote {q : Char} (h : IsQuote q) :
    isDeclarationChar q = false := by
  rcases h with rfl | rfl <;> decide

theorem bne_of_isQuote {q : Char} (h : IsQuote q) : (q != '"' && q != '\'') = false := by
  rcases h with rfl | rfl <;> decide

/-- The name ends at the first blank behind it, or else at the sign. -/
theorem takeWhile_name {name : String} (hn : IsPseudoName name) (s : Spaces) (rest : List Char) :
    (name.toList ++ (s.chars ++ '=' :: rest)).takeWhile (fun c => c != '=' && !isSpace c) =
      name.toList := by
  obtain ⟨cs, hcs⟩ := s
  cases cs with
  | nil => exact takeWhile_append_stop hn.2 (by decide)
  | cons c cs => exact takeWhile_append_stop hn.2 (by simp [hcs c List.mem_cons_self])

theorem readPseudoAttribute?_write {name : String} (hn : IsPseudoName name) {value : List Char}
    (hv : ∀ c ∈ value, isDeclarationChar c) (l : Layout) (rest : List Char) :
    readPseudoAttribute? (l.write name value ++ rest) = some (some (name, value), rest) := by
  obtain ⟨c, lead, hlead⟩ := List.exists_cons_of_ne_nil l.lead_ne
  obtain ⟨n, ns, hname⟩ := List.exists_cons_of_ne_nil hn.1
  have hc : isSpace c = true := l.lead.isSpace_of_mem c (hlead ▸ List.mem_cons_self)
  have hnspace : isSpace n = false := by
    have := hn.2 n (hname ▸ List.mem_cons_self)
    simp_all
  -- The reader goes from blanks to name, sign, blanks, quote and value.
  obtain ⟨body, hbody⟩ :
      ∃ body, body = l.afterSign.chars ++ l.quote :: (value ++ l.quote :: rest) := ⟨_, rfl⟩
  have htext : l.write name value ++ rest =
      c :: (lead ++ (name.toList ++ (l.beforeSign.chars ++ '=' :: body))) := by
    simp [Layout.write, hbody, hlead]
  have hskip : (c :: (lead ++ (name.toList ++ (l.beforeSign.chars ++ '=' :: body)))).dropWhile
      isSpace = name.toList ++ (l.beforeSign.chars ++ '=' :: body) := by
    rw [← List.cons_append, ← hlead, hname]
    exact dropWhile_append_stop l.lead.isSpace_of_mem hnspace
  have hsign : (l.beforeSign.chars ++ '=' :: body).dropWhile isSpace = '=' :: body :=
    dropWhile_append_stop l.beforeSign.isSpace_of_mem (by decide)
  have hquote : body.dropWhile isSpace = l.quote :: (value ++ l.quote :: rest) :=
    hbody ▸ dropWhile_append_stop l.afterSign.isSpace_of_mem (isSpace_eq_false_of_isQuote l.isQuote)
  have hvalue : (value ++ l.quote :: rest).takeWhile isDeclarationChar = value :=
    takeWhile_append_stop hv (isDeclarationChar_eq_false_of_isQuote l.isQuote)
  rw [htext, readPseudoAttribute?]
  simp only [hc, hskip, takeWhile_name hn, List.drop_left, hsign, hquote, hvalue,
    bne_of_isQuote l.isQuote]
  simp [hn.1]

/-- The blanks that a text begins with. -/
def Spaces.ofText (cs : List Char) : Spaces :=
  ⟨cs.takeWhile isSpace, fun _ hc => List.mem_takeWhile_imp hc⟩

theorem Spaces.ofText_append (cs : List Char) :
    (Spaces.ofText cs).chars ++ cs.dropWhile isSpace = cs :=
  List.takeWhile_append_dropWhile

theorem takeWhile_append_drop (p : Char → Bool) (cs : List Char) :
    cs.takeWhile p ++ cs.drop (cs.takeWhile p).length = cs :=
  (List.prefix_append_drop (List.takeWhile_prefix p)).symm

theorem takeWhile_append_cons {p : Char → Bool} {cs : List Char} {c : Char}
    (h : cs[(cs.takeWhile p).length]? = some c) :
    cs.takeWhile p ++ c :: cs.drop ((cs.takeWhile p).length + 1) = cs := by
  obtain ⟨hlt, hget⟩ := List.getElem?_eq_some_iff.mp h
  rw [← hget, ← List.drop_eq_getElem_cons hlt, takeWhile_append_drop]

theorem exists_layout {cs rest value : List Char} {name : String}
    (h : readPseudoAttribute? cs = some (some (name, value), rest)) :
    ∃ l : Layout, (∀ c ∈ value, isDeclarationChar c) ∧ cs = l.write name value ++ rest := by
  rw [readPseudoAttribute?.eq_def] at h
  split at h
  · cases h
  next c tail =>
  cases hc : isSpace c with
  | false => simp [hc] at h
  | true =>
    simp only [hc, Bool.not_true, Bool.false_eq_true, if_false] at h
    generalize hskip : (c :: tail).dropWhile isSpace = skipped at h
    generalize hname : skipped.takeWhile (fun c => c != '=' && !isSpace c) = signs at h
    split at h
    · next body hsign =>
      split at h
      · cases h
      split at h
      · next q quoted hquote =>
        simp only [Option.ite_none_left_eq_some, Option.ite_none_right_eq_some] at h
        obtain ⟨hq, hend, h⟩ := h
        obtain ⟨⟨rfl, rfl⟩, rfl⟩ := by simpa using h
        have hisQuote : IsQuote q := by
          simp only [Bool.and_eq_true, bne_iff_ne, not_and_or, not_not] at hq
          exact hq.symm
        -- The text is the parts that were read, one behind the other.
        have hlead : (Spaces.ofText (c :: tail)).chars ++ skipped = c :: tail :=
          hskip ▸ Spaces.ofText_append _
        have hsigns : signs ++ skipped.drop signs.length = skipped :=
          hname ▸ takeWhile_append_drop _ _
        have hbefore : (Spaces.ofText (skipped.drop signs.length)).chars ++ '=' :: body =
            skipped.drop signs.length := hsign ▸ Spaces.ofText_append _
        have hafter : (Spaces.ofText body).chars ++ q :: quoted = body :=
          hquote ▸ Spaces.ofText_append _
        have hvalue := takeWhile_append_cons hend
        refine ⟨⟨.ofText (c :: tail), by simp [Spaces.ofText, hc],
          .ofText (skipped.drop signs.length), .ofText body, q, hisQuote⟩,
          fun _ hc => List.mem_takeWhile_imp hc, ?_⟩
        conv_lhs => rw [← hlead, ← hsigns, ← hbefore, ← hafter, ← hvalue]
        simp [Layout.write]
      · cases h
    · split at h <;> cases h

theorem readPseudoAttribute?_eq_none_iff {cs rest : List Char} :
    readPseudoAttribute? cs = some (none, rest) ↔ (∀ c ∈ cs, isSpace c) ∧ rest = [] := by
  rw [readPseudoAttribute?.eq_def]
  split
  · simp
  next c tail =>
  cases hc : isSpace c with
  | false => simp [hc]
  | true =>
    simp only [Bool.not_true, Bool.false_eq_true, if_false]
    generalize hskip : (c :: tail).dropWhile isSpace = skipped
    rw [← List.dropWhile_eq_nil_iff, hskip]
    cases skipped with
    | nil => simp
    | cons d ds =>
      refine iff_of_false (fun h => ?_) fun h => List.cons_ne_nil d ds h.1
      split at h
      · split at h
        · cases h
        split at h
        · simp at h
        · cases h
      · cases h

theorem isPseudoName_version : IsPseudoName "version" :=
  ⟨by decide, forall_mem_of_all (by decide)⟩
theorem isPseudoName_encoding : IsPseudoName "encoding" :=
  ⟨by decide, forall_mem_of_all (by decide)⟩
theorem isPseudoName_standalone : IsPseudoName "standalone" :=
  ⟨by decide, forall_mem_of_all (by decide)⟩

theorem isDeclarationChar_answer (b : Bool) : ∀ c ∈ Ending.answer b, isDeclarationChar c := by
  cases b <;> exact forall_mem_of_all (by decide)

theorem readStandalone?_eq_some_iff {name : String} {value rest : List Char} {b : Bool} :
    readStandalone? name value rest = some b ↔
      name = "standalone" ∧ value = Ending.answer b ∧ ∀ c ∈ rest, isSpace c := by
  have hguard : (name ≠ "standalone" ∨ !rest.all isSpace) ↔
      ¬(name = "standalone" ∧ ∀ c ∈ rest, isSpace c) := by
    rw [not_and_or, ← List.all_eq_true, Bool.not_eq_true']
    simp
  have hanswer : (if value = "yes".toList then some true
      else if value = "no".toList then some false else none) = some b ↔
        value = Ending.answer b := by
    split
    · next hyes =>
      subst hyes
      cases b <;> decide
    split
    · next hno =>
      subst hno
      cases b <;> decide
    · next hyes hno =>
      cases b with
      | false => exact iff_of_false nofun hno
      | true => exact iff_of_false nofun hyes
  rw [readStandalone?]
  by_cases h : name = "standalone" ∧ ∀ c ∈ rest, isSpace c
  · rw [if_neg (not_not.mpr h ∘ hguard.mp), hanswer]
    exact ⟨fun hv => ⟨h.1, hv, h.2⟩, fun hs => hs.2.1⟩
  · rw [if_pos (hguard.mpr h)]
    exact iff_of_false nofun fun hs => h ⟨hs.1, hs.2.2⟩

/-! ## Signs -/

/-- Whether a character is one of ASCII that does not begin the end of an instruction. -/
def IsPlain (c : Char) : Prop := c.toNat < 128 ∧ c ≠ '?'

instance (c : Char) : Decidable (IsPlain c) := inferInstanceAs (Decidable (_ ∧ _))

theorem isPlain_of_isSpace {c : Char} (h : isSpace c) : IsPlain c := by
  simp only [isSpace, Bool.or_eq_true, beq_iff_eq] at h
  rcases h with ((rfl | rfl) | rfl) | rfl <;> exact ⟨by decide, by decide⟩

theorem isPlain_of_isQuote {q : Char} (h : IsQuote q) : IsPlain q := by
  rcases h with rfl | rfl <;> exact ⟨by decide, by decide⟩

theorem isPlain_of_isDeclarationChar {c : Char} (h : isDeclarationChar c) : IsPlain c := by
  refine ⟨?_, by rintro rfl; revert h; decide⟩
  simp only [isDeclarationChar, Bool.or_eq_true, beq_iff_eq] at h
  rcases h with ((h | rfl) | rfl) | rfl
  · have hranges : (decide (65 ≤ c.val ∧ c.val ≤ 90) ||
        decide (97 ≤ c.val) && decide (c.val ≤ 122) ||
        decide (48 ≤ c.val) && decide (c.val ≤ 57)) = true := h
    simp [UInt32.le_iff_toNat_le] at hranges
    omega
  all_goals decide

theorem Layout.isPlain_of_mem_write {name : String} (hn : ∀ c ∈ name.toList, IsPlain c)
    {value : List Char} (hv : ∀ c ∈ value, IsPlain c) (l : Layout) :
    ∀ c ∈ l.write name value, IsPlain c := by
  have hspaces (s : Spaces) : ∀ c ∈ s.chars, IsPlain c := fun c hc =>
    isPlain_of_isSpace (s.isSpace_of_mem c hc)
  have hquote := isPlain_of_isQuote l.isQuote
  have hsign : IsPlain '=' := ⟨by decide, by decide⟩
  intro c hc
  simp only [write, List.mem_append, List.mem_cons, List.not_mem_nil, or_false] at hc
  rcases hc with hc | hc | hc | rfl | hc | rfl | hc | rfl
  · exact hspaces _ c hc
  · exact hn c hc
  · exact hspaces _ c hc
  · exact hsign
  · exact hspaces _ c hc
  · exact hquote
  · exact hv c hc
  · exact hquote

/-- The signs of a declaration are those of ASCII, and none begins its closing. -/
theorem Opening.isPlain_of_mem_inside (o : Opening) : ∀ c ∈ o.inside, IsPlain c := by
  have hvalue (v : DeclarationValue) : ∀ c ∈ v.chars, IsPlain c := fun c hc =>
    isPlain_of_isDeclarationChar (v.isDeclarationChar_of_mem c hc)
  have hanswer (b : Bool) : ∀ c ∈ Ending.answer b, IsPlain c := fun c hc =>
    isPlain_of_isDeclarationChar (isDeclarationChar_answer b c hc)
  obtain ⟨l, v, encoding?, ⟨standalone?, trail⟩⟩ := o
  intro c hc
  simp only [inside, Ending.chars, List.mem_append] at hc
  rcases hc with hc | hc | hc | hc
  · exact l.isPlain_of_mem_write (forall_mem_of_all (by decide)) (hvalue v) c hc
  · cases encoding? with
    | none => cases hc
    | some p => exact p.1.isPlain_of_mem_write (forall_mem_of_all (by decide)) (hvalue _) c hc
  · cases standalone? with
    | none => cases hc
    | some p => exact p.1.isPlain_of_mem_write (forall_mem_of_all (by decide)) (hanswer _) c hc
  · exact isPlain_of_isSpace (trail.isSpace_of_mem c hc)

/-! ## Declarations -/

/-- Reads what stands behind the encoding. -/
def readEnding? (cs : List Char) : Option Bool :=
  match readPseudoAttribute? cs with
  | some (some (name, value), rest) => readStandalone? name value rest
  | some (none, _) => some false
  | none => none

theorem readEnding?_eq_some_iff {cs : List Char} {b : Bool} :
    readEnding? cs = some b ↔ ∃ e : Ending, e.chars = cs ∧ e.standalone = b := by
  constructor
  · intro h
    rw [readEnding?] at h
    split at h
    · next name value rest hread =>
      obtain ⟨rfl, rfl, hrest⟩ := readStandalone?_eq_some_iff.mp h
      obtain ⟨l, -, rfl⟩ := exists_layout hread
      exact ⟨⟨some (l, b), ⟨rest, hrest⟩⟩, rfl, rfl⟩
    · next hread =>
      cases h
      exact ⟨⟨none, ⟨cs, (readPseudoAttribute?_eq_none_iff.mp hread).1⟩⟩, rfl, rfl⟩
    · cases h
  · rintro ⟨⟨_ | ⟨l, b⟩, trail⟩, rfl, rfl⟩
    · have : readPseudoAttribute? trail.chars = some (none, []) :=
        readPseudoAttribute?_eq_none_iff.mpr ⟨trail.isSpace_of_mem, rfl⟩
      simp [readEnding?, Ending.chars, Ending.standalone, this]
    · simp [readEnding?, Ending.chars, Ending.standalone,
        readPseudoAttribute?_write isPseudoName_standalone (isDeclarationChar_answer b),
        readStandalone?_eq_some_iff]
      exact trail.isSpace_of_mem

theorem Ending.read_ne_encoding (e : Ending) (value rest : List Char) :
    readPseudoAttribute? e.chars ≠ some (some ("encoding", value), rest) := by
  rcases e with ⟨_ | ⟨l, b⟩, trail⟩
  · have hread : readPseudoAttribute? trail.chars = some (none, []) :=
      readPseudoAttribute?_eq_none_iff.mpr ⟨trail.isSpace_of_mem, rfl⟩
    simp [chars, hread]
  · have hread := readPseudoAttribute?_write isPseudoName_standalone (isDeclarationChar_answer b) l
      trail.chars
    simp [chars, hread]

namespace Declaration

/-- Reads what stands behind the version. -/
def readRest? (cs : List Char) : Option Declaration :=
  match readPseudoAttribute? cs with
  | some (some (name, value), rest) =>
    if name = "encoding" then
      if value.head?.any Char.isAlpha then
        (readEnding? rest).map (⟨some (String.ofList value), ·⟩)
      else none
    else (readEnding? cs).map (⟨none, ·⟩)
  | _ => (readEnding? cs).map (⟨none, ·⟩)

theorem read?_eq (cs : List Char) :
    read? cs =
      match readPseudoAttribute? cs with
      | some (some (name, _), rest) => if name = "version" then readRest? rest else none
      | _ => none := by
  simp only [read?, Option.bind_eq_bind, Option.pure_def]
  rcases readPseudoAttribute? cs with _ | ⟨_ | ⟨name, v⟩, rest⟩
  · rfl
  · rfl
  simp only [Option.bind_some]
  by_cases hname : name = "version"
  · simp only [hname, ne_eq, not_true, if_false, if_true, readRest?, readEnding?]
    rcases readPseudoAttribute? rest with _ | ⟨_ | ⟨name, value⟩, rest'⟩
    · rfl
    · rfl
    simp only [Option.bind_some]
    by_cases hname : name = "encoding"
    · simp only [hname, if_true]
      cases value.head?.any Char.isAlpha with
      | false => rfl
      | true =>
        simp only [Bool.not_true, Bool.false_eq_true, if_false, if_true]
        rcases readPseudoAttribute? rest' with _ | ⟨_ | ⟨name, value⟩, rest'⟩
        · rfl
        · rfl
        · exact Option.map_eq_bind.symm
    · simp only [hname, if_false]
      exact Option.map_eq_bind.symm
  · simp [hname]

theorem readRest?_eq_some_iff {cs : List Char} {d : Declaration} :
    readRest? cs = some d ↔
      ∃ (encoding? : Option (Layout × EncodingName)) (e : Ending),
        (encoding?.elim [] fun (l, n) => l.write "encoding" n.chars) ++ e.chars = cs ∧
          Declaration.mk (encoding?.map (·.2.text)) e.standalone = d := by
  constructor
  · intro h
    have hplain (h : (readEnding? cs).map (Declaration.mk none) = some d) :
        ∃ e : Ending, e.chars = cs ∧ Declaration.mk none e.standalone = d := by
      obtain ⟨b, hending, rfl⟩ := Option.map_eq_some_iff.mp h
      obtain ⟨e, rfl, rfl⟩ := readEnding?_eq_some_iff.mp hending
      exact ⟨e, rfl, rfl⟩
    rw [readRest?] at h
    split at h
    · next name value rest hread =>
      split_ifs at h with hname hbegins
      · obtain ⟨b, hending, rfl⟩ := Option.map_eq_some_iff.mp h
        obtain ⟨l, hv, rfl⟩ := exists_layout hread
        obtain ⟨e, rfl, rfl⟩ := readEnding?_eq_some_iff.mp hending
        subst hname
        exact ⟨some (l, ⟨⟨value, hv⟩, hbegins⟩), e, rfl, rfl⟩
      · exact ⟨none, hplain h⟩
    · exact ⟨none, hplain h⟩
  · rintro ⟨encoding?, e, rfl, rfl⟩
    have hending : readEnding? e.chars = some e.standalone :=
      readEnding?_eq_some_iff.mpr ⟨e, rfl, rfl⟩
    cases encoding? with
    | none =>
      simp only [Option.elim_none, List.nil_append, readRest?, hending, Option.map_some]
      split
      · next name value rest hread =>
        have : name ≠ "encoding" := by
          rintro rfl
          exact e.read_ne_encoding value rest hread
        rw [if_neg this]
        rfl
      · rfl
    | some p =>
      have hread := readPseudoAttribute?_write isPseudoName_encoding
        p.2.isDeclarationChar_of_mem p.1 e.chars
      simp only [Option.elim_some, readRest?, hread, p.2.begins, hending]
      rfl

/-- **What is read as a declaration is what can be written as one.** -/
theorem read?_eq_some_iff {cs : List Char} {d : Declaration} :
    read? cs = some d ↔ ∃ o : Opening, o.inside = cs ∧ o.declaration = d := by
  rw [read?_eq]
  constructor
  · intro h
    split at h
    · next name v rest hread =>
      obtain ⟨rfl, hrest⟩ := Option.ite_none_right_eq_some.mp h
      obtain ⟨l, hv, rfl⟩ := exists_layout hread
      obtain ⟨encoding?, e, rfl, rfl⟩ := readRest?_eq_some_iff.mp hrest
      exact ⟨⟨l, ⟨v, hv⟩, encoding?, e⟩, rfl, rfl⟩
    · cases h
  · rintro ⟨⟨l, v, encoding?, e⟩, rfl, rfl⟩
    have hread := readPseudoAttribute?_write isPseudoName_version v.isDeclarationChar_of_mem l
      ((encoding?.elim [] fun (l, n) => l.write "encoding" n.chars) ++ e.chars)
    simp only [Opening.inside, hread, if_true]
    exact readRest?_eq_some_iff.mpr ⟨encoding?, e, rfl, rfl⟩

end Declaration

end Introspection.Xml
