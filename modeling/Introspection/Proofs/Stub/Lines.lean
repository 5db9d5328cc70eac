import Introspection.Proofs.Outcome
import Introspection.Proofs.Stub.Descent
import Introspection.Proofs.Stub.Signature
import Introspection.Proofs.Text.Break
import Introspection.Proofs.Text.Piece
import Introspection.Proofs.Xml.Names
import Mathlib.Data.List.Basic

/-!
# Nodes and lines of stubs

A stub has one line for each node, unless a text that a rule takes from the document as it is holds
a line feed.

* `Rule.spliced`: the texts that a rule takes over;
* **`Rule.occurrences_text`**: the breaks in a line are those in its spliced texts;
* `splitOn_linesText_iff`: when a text of lines is cut into these lines;
* **`Document.stub_lines`**: the lines of the stub of a loaded document.
-/

namespace Introspection

open Text Xml

namespace Stub

/-! ## Spliced texts -/

/-- The name of the type that an typeHint gives, empty if there is none. -/
def typeName (e : Element) : String :=
  ((((e.firstChildNamed? "array").getD e).firstChildNamed? "type").bind
    (·.attribute? "name")).getD ""

/-- The name of the type of a returned value, empty if there is none. -/
def returnedTypeName (e : Element) : String := (e.firstChildNamed? "return-value").elim "" typeName

/-- The texts that a parameter brings into the line of its callable. -/
def splicedOfParameter (p : Element) : List String :=
  if isVarargsElement p then [] else [p.attributeD "name", typeName p]

/-- The texts that a callable with a name brings into its line. -/
def splicedOfCallable (e : Element) : List String :=
  nameOf e ::
    ((parameterElements e).filter (·.tag != "instance-parameter")).flatMap splicedOfParameter ++
      [returnedTypeName e]

/-- The texts of the document that stand in a line as they are: names, versions, types and the
values of members. Constants are in canonical form or between quotes, the aliases in errors are
between quotes, and of documentation there is the first line only. -/
def Rule.spliced (r : Rule) (e : Element) (opener : Option Element) : List String :=
  match r with
  | .repository | .parameters | .doc => []
  | .space => [nameOf e, e.attributeD "version"]
  | .typeAlias | .constant | .enumeration => [nameOf e]
  | .aliasTarget =>
    let aliasName := opener.elim "" nameOf
    if nameOf e ≠ "" ∧ aliasName ≠ "" then [aliasName, nameOf e] else []
  | .typeComment => [nameOf e, e.attributeD "type"]
  | .member => [nameOf e, e.attributeD "value"]
  | .record => [nameOf e, withoutNamespace (e.attributeD "parent")]
  | .field | .parameter => [nameOf e, typeName e]
  | .callable => if nameOf e = "" then [] else splicedOfCallable e
  | .callback => [nameOf e, returnedTypeName e]
  | .returnValue => [typeName e]

/-- The spliced texts of the line of a node; nodes without a rule have none. -/
def Visit.spliced (v : Visit) : List String :=
  v.rule?.elim [] fun r => r.spliced v.node.element (v.scope.opener.map (·.element))

/-! ## Parts of lines -/

theorem isUnbroken_of_isName {s : String} (h : isName s) : isUnbroken s := by
  obtain ⟨c, cs, hs, -, hall⟩ := exists_cons_of_isName h
  rw [isUnbroken_iff, hs]
  exact fun x hx => isBreak_eq_false_of isNameChar (by decide) (hall x hx)

theorem isUnbroken_levels (level ruleLevel : Int) : isUnbroken (levels level ruleLevel) :=
  isUnbroken_append (isUnbroken_append (isUnbroken_decimal level) (by decide))
    (isUnbroken_decimal ruleLevel)

theorem isUnbroken_indentation (level : Int) : isUnbroken (indentation level) :=
  isUnbroken_ofList fun c hc => by
    rw [List.eq_of_mem_replicate hc]
    decide

theorem isUnbroken_quotedOrNone (s : Option String) : isUnbroken (quotedOrNone s) := by
  cases s with
  | none => decide
  | some s => exact isUnbroken_quoted s

theorem isUnbroken_constantValue (value : Option String) : isUnbroken (constantValue value) := by
  rcases value with _ | raw
  · decide
  · rw [constantValue]
    split
    · exact isUnbroken_decimal _
    · exact isUnbroken_quoted raw

theorem isUnbroken_docText (e : Element) : isUnbroken (docText e) := by
  refine isUnbroken_ofList fun c hc => ?_
  rw [trimRight, List.mem_reverse, trimLeft] at hc
  have hc := List.mem_reverse.mp ((List.dropWhile_suffix _).subset hc)
  rw [List.mem_cons, List.mem_cons] at hc
  rcases hc with rfl | rfl | hc
  · decide
  · decide
  · exact isBreak_eq_false_of_mem_firstLine hc

section Breaks

variable {c : Char} (hc : isBreak c)

include hc

theorem occurrences_stubType (name : Option String) :
    occurrences c (stubType name) = occurrences c (name.getD "") := by
  rcases name with _ | name
  · exact occurrences_of_isUnbroken hc (by decide)
  · rw [stubType, Option.getD_some]
    split
    · next h =>
      rw [h]
      exact occurrences_of_isUnbroken hc (by decide)
    · cases h : fundamentalTypes.lookup name with
      | none => rfl
      | some t =>
        -- A fundamental type and its name in stubs are both without breaks.
        have hall : ∀ p ∈ fundamentalTypes, isUnbroken p.1 ∧ isUnbroken p.2 := by decide
        obtain ⟨before, behind, heq, -⟩ := List.lookup_eq_some_iff.mp h
        obtain ⟨hname, ht⟩ := hall (name, t) (by simp [heq])
        rw [Option.getD_some, occurrences_of_isUnbroken hc ht, occurrences_of_isUnbroken hc hname]

theorem occurrences_typeHint (e : Element) :
    occurrences c (typeHint e) = occurrences c (typeName e) := by
  rw [typeHint, typeName]
  cases e.firstChildNamed? "array" with
  | some array =>
    simp (disch := decide) only [occurrences_append, occurrences_of_isUnbroken hc,
      occurrences_stubType hc, Option.getD_some, Nat.zero_add, Nat.add_zero]
  | none =>
    rw [Option.getD_none]
    cases e.firstChildNamed? "type" with
    | none => exact occurrences_of_isUnbroken hc (by decide)
    | some t => exact occurrences_stubType hc _

theorem occurrences_returnHint (e : Element) :
    occurrences c (returnHint e) = occurrences c (returnedTypeName e) := by
  rw [returnHint, returnedTypeName]
  cases e.firstChildNamed? "return-value" with
  | none => exact occurrences_of_isUnbroken hc (by decide)
  | some r => exact occurrences_typeHint hc r

theorem occurrences_parameterEntry (p : Element) :
    occurrences c (parameterEntry p) = total c (splicedOfParameter p) := by
  rw [parameterEntry_eq, splicedOfParameter]
  split
  · exact occurrences_of_isUnbroken hc (by decide)
  · rw [occurrences_append, occurrences_append, occurrences_typeHint hc,
      occurrences_of_isUnbroken hc (by decide : isUnbroken ": "), parameterName]
    split
    · next h => simp (disch := decide) [h, occurrences_of_isUnbroken hc]
    · simp

theorem occurrences_parameterList (e : Element) :
    occurrences c (parameterList e (receiver? e.tag)) =
      total c (((parameterElements e).filter (·.tag != "instance-parameter")).flatMap
        splicedOfParameter) := by
  have hreceiver : total c ((receiver? e.tag).filter (· != "")).toList = 0 := by
    rw [receiver?]
    split
    · exact occurrences_of_isUnbroken hc (by decide : isUnbroken "self")
    split
    · exact occurrences_of_isUnbroken hc (by decide : isUnbroken "cls")
    · rfl
  rw [parameterList, occurrences_intercalate hc (by decide), total_append, hreceiver, Nat.zero_add,
    listedElements_eq]
  exact total_map_eq_flatMap c fun p _ => occurrences_parameterEntry hc p

/-! ## Rules -/

theorem occurrences_spaceLabel (e : Element) :
    occurrences c (spaceLabel e) = total c [nameOf e, e.attributeD "version"] := by
  rw [spaceLabel]
  split
  · next h => simp (disch := decide) [h, occurrences_of_isUnbroken hc]
  · simp (disch := decide) [occurrences_of_isUnbroken hc]

theorem occurrences_aliasText (target aliasName : Option String) :
    occurrences c (aliasText target aliasName) =
      total c (if target.getD "" ≠ "" ∧ aliasName.getD "" ≠ "" then
        [aliasName.getD "", target.getD ""] else []) := by
  rw [aliasText]
  split
  · simp (disch := decide) [occurrences_of_isUnbroken hc, occurrences_stubType hc]
  · have hquoted (s : Option String) := occurrences_of_isUnbroken hc (isUnbroken_quotedOrNone s)
    simp (disch := decide) [occurrences_of_isUnbroken hc, hquoted]

theorem occurrences_typeText (e : Element) :
    occurrences c (typeText e) = total c [nameOf e, e.attributeD "type"] := by
  have hname : occurrences c ((e.attribute? "name").getD "None") = occurrences c (nameOf e) :=
    occurrences_getD hc (by decide) (e.attribute? "name")
  rw [typeText, occurrences_append, occurrences_append, hname]
  split
  · next h => simp (disch := decide) [h, occurrences_of_isUnbroken hc]
  · simp (disch := decide) [occurrences_of_isUnbroken hc]

theorem occurrences_recordText (e : Element) :
    occurrences c (recordText e) =
      total c [nameOf e, withoutNamespace (e.attributeD "parent")] := by
  rw [recordText]
  split
  · next h => simp (disch := decide) [h, occurrences_of_isUnbroken hc]
  · simp (disch := decide) [occurrences_of_isUnbroken hc]

theorem occurrences_callableText {e : Element} (h : isName e.tag) :
    occurrences c (callableText e) =
      total c (if nameOf e = "" then [] else splicedOfCallable e) := by
  have htag := occurrences_of_isUnbroken hc (isUnbroken_of_isName h)
  rw [callableText]
  split
  · simp (disch := decide) [occurrences_of_isUnbroken hc, htag]
  · have hraises : occurrences c (if saysRaises e then "  # raises GLib.Error" else "") = 0 :=
      occurrences_of_isUnbroken hc (isUnbroken_ite (by decide) (by decide))
    simp (disch := decide) [occurrences_of_isUnbroken hc, hraises, splicedOfCallable,
      occurrences_parameterList hc, occurrences_returnHint hc]
    omega

/-- **The breaks in the text of a rule are those in its spliced texts.** -/
theorem Rule.occurrences_text (r : Rule) {e : Element} (h : isName e.tag) (level ruleLevel : Int)
    (opener : Option Element) :
    occurrences c (r.text e level ruleLevel opener) = total c (r.spliced e opener) := by
  have htag := occurrences_of_isUnbroken hc (isUnbroken_of_isName h)
  have hlevels := occurrences_of_isUnbroken hc (isUnbroken_levels level ruleLevel)
  have hvalue := occurrences_of_isUnbroken hc (isUnbroken_constantValue (e.attribute? "value"))
  cases r with
  | space => simp (disch := decide) [text, spliced, hlevels, occurrences_spaceLabel hc,
      occurrences_of_isUnbroken hc]
  | aliasTarget =>
    rw [text, spliced, occurrences_aliasText hc]
    cases opener <;> rfl
  | typeComment => exact occurrences_typeText hc e
  | member =>
    rw [text, occurrences_append, occurrences_append, occurrences_upper hc,
      occurrences_of_isUnbroken hc (by decide : isUnbroken " = "), occurrences_getD hc (by decide)]
    rfl
  | record => exact occurrences_recordText hc e
  | callable => exact occurrences_callableText hc h
  | doc => exact occurrences_of_isUnbroken hc (isUnbroken_docText e)
  | enumeration =>
    have hbase : occurrences c (if e.tag = "bitfield" then "IntFlag" else "IntEnum") = 0 :=
      occurrences_of_isUnbroken hc (isUnbroken_ite (by decide) (by decide))
    simp (disch := decide) [text, spliced, hbase, occurrences_of_isUnbroken hc]
  | parameter =>
    have hkind : occurrences c (if e.tag = "instance-parameter" then "self" else "param") = 0 :=
      occurrences_of_isUnbroken hc (isUnbroken_ite (by decide) (by decide))
    simp (disch := decide) [text, spliced, hkind, occurrences_typeHint hc,
      occurrences_of_isUnbroken hc]
  | repository | typeAlias | constant | field | callback | parameters | returnValue =>
    simp (disch := decide) [text, spliced, htag, hlevels, hvalue,
      occurrences_typeHint hc, occurrences_returnHint hc, occurrences_of_isUnbroken hc]

/-! ## Visits -/

/-- **The breaks in the line of a node are those in its spliced texts.** -/
theorem Visit.occurrences_line {v : Visit} (h : isName v.node.element.tag) :
    occurrences c v.line = total c v.spliced := by
  have hindent := occurrences_of_isUnbroken hc (isUnbroken_indentation v.level)
  rw [line, spliced]
  cases v.rule? with
  | some r =>
    dsimp only [Option.elim_some]
    rw [Rule.line, indented, occurrences_append, hindent, r.occurrences_text hc h, Nat.zero_add]
  | none =>
    have htag := occurrences_of_isUnbroken hc (isUnbroken_of_isName h)
    have hlevels := occurrences_of_isUnbroken hc (isUnbroken_levels v.level v.scope.level)
    simp (disch := decide) [indented, hindent, htag, hlevels, occurrences_of_isUnbroken hc]

end Breaks

mutual

theorem map_placed_descend (s : Scope) (parent : Option Node) (level : Int) (number : Nat) :
    ∀ e : Element, (descend s parent level number e).map Visit.placed = e.placed level
  | ⟨_, _, _, children, _⟩ => by
    rw [descend, List.map_cons, map_placed_descendRow _ _ _ _ children, Element.placed]
    rfl

theorem map_placed_descendRow (s : Scope) (parent : Node) (level : Int) (number : Nat) :
    ∀ es : List Element,
      (descend.descendRow s parent level number es).map Visit.placed =
        Element.placed.placedRow level es
  | [] => rfl
  | e :: es => by
    rw [descend.descendRow, List.map_append, map_placed_descend _ _ _ _ e,
      map_placed_descendRow _ _ _ _ es, Element.placed.placedRow]

end

end Stub

namespace Document

/-! ## Texts of lines -/

theorem linesText_cons (line : String) (lines : List String) :
    linesText (line :: lines) = line ++ "\n" ++ linesText lines := by
  rw [linesText, List.map_cons, String.join_cons, linesText]

/-- Every line brings a line feed, and those that it holds. -/
theorem occurrences_linesText (lines : List String) :
    occurrences '\n' (linesText lines) = lines.length + total '\n' lines := by
  induction lines with
  | nil => rfl
  | cons line lines ih =>
    rw [linesText_cons, occurrences_append, occurrences_append, ih, total_cons, List.length_cons,
      show occurrences '\n' "\n" = 1 from rfl]
    omega

theorem splitOn_linesText (lines : List String) :
    (linesText lines).toList.splitOn '\n' = lines.flatMap (·.toList.splitOn '\n') ++ [[]] := by
  induction lines with
  | nil => rfl
  | cons line lines ih =>
    rw [linesText_cons, String.toList_append, String.toList_append, List.append_assoc,
      show "\n".toList = ['\n'] from rfl, List.singleton_append, List.splitOn_append_cons_self, ih,
      List.flatMap_cons, List.append_assoc]

theorem splitOn_linesText_iff {lines : List String} :
    (linesText lines).toList.splitOn '\n' = lines.map String.toList ++ [[]] ↔
      ∀ line ∈ lines, '\n' ∉ line.toList := by
  rw [splitOn_linesText, List.append_left_inj]
  constructor
  · intro h line hline
    have hmem := List.mem_map_of_mem (f := String.toList) hline
    rw [← h, List.mem_flatMap] at hmem
    obtain ⟨_, -, hpiece⟩ := hmem
    exact not_mem_of_mem_splitOn hpiece
  · intro h
    rw [List.map_eq_flatMap]
    exact List.flatMap_congr fun line hline => List.splitOn_eq_singleton (h line hline)

/-! ## Stubs -/

/-- The texts of a document that stand in its stub as they are. -/
def spliced (d : Document) : List String := (d.visits .root).flatMap Stub.Visit.spliced

theorem stubLines_eq (d : Document) : d.stubLines = (d.visits .root).map Stub.Visit.line := by
  have hready : Stub.Tracked.Ready { walk := .start .root } ⟨.root, 0, none⟩ 0 [] [] :=
    ⟨⟨_, rfl, rfl, rfl, rfl⟩, Int.le_refl _, rfl, rfl, rfl⟩
  rw [stubLines, tree_eq_placed]
  exact (Stub.renders_descend d.root none hready).1.lines

theorem map_placed_visits (d : Document) (table : Stub.Table) :
    (d.visits table).map Stub.Visit.placed = d.tree := by
  rw [visits, Stub.map_placed_descend, tree_eq_placed]

theorem isName_of_mem_visits {source : String} {bytes : List UInt8} {d : Document}
    (h : load source bytes = .ok (some d)) {table : Stub.Table} {v : Stub.Visit}
    (hv : v ∈ d.visits table) : isName v.node.element.tag := by
  have hmem : v.placed ∈ d.tree := map_placed_visits d table ▸ List.mem_map_of_mem hv
  exact isName_of_load h _ (mem_subtree_of_mem_tree hmem)

/-- **The lines of the stub of a loaded document.** There is one line for each node, in order, and
its line feeds and carriage returns are those in the texts that its rule takes over. So the stub has
as many line feeds as nodes and as are in these texts; it is cut into the lines of the nodes if and
only if these texts hold no line feeds, and no line is broken if and only if none of these texts
is. -/
theorem stub_lines {source : String} {bytes : List UInt8} {d : Document}
    (h : load source bytes = .ok (some d)) :
    (d.visits .root).map Stub.Visit.placed = d.tree ∧
      d.stubLines = (d.visits .root).map Stub.Visit.line ∧
      (∀ v ∈ d.visits .root, ∀ c, isBreak c → occurrences c v.line = total c v.spliced) ∧
      occurrences '\n' d.stub = d.tree.length + total '\n' d.spliced ∧
      (d.stub.toList.splitOn '\n' = d.stubLines.map String.toList ++ [[]] ↔
        ∀ s ∈ d.spliced, '\n' ∉ s.toList) ∧
      ((∀ line ∈ d.stubLines, isUnbroken line) ↔ ∀ s ∈ d.spliced, isUnbroken s) := by
  have hbreaks : ∀ c, isBreak c → ∀ v ∈ d.visits .root, occurrences c v.line = total c v.spliced :=
    fun c hc v hv => Stub.Visit.occurrences_line hc (isName_of_mem_visits h hv)
  have htotal : ∀ c, isBreak c → total c d.stubLines = total c d.spliced := by
    intro c hc
    rw [stubLines_eq]
    exact total_map_eq_flatMap c (hbreaks c hc)
  have hlength : d.stubLines.length = d.tree.length := by
    rw [stubLines_eq, List.length_map, ← map_placed_visits d .root, List.length_map]
  refine ⟨map_placed_visits d .root, stubLines_eq d, fun v hv c hc => hbreaks c hc v hv, ?_, ?_, ?_⟩
  · rw [stub, occurrences_linesText, hlength, htotal _ (by decide)]
  · rw [stub, splitOn_linesText_iff, ← total_eq_zero_iff, htotal _ (by decide), total_eq_zero_iff]
  · rw [forall_isUnbroken_iff, forall_isUnbroken_iff]
    exact forall_congr' fun c => forall_congr' fun hc => by rw [htotal c hc]

/-- A document with a constant whose value holds a line feed. -/
def quotedBreak : String :=
  "<repository><namespace><constant value=\"&#10;\"/></namespace></repository>"

/-- The value stands between quotes, so the stub is cut into a line for each of three nodes. -/
theorem stub_lines_of_quotedBreak :
    ∃ d, loadText quotedBreak = .ok (some d) ∧ d.tree.length = 3 ∧
      d.stub.toList.splitOn '\n' = d.stubLines.map String.toList ++ [[]] := by
  have hok : (loadText quotedBreak).toOption.join.any (fun d =>
      d.tree.length = 3 && d.spliced.all (!·.toList.contains '\n')) := by decide +kernel
  obtain ⟨d, hd, hok⟩ := (Option.any_eq_true _ _).mp hok
  rw [Bool.and_eq_true, decide_eq_true_eq, List.all_eq_true] at hok
  have hd := eq_ok_of_toOption (Option.join_eq_some_iff.mp hd)
  refine ⟨d, hd, hok.1, (stub_lines hd).2.2.2.2.1.mpr fun s hs => ?_⟩
  simpa using hok.2 s hs

/-- A line feed in a name breaks the line of the namespace, so two nodes have three lines. -/
theorem stub_of_brokenName :
    (loadText "<repository><namespace name=\"a&#10;b\"/></repository>").map
        (·.map fun d => (d.tree.length, d.stub, occurrences '\n' d.stub)) =
      .ok (some (2, "# repository @ 0+0\n    # namespace a\nb @ 1+1\n", 3)) := by
  decide +kernel

end Document

end Introspection
