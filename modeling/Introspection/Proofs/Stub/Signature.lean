import Introspection.Model.Basic
import Introspection.Proofs.Entity.Parts
import Introspection.Proofs.Outcome
import Introspection.Stub.Walk

/-!
# Signatures and callables

The line of a callable in a stub and the callable in a model are read from the same element. This
is what they have in common.

* `parameterEntry_eq`: what stands for any number of arguments in a stub does so in a model;
* `listedElements_eq`: the parameters in a list are those of the model but for receivers;
* `listed`, `Enters`: their positions in the model, and what an entry has to show of its argument;
* **`parameterList_of_arguments`**: the list has one entry for each argument besides the receiver;
* `raisesMark`, `isMarked_line_iff`: the lines that say that a callable raises errors;
* **`raisesMark_tells`**: how far they agree with the callables that do.
-/

namespace Introspection.Stub

open Xml

/-! ## Entries of parameters -/

theorem isEllipsis_parameterName (p : Element) :
    isEllipsis (parameterName p) = isEllipsis (p.attributeD "name") := by
  rw [parameterName]
  split
  · next h =>
    rw [h]
    decide
  · rfl

theorem parameterEntry_eq (p : Element) :
    parameterEntry p =
      if isVarargsElement p then "*args" else parameterName p ++ ": " ++ typeHint p := by
  rw [parameterEntry, isEllipsis_parameterName, isVarargsElement]

/-- An entry with a name holds a colon. -/
theorem parameterEntry_eq_star_iff (p : Element) :
    parameterEntry p = "*args" ↔ isVarargsElement p := by
  rw [parameterEntry_eq]
  split
  · next h => exact iff_of_true rfl h
  · next h =>
    refine iff_of_false (fun heq => ?_) h
    have hcolon : ':' ∈ "*args".toList := by
      rw [← heq]
      simp
    exact absurd hcolon (by decide)

/-- What an entry has to show of the argument of its element: a sign if the argument stands for any
number of arguments, or else its name with a type. A name that the model makes from the position
does not show; the entry has another one then. -/
structure Enters (p : Element) (a : Argument) (entry : String) : Prop where
  varargs_iff : entry = "*args" ↔ a.varargs
  named : ¬a.varargs → p.attributeD "name" ≠ "" → entry = a.name ++ ": " ++ typeHint p
  nameless : ¬a.varargs → p.attributeD "name" = "" → entry = "arg: " ++ typeHint p

theorem enters_parameterEntry (p : Element) (index : Int) :
    Enters p (Argument.ofElement p index).value (parameterEntry p) := by
  have hvarargs : (Argument.ofElement p index).value.varargs = isVarargsElement p := rfl
  have hname : (Argument.ofElement p index).value.name = nameOrUnknown p index := rfl
  refine ⟨hvarargs ▸ parameterEntry_eq_star_iff p, fun hv hp => ?_, fun hv hp => ?_⟩
  · rw [parameterEntry_eq, if_neg (hvarargs ▸ hv), hname, parameterName, nameOrUnknown, if_neg hp,
      if_neg hp]
  · rw [parameterEntry_eq, if_neg (hvarargs ▸ hv), parameterName, if_pos hp]
    rfl

/-! ## Lists of parameters -/

/-- The parameters in a list, each with its position among all parameters. -/
def listed (e : Element) : List (Element × Nat) :=
  (parameterElements e).zipIdx.filter (·.1.tag != "instance-parameter")

theorem listedElements_eq (e : Element) :
    listedElements e = (parameterElements e).filter (·.tag != "instance-parameter") := by
  rw [listedElements, parameterElements, List.filter_filter]

theorem map_fst_listed (e : Element) : (listed e).map Prod.fst = listedElements e :=
  calc
    (listed e).map Prod.fst =
        ((parameterElements e).zipIdx.map Prod.fst).filter (·.tag != "instance-parameter") := by
      rw [List.filter_map]
      rfl
    _ = listedElements e := by
      rw [List.zipIdx_map_fst, listedElements_eq]

theorem receiver_ofElement {p : Element} (h : p.tag = "parameter" ∨ p.tag = "instance-parameter")
    (index : Int) :
    (Argument.ofElement p index).value.receiver = (p.tag == "instance-parameter") := by
  change "instance".toList.isPrefixOf p.tag.toList = _
  rcases h with h | h <;> rw [h] <;> decide

/-- **A list of parameters has one entry for each argument besides the receiver, in order**, if all
parameters are of the two kinds that there are. It goes on from whatever receives the callable. -/
theorem parameterList_of_arguments {e : Element}
    (h : ∀ p ∈ parameterElements e, p.tag = "parameter" ∨ p.tag = "instance-parameter")
    (receiver : Option String) (index : Int) :
    (Callable.ofElement e index).value.args.filter (!·.receiver) =
        (listed e).map (fun p => (Argument.ofElement p.1 p.2).value) ∧
      parameterList e receiver =
        String.intercalate ", " ((receiver.filter (· != "")).toList ++
          (listed e).map fun p => parameterEntry p.1) ∧
      ∀ p ∈ listed e, Enters p.1 (Argument.ofElement p.1 p.2).value (parameterEntry p.1) := by
  refine ⟨?_, ?_, fun p _ => enters_parameterEntry p.1 p.2⟩
  · rw [Callable.value_ofElement, Reported.value_each, List.filter_map, listed]
    congr 1
    refine List.filter_congr fun p hp => ?_
    rw [Function.comp_apply, receiver_ofElement (h p.1 (List.fst_mem_of_mem_zipIdx hp))]
    rfl
  · rw [parameterList, ← map_fst_listed, List.map_map]
    rfl

/-- A method with a receiver, and behind it parameters with a name, without one and with an
ellipsis. -/
def mixedCallable : String :=
  "<method><instance-parameter/><parameter name=\"a\"><type name=\"gint\"/></parameter>" ++
    "<parameter/><parameter name=\"...\"/></method>"

/-- The argument without a name is called by its position in the model. -/
theorem parameterList_of_mixedCallable :
    ∃ d, Document.loadText mixedCallable = .ok (some d) ∧
      (∀ p ∈ parameterElements d.root, p.tag = "parameter" ∨ p.tag = "instance-parameter") ∧
      ((Callable.ofElement d.root 0).value.args.filter (!·.receiver)).map (·.name) =
        ["a", "Unknown2", "..."] ∧
      parameterList d.root (some "self") = "self, a: int, arg: Any, *args" ∧
      ∀ p ∈ listed d.root, Enters p.1 (Argument.ofElement p.1 p.2).value (parameterEntry p.1) := by
  have hok : (Document.loadText mixedCallable).toOption.join.any (fun d =>
      (parameterElements d.root).all (fun p =>
          p.tag == "parameter" || p.tag == "instance-parameter") &&
        (listed d.root).map (fun p =>
            ((Argument.ofElement p.1 p.2).value.name, parameterEntry p.1)) =
          [("a", "a: int"), ("Unknown2", "arg: Any"), ("...", "*args")]) := by decide +kernel
  obtain ⟨d, hd, hok⟩ := exists_of_any_join hok
  rw [Bool.and_eq_true, decide_eq_true_eq] at hok
  have htags : ∀ p ∈ parameterElements d.root,
      p.tag = "parameter" ∨ p.tag = "instance-parameter" := by simpa using hok.1
  obtain ⟨hargs, hlist, henters⟩ := parameterList_of_arguments htags (some "self") 0
  refine ⟨d, hd, htags, ?_, ?_, henters⟩
  · have hnames := congrArg (List.map Prod.fst) hok.2
    rw [List.map_map] at hnames
    rw [hargs, List.map_map]
    exact hnames
  · have hentries := congrArg (List.map Prod.snd) hok.2
    rw [List.map_map] at hentries
    rw [hlist]
    exact congrArg (fun es => String.intercalate ", " ("self" :: es)) hentries

/-! ## Errors -/

/-- What a line ends with that says that a callable raises errors. -/
def raisesMark : String := "# raises GLib.Error"

/-- A line ends with the mark. -/
def IsMarked (line : String) : Prop := raisesMark.toList <:+ line.toList

theorem exists_line_callable {e : Element} (h : nameOf e ≠ "") (level ruleLevel : Int)
    (opener : Option Element) :
    ∃ head : String, Rule.callable.line e level ruleLevel opener =
      head ++ "..." ++ if saysRaises e then "  " ++ raisesMark else "" := by
  refine ⟨indentation level ++ "def " ++ nameOf e ++ "(" ++
    parameterList e (receiver? e.tag) ++ ") -> " ++ returnHint e ++ ": ", ?_⟩
  change indentation level ++ callableText e = _
  rw [callableText, if_neg h]
  split <;> simp [raisesMark, String.append_assoc]

/-- **The mark stands for any text but a zero.** -/
theorem isMarked_line_iff {e : Element} (h : nameOf e ≠ "") (level ruleLevel : Int)
    (opener : Option Element) :
    IsMarked (Rule.callable.line e level ruleLevel opener) ↔ saysRaises e := by
  obtain ⟨head, hline⟩ := exists_line_callable h level ruleLevel opener
  rw [IsMarked, hline]
  split
  · next hr =>
    refine iff_of_true ⟨(head ++ "..." ++ "  ").toList, ?_⟩ hr
    simp [String.toList_append]
  · next hr =>
    refine iff_of_false ?_ hr
    -- The line ends with a dot then, and the mark does not.
    rintro ⟨front, hfront⟩
    have hlast := congrArg List.getLast? hfront
    rw [String.append_empty, String.toList_append, List.getLast?_append, List.getLast?_append,
      show raisesMark.toList.getLast? = some 'r' by decide,
      show "...".toList.getLast? = some '.' by decide] at hlast
    cases hlast

theorem saysRaises_iff (e : Element) :
    saysRaises e ↔ ∃ s, e.attribute? "throws" = some s ∧ s ≠ "0" := by
  rw [saysRaises]
  cases e.attribute? "throws" <;> simp

theorem throws_ofElement_iff (e : Element) (index : Int) :
    (Callable.ofElement e index).value.throws ↔
      ∃ s n, e.attribute? "throws" = some s ∧ Text.readInteger? s = some n ∧ n ≠ 0 := by
  rw [Callable.value_ofElement]
  change raisesErrors e ↔ _
  rw [raisesErrors, Option.any_eq_true]
  simp only [Option.bind_eq_some_iff, decide_eq_true_eq]
  constructor
  · rintro ⟨n, ⟨s, hs, hn⟩, hz⟩
    exact ⟨s, n, hs, hn, hz⟩
  · rintro ⟨s, n, hs, hn, hz⟩
    exact ⟨n, ⟨s, hs, hn⟩, hz⟩

/-- **How far the marks agree with the callables that raise errors.** A line has the mark for any
text but the zero `0`, while the callable raises errors for the integers other than zero. So all
that raise errors have the mark, and the mark is wrong just for the texts that are no integer and
for the other ways to write zero. -/
theorem raisesMark_tells {e : Element} (h : nameOf e ≠ "") (level ruleLevel : Int)
    (opener : Option Element) (index : Int) :
    (IsMarked (Rule.callable.line e level ruleLevel opener) ↔
        ∃ s, e.attribute? "throws" = some s ∧ s ≠ "0") ∧
      ((Callable.ofElement e index).value.throws ↔
        ∃ s n, e.attribute? "throws" = some s ∧ Text.readInteger? s = some n ∧ n ≠ 0) ∧
      ((Callable.ofElement e index).value.throws →
        IsMarked (Rule.callable.line e level ruleLevel opener)) ∧
      (¬(IsMarked (Rule.callable.line e level ruleLevel opener) ↔
          (Callable.ofElement e index).value.throws) ↔
        ∃ s, e.attribute? "throws" = some s ∧ s ≠ "0" ∧
          ∀ n, Text.readInteger? s = some n → n = 0) := by
  have hmark := (isMarked_line_iff h level ruleLevel opener).trans (saysRaises_iff e)
  have hthrows := throws_ofElement_iff e index
  have hmarked : (Callable.ofElement e index).value.throws →
      IsMarked (Rule.callable.line e level ruleLevel opener) := by
    rw [hmark, hthrows]
    rintro ⟨s, n, hs, hn, hz⟩
    refine ⟨s, hs, ?_⟩
    rintro rfl
    rw [show Text.readInteger? "0" = some 0 by decide] at hn
    exact hz (Option.some.inj hn).symm
  refine ⟨hmark, hthrows, hmarked, fun hne => ?_, ?_⟩
  · by_cases hm : IsMarked (Rule.callable.line e level ruleLevel opener)
    · obtain ⟨s, hs, hs'⟩ := hmark.mp hm
      refine ⟨s, hs, hs', fun n hn => Decidable.byContradiction fun hz => ?_⟩
      exact hne (iff_of_true hm (hthrows.mpr ⟨s, n, hs, hn, hz⟩))
    · exact absurd (iff_of_false hm fun ht => hm (hmarked ht)) hne
  · rintro ⟨s, hs, hs', hzero⟩ hiff
    obtain ⟨t, n, ht, hn, hz⟩ := hthrows.mp (hiff.mp (hmark.mpr ⟨s, hs, hs'⟩))
    rw [hs] at ht
    cases ht
    exact hz (hzero n hn)

/-- A one in another script is an integer like any other, so the function raises errors and its line
says so. -/
theorem raisesMark_of_arabicOne :
    ∃ d, Document.loadText "<function name=\"f\" throws=\"١\"/>" = .ok (some d) ∧
      nameOf d.root ≠ "" ∧ (Callable.ofElement d.root 0).value.throws ∧
      IsMarked (Rule.callable.line d.root 2 2 none) := by
  have hok : (Document.loadText "<function name=\"f\" throws=\"١\"/>").toOption.join.any (fun d =>
      nameOf d.root ≠ "" && (Callable.ofElement d.root 0).value.throws) := by decide +kernel
  obtain ⟨d, hd, hok⟩ := exists_of_any_join hok
  rw [Bool.and_eq_true, decide_eq_true_eq] at hok
  exact ⟨d, hd, hok.1, hok.2, (raisesMark_tells hok.1 2 2 none 0).2.2.1 hok.2⟩

/-- A record with a function that is marked by two zeros. -/
def paddedZero : String :=
  "<repository><namespace><record name=\"R\"><function name=\"f\" throws=\"00\"/></record>" ++
    "</namespace></repository>"

/-- The text reads as zero, so the function raises no errors in the model, but its line has the
mark. -/
theorem raisesMark_of_paddedZero :
    Text.readInteger? "00" = some 0 ∧
      (Document.loadText paddedZero).toOption.join.bind (fun d =>
          (Model.ofDocument {} .empty d).result.toOption.map fun b =>
            (d.stubLines, (b.model.types.flatMap Entity.callables).flatMap
              (·.2.map fun m => (m.name, m.throws)))) =
        some (["# repository @ 0+0", "    # namespace  @ 1+1", "        class R:",
          "            def f() -> None: ...  # raises GLib.Error"], [("f", false)]) := by
  decide +kernel

end Introspection.Stub
