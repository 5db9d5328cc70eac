import Introspection.Entity.OfElement
import Introspection.Proofs.Outcome
import Introspection.Proofs.Text.Numeral
import Introspection.Stub.Rule

/-!
# Constants in stubs and in models

The line of a constant and its value in the model come from one text, and each reads the text for
itself: the model takes away the blanks around it first, the line leaves them to the reader of
integers.

* `readTrimmed?`, `readTrimmed?_eq`, `readTrimmed?_text`: the text as the model reads it;
* `constantLine`: the lines of constants;
* **`constant_readAlike`**: what the line shows and what the model holds.
-/

namespace Introspection.Stub

open Text Xml

/-- The integer that a text denotes without the blanks around it. -/
def readTrimmed? (s : String) : Option Int := readInteger? (String.ofList (trim s.toList))

theorem readTrimmed?_eq (s : String) : readTrimmed? s = readInteger? s := readInteger?_trim s

theorem readTrimmed?_text {x : Numeral} {s : String} (h : x.text = s.toList) :
    readTrimmed? s = if x.Fits then some x.value else none := by
  rw [readTrimmed?_eq, ← readInteger?_text, h, String.ofList_toList]

theorem readTrimmed?_eq_none {s : String} (h : ∀ x : Numeral, x.text ≠ s.toList) :
    readTrimmed? s = none := by
  rw [readTrimmed?_eq, Option.eq_none_iff_forall_ne_some]
  intro n hn
  obtain ⟨x, hx, -⟩ := readInteger?_eq_some_iff.mp hn
  exact h x hx

theorem readTrimmed?_decimal {s : String} {n : Int} (h : readTrimmed? s = some n) :
    readTrimmed? (decimal n) = some n := by
  rw [readTrimmed?_eq] at h ⊢
  exact readInteger?_decimal_of_read h

/-- The line of a constant on a level, with what it shows of the value. -/
def constantLine (e : Element) (level : Int) (shown : String) : String :=
  indented level (nameOf e ++ ": Final = " ++ shown)

variable {e : Element} {raw : String}

/-- The model keeps the text and takes the position in the place of an integer. -/
theorem value_ofElement_constant (h : e.attribute? "value" = some raw) (index : Int)
    (native : Option String) :
    (Constant.ofElement e index native).value.raw = some raw ∧
      (Constant.ofElement e index native).value.value = (readTrimmed? raw).getD index := by
  rw [readTrimmed?_eq]
  constructor
  · exact h
  · change ((e.attribute? "value").bind readInteger?).getD index = _
    rw [h, Option.bind_some]

/-- The line shows the integer, or the text between quotes. -/
theorem line_constant (h : e.attribute? "value" = some raw) (level ruleLevel : Int)
    (opener : Option Element) :
    Rule.constant.line e level ruleLevel opener =
      constantLine e level ((readTrimmed? raw).elim (quoted raw) decimal) := by
  change constantLine e level (constantValue (e.attribute? "value")) = _
  rw [readTrimmed?_eq, h, constantValue]
  cases readInteger? raw <;> rfl

/-- **The line and the model read a constant alike.** Of a numeral that is not too long, the line
shows the canonical text, which is read as the value in the model and is the shortest numeral that
stands for it. Of any other text, the line shows the text between quotes and the value is the
position. The model keeps the text in both cases. -/
theorem constant_readAlike (h : e.attribute? "value" = some raw) (index : Int)
    (native : Option String) (level ruleLevel : Int) (opener : Option Element) :
    (Constant.ofElement e index native).value.raw = some raw ∧
      (∀ n, readTrimmed? raw = some n →
        Rule.constant.line e level ruleLevel opener = constantLine e level (decimal n) ∧
          readTrimmed? (decimal n) = some n ∧
          (Constant.ofElement e index native).value.value = n ∧
          ∀ x : Numeral, x.value = n → (decimal n).toList.length ≤ x.text.length) ∧
      (readTrimmed? raw = none →
        Rule.constant.line e level ruleLevel opener = constantLine e level (quoted raw) ∧
          (Constant.ofElement e index native).value.value = index) ∧
      (∀ x : Numeral, x.text = raw.toList →
        readTrimmed? raw = if x.Fits then some x.value else none) ∧
      ((∀ x : Numeral, x.text ≠ raw.toList) → readTrimmed? raw = none) := by
  obtain ⟨hraw, hvalue⟩ := value_ofElement_constant h index native
  have hline := line_constant h level ruleLevel opener
  refine ⟨hraw, fun n hn => ?_, fun hn => ?_, fun _ => readTrimmed?_text, readTrimmed?_eq_none⟩
  · rw [hn] at hline hvalue
    refine ⟨hline, readTrimmed?_decimal hn, hvalue, ?_⟩
    rintro x rfl
    exact x.length_decimal_le
  · rw [hn] at hline hvalue
    exact ⟨hline, hvalue⟩

/-- A constant between blanks, with a minus, a leading zero, an underscore and a digit of another
script. -/
def spacedConstant : String := "<constant name=\"C\" value=\"&#x2003;-0_٤&#xA0;\"/>"

theorem constant_of_spacedConstant :
    ∃ d, Document.loadText spacedConstant = .ok (some d) ∧
      d.root.attribute? "value" = some "\u2003-0_٤\u00A0" ∧
      Rule.constant.line d.root 2 2 none = "        C: Final = -4" ∧
      (Constant.ofElement d.root 7 none).value.value = -4 := by
  have hok : (Document.loadText spacedConstant).toOption.join.any (fun d =>
      d.root.attribute? "value" = some "\u2003-0_٤\u00A0" &&
        constantLine d.root 2 (decimal (-4)) = "        C: Final = -4") := by decide +kernel
  obtain ⟨d, hd, hok⟩ := exists_of_any_join hok
  rw [Bool.and_eq_true, decide_eq_true_eq, decide_eq_true_eq] at hok
  obtain ⟨-, hread, -⟩ := constant_readAlike hok.1 7 none 2 2 none
  obtain ⟨hline, -, hvalue, -⟩ := hread (-4) (by decide +kernel)
  exact ⟨d, hd, hok.1, hline.trans hok.2, hvalue⟩

end Introspection.Stub
