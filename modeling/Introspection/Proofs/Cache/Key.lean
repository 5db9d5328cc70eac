import Introspection.Cache.Key
import Introspection.Proofs.Text.Quoted

/-!
# What keys tell apart

The text that the key of a model is the digest of tells its path and its configuration.

* `quoted_append_inj`: quoted texts with something behind them;
* `NameSet.text_append_inj`, `Config.text_inj`: sets of names and configurations;
* `Config.text_append_inj`: configurations with something behind them;
* **`keyText_modelKeyParts_inj`**: the texts behind the keys of models.
-/

namespace Introspection

open Text

theorem quoted_append_inj {a b : String} {xs ys : List Char}
    (h : (quoted a).toList ++ xs = (quoted b).toList ++ ys) : a = b ∧ xs = ys := by
  rw [quoted, quoted, String.toList_ofList, String.toList_ofList] at h
  obtain ⟨hab, hxy⟩ := quotedChars_append_inj h
  exact ⟨String.toList_inj.mp hab, hxy⟩

/-! ## Sets of names -/

namespace NameSet

/-- The written forms of the names behind the first one. -/
def textTail : List String → List Char
  | [] => []
  | n :: ns => ',' :: ' ' :: ((quoted n).toList ++ textTail ns)

theorem toList_intercalate_quoted (n : String) (ns : List String) :
    (String.intercalate ", " ((n :: ns).map quoted)).toList =
      (quoted n).toList ++ textTail ns := by
  induction ns generalizing n with
  | nil => simp [textTail]
  | cons m ns ih =>
    have := ih m
    rw [List.map_cons] at this
    rw [List.map_cons, List.map_cons, String.intercalate_cons_cons, String.toList_append, this,
      String.toList_append, List.append_assoc, textTail]
    simp

theorem textTail_append_inj {ns ms : List String} {xs ys : List Char}
    (h : textTail ns ++ '\x7d' :: xs = textTail ms ++ '\x7d' :: ys) : ns = ms ∧ xs = ys := by
  induction ns generalizing ms with
  | nil =>
    cases ms with
    | nil => exact ⟨rfl, List.tail_eq_of_cons_eq h⟩
    | cons m ms => exact absurd (List.head_eq_of_cons_eq h) (by decide)
  | cons n ns ih =>
    cases ms with
    | nil => exact absurd (List.head_eq_of_cons_eq h) (by decide)
    | cons m ms =>
      rw [textTail, textTail, List.cons_append, List.cons_append, List.cons_append,
        List.cons_append, List.append_assoc, List.append_assoc] at h
      have hquoted := List.tail_eq_of_cons_eq (List.tail_eq_of_cons_eq h)
      obtain ⟨hnm, htail⟩ := quoted_append_inj hquoted
      obtain ⟨hns, hxy⟩ := ih htail
      exact ⟨by rw [hnm, hns], hxy⟩

/-- The written form of a set of names behind the word that begins it. -/
def textBody : List String → List Char
  | [] => ['(', ')']
  | n :: ns => '(' :: '\x7b' :: ((quoted n).toList ++ textTail ns ++ ['\x7d', ')'])

theorem toList_text (s : NameSet) : s.text.toList = "frozenset".toList ++ textBody s.names := by
  rw [text]
  cases s.names with
  | nil => simp [textBody]
  | cons n ns =>
    rw [if_neg (by simp), String.toList_append, String.toList_append, toList_intercalate_quoted,
      textBody]
    simp

theorem text_append_inj {s t : NameSet} {xs ys : List Char}
    (h : s.text.toList ++ xs = t.text.toList ++ ys) : s = t ∧ xs = ys := by
  rw [toList_text, toList_text, List.append_assoc, List.append_assoc] at h
  have hbody := List.append_cancel_left h
  obtain ⟨ns, hns⟩ := s
  obtain ⟨ms, hms⟩ := t
  dsimp only at hbody
  cases ns with
  | nil =>
    cases ms with
    | nil => exact ⟨rfl, by simpa [textBody] using hbody⟩
    | cons m ms => simp [textBody] at hbody
  | cons n ns =>
    cases ms with
    | nil => simp [textBody] at hbody
    | cons m ms =>
      rw [textBody, textBody, List.cons_append, List.cons_append, List.cons_append,
        List.cons_append, List.append_assoc, List.append_assoc, List.append_assoc,
        List.append_assoc] at hbody
      have hquoted := List.tail_eq_of_cons_eq (List.tail_eq_of_cons_eq hbody)
      obtain ⟨rfl, htail⟩ := quoted_append_inj hquoted
      obtain ⟨rfl, hxy⟩ := textTail_append_inj htail
      exact ⟨rfl, List.tail_eq_of_cons_eq hxy⟩

end NameSet

/-! ## Configurations -/

/-- The fields of configurations can be told, whatever stands between them and behind them. -/
theorem Config.inj_of_fields {c d : Config} {u v w x y z s t : String}
    (h : u ++ quoted c.rootPrefix ++ v ++ quoted c.delimiter ++ w ++ c.blacklist.text ++
        x ++ quoted c.errorTypeName ++ y ++ quoted c.defaultErrorType ++ z ++ s =
      u ++ quoted d.rootPrefix ++ v ++ quoted d.delimiter ++ w ++ d.blacklist.text ++
        x ++ quoted d.errorTypeName ++ y ++ quoted d.defaultErrorType ++ z ++ t) :
    c = d ∧ s = t := by
  have h := congrArg String.toList h
  simp only [String.toList_append, List.append_assoc] at h
  obtain ⟨hroot, h⟩ := quoted_append_inj (List.append_cancel_left h)
  obtain ⟨hdelimiter, h⟩ := quoted_append_inj (List.append_cancel_left h)
  obtain ⟨hblacklist, h⟩ := NameSet.text_append_inj (List.append_cancel_left h)
  obtain ⟨hname, h⟩ := quoted_append_inj (List.append_cancel_left h)
  obtain ⟨hdefault, h⟩ := quoted_append_inj (List.append_cancel_left h)
  refine ⟨?_, String.toList_inj.mp (List.append_cancel_left h)⟩
  cases c
  cases d
  simp_all

theorem Config.text_append_inj {c d : Config} {s t : String} (h : c.text ++ s = d.text ++ t) :
    c = d ∧ s = t :=
  inj_of_fields (u := "BuilderConfig(default_prefix=") (v := ", prefix_delimiter=")
    (w := ", blacklist=") (x := ", error_type_name=") (y := ", default_error_type=") (z := ")") h

theorem Config.text_inj {c d : Config} (h : c.text = d.text) : c = d :=
  (text_append_inj (congrArg (· ++ "") h)).1

/-! ## Keys -/

/-- **The text behind the key of a model tells the path and the configuration.** -/
theorem keyText_modelKeyParts_inj {s t : String} {c d : Config}
    (h : keyText (modelKeyParts s c) = keyText (modelKeyParts t d)) : s = t ∧ c = d := by
  have h := congrArg String.toList h
  simp only [modelKeyParts, keyText, KeyPart.written, KeyPart.written.texts, String.toList_append,
    List.append_assoc] at h
  have hpath := List.append_cancel_left (List.append_cancel_left (List.append_cancel_left h))
  obtain ⟨rfl, hconfig⟩ := quoted_append_inj hpath
  obtain ⟨htext, -⟩ := quoted_append_inj (List.append_cancel_left hconfig)
  exact ⟨rfl, Config.text_inj htext⟩

end Introspection
