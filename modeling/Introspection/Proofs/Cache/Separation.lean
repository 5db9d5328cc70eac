import Introspection.Cache.Parser
import Introspection.Proofs.Cache.Key
import Introspection.Proofs.Text.Integer

/-!
# Keys of different arguments

The text behind a key can be read in one way only: the first character of an argument tells what it
is, and every argument can be told from what stands behind it. So keys are alike for different
arguments only if the digest takes two texts for one.

* `KeyPart.leadIdx`, `KeyPart.ctorIdx_eq_of_append`: what an argument is;
* `KeyPart.written_append_inj`, `KeyPart.texts_append_inj`: an argument, and several, with something
  behind them;
* `keyText_inj`: lists of arguments;
* `Md5.Collide`: texts that the digest takes for one;
* **`keys_apart`**: the keys of lists of arguments, and those of models.
-/

namespace Introspection

open Text

namespace KeyPart

/-! ## What an argument is -/

/-- The index of the constructor whose written forms begin with a character; signs that begin none
have an index of their own. -/
def leadIdx (c : Char) : Nat :=
  if c = 'N' then 0
  else if c = 'T' ∨ c = 'F' then 1
  else if c.isDigit ∨ c = '-' then 2
  else if c = '\'' ∨ c = '"' then 3
  else if c = '[' then 4
  else 5

/-- The written form of a list behind its opening bracket. -/
def listTail : List KeyPart → List Char
  | [] => [']']
  | p :: ps => p.written.toList ++ ((written.texts ps).toList ++ [']'])

theorem toList_written_list (ps : List KeyPart) :
    (KeyPart.list ps).written.toList = '[' :: listTail ps := by
  cases ps with
  | nil => rfl
  | cons p ps =>
    rw [written, String.toList_append, String.toList_append, String.toList_append,
      List.append_assoc, List.append_assoc]
    rfl

theorem leadIdx_of_isDigit {c : Char} (h : c.isDigit) : leadIdx c = 2 := by
  have hne : ∀ d : Char, d.isDigit = false → c ≠ d := by
    rintro d hd rfl
    rw [hd] at h
    cases h
  rw [leadIdx, if_neg (hne _ rfl), if_neg (not_or.mpr ⟨hne _ rfl, hne _ rfl⟩), if_pos (.inl h)]

theorem leadIdx_of_isQuote {c : Char} (h : IsQuote c) : leadIdx c = 3 := by
  rcases h with rfl | rfl <;> rfl

/-- The first character tells what an argument is. -/
theorem exists_written_eq_cons (p : KeyPart) :
    ∃ c cs, p.written.toList = c :: cs ∧ leadIdx c = p.ctorIdx := by
  cases p with
  | none => exact ⟨_, _, rfl, rfl⟩
  | bool b => cases b <;> exact ⟨_, _, rfl, rfl⟩
  | integer n =>
    cases n with
    | ofNat n =>
      obtain ⟨c, cs, hcs, hc⟩ := exists_repr_eq_cons n
      exact ⟨c, cs, hcs, leadIdx_of_isDigit hc⟩
    | negSucc n =>
      refine ⟨'-', (n + 1).repr.toList, ?_, rfl⟩
      rw [written, decimal, String.toList_append]
      rfl
  | text s =>
    have hquoted : (text s).written.toList = quotedChars s.toList := by
      rw [written, quoted, String.toList_ofList]
    exact ⟨_, _, hquoted, leadIdx_of_isQuote (isQuote_quoteFor s.toList)⟩
  | list ps => exact ⟨_, _, toList_written_list ps, rfl⟩

theorem ctorIdx_eq_of_append {p q : KeyPart} {xs ys : List Char}
    (h : p.written.toList ++ xs = q.written.toList ++ ys) : p.ctorIdx = q.ctorIdx := by
  obtain ⟨c, cs, hp, hc⟩ := p.exists_written_eq_cons
  obtain ⟨d, ds, hq, hd⟩ := q.exists_written_eq_cons
  rw [hp, hq, List.cons_append, List.cons_append, List.cons.injEq] at h
  rw [← hc, ← hd, h.1]

/-- A sign that begins no argument closes what stands before it. -/
def IsClosing (c : Char) : Prop := c = ')' ∨ c = ']'

theorem written_append_ne {e : Char} (he : IsClosing e) (p : KeyPart) (xs ys : List Char) :
    p.written.toList ++ xs ≠ e :: ys := by
  intro h
  obtain ⟨c, cs, hp, hc⟩ := p.exists_written_eq_cons
  rw [hp, List.cons_append, List.cons.injEq] at h
  have hclosing : leadIdx e = 5 := by
    rcases he with rfl | rfl <;> rfl
  rw [h.1, hclosing] at hc
  cases p <;> cases hc

/-! ## Arguments with something behind them -/

theorem toList_texts_cons (p : KeyPart) (ps : List KeyPart) :
    (written.texts (p :: ps)).toList =
      ',' :: ' ' :: (p.written.toList ++ (written.texts ps).toList) := by
  rw [written.texts, String.toList_append, String.toList_append, List.append_assoc]
  rfl

theorem undigited_texts_append {e : Char} (he : IsClosing e) (ps : List KeyPart)
    (xs : List Char) : Undigited ((written.texts ps).toList ++ e :: xs) := by
  cases ps with
  | nil => rcases he with rfl | rfl <;> rfl
  | cons p ps =>
    rw [toList_texts_cons]
    rfl

theorem texts_nil_append (xs : List Char) : (written.texts []).toList ++ xs = xs := rfl

mutual

theorem written_append_inj : ∀ {p q : KeyPart} {xs ys : List Char}, Undigited xs → Undigited ys →
    p.written.toList ++ xs = q.written.toList ++ ys → p = q ∧ xs = ys
  | p, q, xs, ys, hx, hy, h => by
    -- The constructors agree, so one case each is left.
    have hidx := ctorIdx_eq_of_append h
    cases p with
    | none =>
      cases q <;> cases hidx
      exact ⟨rfl, List.append_cancel_left h⟩
    | bool a =>
      cases q <;> cases hidx
      rename_i b
      cases a <;> cases b
      · exact ⟨rfl, List.append_cancel_left h⟩
      · cases h
      · cases h
      · exact ⟨rfl, List.append_cancel_left h⟩
    | integer m =>
      cases q <;> cases hidx
      rename_i n
      obtain ⟨rfl, hxy⟩ := decimal_append_inj hx hy h
      exact ⟨rfl, hxy⟩
    | text s =>
      cases q <;> cases hidx
      rename_i t
      obtain ⟨rfl, hxy⟩ := quoted_append_inj h
      exact ⟨rfl, hxy⟩
    | list ps =>
      cases q <;> cases hidx
      rename_i qs
      rw [toList_written_list, toList_written_list, List.cons_append, List.cons_append] at h
      obtain ⟨rfl, hxy⟩ := listTail_append_inj (List.tail_eq_of_cons_eq h)
      exact ⟨rfl, hxy⟩

theorem listTail_append_inj : ∀ {ps qs : List KeyPart} {xs ys : List Char},
    listTail ps ++ xs = listTail qs ++ ys → ps = qs ∧ xs = ys
  | [], [], xs, ys, h => ⟨rfl, List.tail_eq_of_cons_eq h⟩
  | [], q :: qs, xs, ys, h => by
    rw [listTail, listTail, List.append_assoc] at h
    exact absurd h.symm (written_append_ne (.inr rfl) q _ _)
  | p :: ps, [], xs, ys, h => by
    rw [listTail, listTail, List.append_assoc] at h
    exact absurd h (written_append_ne (.inr rfl) p _ _)
  | p :: ps, q :: qs, xs, ys, h => by
    rw [listTail, listTail, List.append_assoc, List.append_assoc, List.append_assoc,
      List.append_assoc] at h
    obtain ⟨rfl, hrest⟩ := written_append_inj (undigited_texts_append (.inr rfl) ps xs)
      (undigited_texts_append (.inr rfl) qs ys) h
    obtain ⟨rfl, hxy⟩ := texts_append_inj (.inr rfl) hrest
    exact ⟨rfl, hxy⟩

theorem texts_append_inj {e : Char} (he : IsClosing e) : ∀ {ps qs : List KeyPart}
    {xs ys : List Char},
    (written.texts ps).toList ++ e :: xs = (written.texts qs).toList ++ e :: ys →
      ps = qs ∧ xs = ys
  | [], [], xs, ys, h => ⟨rfl, List.tail_eq_of_cons_eq h⟩
  | [], q :: qs, xs, ys, h => by
    rw [toList_texts_cons, texts_nil_append, List.cons_append] at h
    rcases he with rfl | rfl <;> cases h
  | p :: ps, [], xs, ys, h => by
    rw [toList_texts_cons, texts_nil_append, List.cons_append] at h
    rcases he with rfl | rfl <;> cases h
  | p :: ps, q :: qs, xs, ys, h => by
    rw [toList_texts_cons, toList_texts_cons, List.cons_append, List.cons_append,
      List.cons_append, List.cons_append, List.append_assoc, List.append_assoc] at h
    obtain ⟨rfl, hrest⟩ := written_append_inj (undigited_texts_append he ps xs)
      (undigited_texts_append he qs ys) (List.tail_eq_of_cons_eq (List.tail_eq_of_cons_eq h))
    obtain ⟨rfl, hxy⟩ := texts_append_inj he hrest
    exact ⟨rfl, hxy⟩

end

end KeyPart

/-! ## Lists of arguments -/

/-- The text of a list of arguments behind the first one. A comma stands behind a single argument
too, but nothing behind that comma. -/
def keyRest : List KeyPart → List Char
  | [] => [',', ')']
  | p :: ps => (KeyPart.written.texts (p :: ps)).toList ++ [')']

/-- The text of a list of arguments behind its opening parenthesis. -/
def keyTail : List KeyPart → List Char
  | [] => [')']
  | p :: ps => p.written.toList ++ keyRest ps

theorem toList_keyText (ps : List KeyPart) : (keyText ps).toList = '(' :: keyTail ps := by
  rcases ps with _ | ⟨p, _ | ⟨q, ps⟩⟩
  · rfl
  · rw [keyText, String.toList_append, String.toList_append, List.append_assoc]
    rfl
  · rw [keyText, String.toList_append, String.toList_append, String.toList_append,
      List.append_assoc, List.append_assoc]
    · rfl
    · exact List.cons_ne_nil q ps

open KeyPart in
theorem undigited_keyRest (ps : List KeyPart) : Undigited (keyRest ps) := by
  cases ps with
  | nil => rfl
  | cons p ps => exact undigited_texts_append (.inl rfl) (p :: ps) []

open KeyPart in
theorem keyRest_inj : ∀ {ps qs : List KeyPart}, keyRest ps = keyRest qs → ps = qs
  | [], [], _ => rfl
  | [], q :: qs, h => by
    rw [keyRest, keyRest, toList_texts_cons] at h
    cases h
  | p :: ps, [], h => by
    rw [keyRest, keyRest, toList_texts_cons] at h
    cases h
  | p :: ps, q :: qs, h => (texts_append_inj (.inl rfl) h).1

open KeyPart in
theorem keyTail_inj : ∀ {ps qs : List KeyPart}, keyTail ps = keyTail qs → ps = qs
  | [], [], _ => rfl
  | [], q :: qs, h => absurd h.symm (written_append_ne (.inl rfl) q (keyRest qs) [])
  | p :: ps, [], h => absurd h (written_append_ne (.inl rfl) p (keyRest ps) [])
  | p :: ps, q :: qs, h => by
    obtain ⟨rfl, hrest⟩ := written_append_inj (undigited_keyRest ps) (undigited_keyRest qs) h
    rw [keyRest_inj hrest]

theorem keyText_inj {ps qs : List KeyPart} (h : keyText ps = keyText qs) : ps = qs := by
  have hlist := congrArg String.toList h
  rw [toList_keyText, toList_keyText] at hlist
  exact keyTail_inj (List.tail_eq_of_cons_eq hlist)

/-- A text that looks like two is written between other quotes. -/
example : keyText [.text "a', 'b"] = "(\"a', 'b\",)" ∧
    keyText [.text "a", .text "b"] = "('a', 'b')" := by
  decide

/-! ## Keys -/

/-- Two texts that the digest takes for one. -/
def Md5.Collide (s t : String) : Prop := s ≠ t ∧ ofText s = ofText t

theorem Md5.eq_or_collide {s t : String} (h : ofText s = ofText t) : s = t ∨ Collide s t := by
  by_cases hst : s = t
  · exact .inl hst
  · exact .inr ⟨hst, h⟩

/-- **Keys are alike only for the same arguments, or where the digest takes two texts for one.**
That holds of lists of arguments, which are the same with the same values, of the same kinds and
nested in the same way, and of the models of documents, whose arguments are the normal form of the
path and all options. -/
theorem keys_apart :
    (∀ ps qs : List KeyPart, keyText ps = keyText qs ↔ ps = qs) ∧
    (∀ ps qs : List KeyPart, makeKey ps = makeKey qs →
      ps = qs ∨ Md5.Collide (keyText ps) (keyText qs)) ∧
    (∀ (s t : String) (c d : Config),
      keyText (modelKeyParts (Path.ofText s).text c) =
          keyText (modelKeyParts (Path.ofText t).text d) ↔
        (Path.ofText s).text = (Path.ofText t).text ∧ c.rootPrefix = d.rootPrefix ∧
          c.delimiter = d.delimiter ∧ c.blacklist = d.blacklist ∧
          c.errorTypeName = d.errorTypeName ∧ c.defaultErrorType = d.defaultErrorType) ∧
    (∀ (p q : Parser) (s t : String), p.key s = q.key t →
      (Path.ofText s).text = (Path.ofText t).text ∧ p.config = q.config ∨
        Md5.Collide (keyText (modelKeyParts (Path.ofText s).text p.config))
          (keyText (modelKeyParts (Path.ofText t).text q.config))) := by
  refine ⟨fun ps qs => ⟨keyText_inj, congrArg keyText⟩, fun ps qs h => ?_, fun s t c d => ?_,
    fun p q s t h => ?_⟩
  · exact (Md5.eq_or_collide h).imp_left keyText_inj
  · constructor
    · intro h
      obtain ⟨htext, rfl⟩ := keyText_modelKeyParts_inj h
      exact ⟨htext, rfl, rfl, rfl, rfl, rfl⟩
    · rintro ⟨htext, hfields⟩
      have hconfig : c = d := by
        cases c
        cases d
        simp_all
      rw [htext, hconfig]
  · exact (Md5.eq_or_collide h).imp_left keyText_modelKeyParts_inj

end Introspection
