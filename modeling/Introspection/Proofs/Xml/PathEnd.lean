import Introspection.Proofs.Outcome
import Introspection.Proofs.Xml.PathName
import Mathlib.Data.List.Basic

/-!
# Ends of paths

Whatever stands in front of it: a path that ends with a name behind a colon selects elements whose
names end with that name, or it is none.

* `matchesRaw_suffix`: written names that match a text with an end;
* `Path.Word.AsksFor`: words that ask for names with an end;
* `Path.LexesTo`, **`Path.lexesTo_lex`**: the last word of a path that ends so;
* `Path.EndsWith`, **`Path.exists_of_readSteps`**: the last step that it stands for;
* **`Path.tag_suffix_of_select`**: the tags of what is selected.
-/

namespace Introspection.Xml

open Introspection.Text

/-! ## Names -/

theorem suffix_of_suffix_append {c : Char} {base ys : List Char} (xs : List Char) (hc : c ∉ base)
    (h : base <:+ xs ++ c :: ys) : base <:+ ys := by
  rcases List.suffix_or_suffix_of_suffix h (List.suffix_append xs (c :: ys)) with h | h
  · rcases List.suffix_cons_iff.mp h with rfl | h
    · exact absurd List.mem_cons_self hc
    · exact h
  · exact absurd (h.subset List.mem_cons_self) hc

/-- A name as the end of other names. -/
structure IsEnd (base : List Char) : Prop where
  brace : '\x7d' ∉ base
  word : ∀ c ∈ base, Path.isWordChar c
  starts : ∃ c cs, base = c :: cs ∧ c ∉ "/.*:@=[]()!'\"\x7b".toList
  star : '*' ∉ base
  colon : ':' ∉ base
  quotes : '\'' ∉ base ∧ '"' ∉ base

theorem isEnd_of_isName {base : String} (h : isName base) : IsEnd base.toList := by
  obtain ⟨c, cs, hs, hc, hcs⟩ := exists_cons_of_isName h
  have hne : ∀ d ∈ "*'\"".toList, d ∉ base.toList := by
    have hall : "*'\"".toList.all (fun d => !isNameChar d) := by decide
    intro d hd hm
    have := List.all_eq_true.mp hall d hd
    simp [hcs d (hs ▸ hm)] at this
  exact {
    brace := (Path.not_mem_of_isName h).2
    word := fun d hd => (isWordChar_of_isNameChar (hcs d (hs ▸ hd))).1
    starts := ⟨c, cs, hs, not_mem_of_isNameStart hc⟩
    star := hne _ (by decide)
    colon := (Path.not_mem_of_isName h).1
    quotes := ⟨hne _ (by decide), hne _ (by decide)⟩ }

section Names

variable {base : List Char} (hbase : IsEnd base)

include hbase

theorem IsEnd.not_suffix_star (xs : List Char) : ¬base <:+ xs ++ ['*'] := by
  obtain ⟨c, cs, rfl, -⟩ := hbase.starts
  intro h
  have hlast : ['*'] <:+ c :: cs := by
    rcases List.suffix_or_suffix_of_suffix h (List.suffix_append xs ['*']) with h | h
    · rcases List.suffix_cons_iff.mp h with heq | h
      · exact heq ▸ List.suffix_rfl
      · exact absurd (List.suffix_nil.mp h) (List.cons_ne_nil _ _)
    · exact h
  exact hbase.star (hlast.subset List.mem_cons_self)

theorem matchesRaw_suffix {asked raw : List Char} (ha : base <:+ asked)
    (h : matchesRaw asked raw) : base <:+ raw := by
  rw [matchesRaw] at h
  split at h
  · next heq =>
    rw [heq] at ha
    exact absurd ha (hbase.not_suffix_star ['\x7b', '*', '\x7d'])
  split at h
  · next heq =>
    rw [heq] at ha
    exact absurd ha (hbase.not_suffix_star ['\x7b', '\x7d'])
  split at h
  · next hp =>
    obtain ⟨rest, rfl⟩ := List.isPrefixOf_iff_prefix.mp hp
    have hrest : base <:+ rest := suffix_of_suffix_append ['\x7b', '*'] hbase.brace ha
    rw [Bool.or_eq_true, beq_iff_eq, List.isSuffixOf_iff_suffix] at h
    rcases h with h | h
    · rw [h]
      exact hrest
    · exact hrest.trans ((List.suffix_cons '\x7d' rest).trans h)
  split at h
  · next hs =>
    obtain ⟨rest, rfl⟩ := List.isSuffixOf_iff_suffix.mp hs
    rw [show rest ++ "\x7d*".toList = (rest ++ ['\x7d']) ++ ['*'] by simp] at ha
    exact absurd ha (hbase.not_suffix_star _)
  split at h
  · next hp =>
    obtain ⟨rest, rfl⟩ := List.isPrefixOf_iff_prefix.mp hp
    rw [eq_of_beq h]
    exact suffix_of_suffix_append ['\x7b'] hbase.brace ha
  · rwa [eq_of_beq h]

theorem suffix_base_of_raw {n : Name} (h : base <:+ n.raw.toList) : base <:+ n.base.toList := by
  rw [Name.raw] at h
  split at h
  · exact h
  · refine suffix_of_suffix_append ('\x7b' :: n.space.toList) hbase.brace ?_
    simpa using h

end Names

namespace Path

/-! ## Words that ask for an end -/

/-- A word asks for names with an end. -/
def Word.AsksFor (base : List Char) (w : Word) : Prop :=
  ∀ n, w.test.accepts n → base <:+ n.base.toList

theorem exists_splitAtFirst? {c : Char} {base cs : List Char}
    (h : c :: base <:+ cs) : ∃ p rest, splitAtFirst? c cs = some (p, rest) ∧ base <:+ rest := by
  induction cs with
  | nil => simp at h
  | cons d cs ih =>
    rw [splitAtFirst?]
    by_cases hd : d = c
    · refine ⟨[], cs, if_pos hd, ?_⟩
      rcases List.suffix_cons_iff.mp h with heq | h
      · obtain ⟨-, rfl⟩ := List.cons.inj heq
        exact List.suffix_rfl
      · exact (List.suffix_cons c base).trans h
    · rcases List.suffix_cons_iff.mp h with heq | h
      · exact absurd (List.cons.inj heq).1.symm hd
      · obtain ⟨p, rest, hsplit, hrest⟩ := ih h
        exact ⟨d :: p, rest, by rw [if_neg hd, hsplit, Option.map_some], hrest⟩

/-- A word that ends with a name behind a colon asks for names with that end. -/
theorem asksFor_of_read {base w : List Char} (hbase : IsEnd base) (hw : ':' :: base <:+ w)
    {prefixes : List (String × String)} {isAttribute : Bool} {v : Word}
    (h : Word.read prefixes isAttribute (String.ofList w) = .ok v) : v.AsksFor base := by
  have hwritten : ∀ (text : String) n, base <:+ text.toList →
      (NameTest.written text).accepts n → base <:+ n.base.toList := fun text n ht hn =>
    suffix_base_of_raw hbase (matchesRaw_suffix hbase ht hn)
  obtain ⟨p, rest, hsplit, hrest⟩ := exists_splitAtFirst? hw
  rw [Word.read, String.toList_ofList, hsplit] at h
  by_cases hbrace : w.head? = some '\x7b'
  · rw [if_pos hbrace] at h
    cases h
    refine fun n hn => hwritten _ n ?_ hn
    rw [String.toList_ofList]
    exact (List.suffix_cons ':' base).trans hw
  · rw [if_neg hbrace] at h
    dsimp only at h
    cases hspace : prefixes.lookup (String.ofList p) with
    | none =>
      rw [hspace] at h
      cases h
    | some space =>
      rw [hspace] at h
      cases h
      intro n hn
      rw [Word.test] at hn
      split at hn
      · refine hwritten _ n ?_ hn
        simp only [Word.text, String.toList_append, String.toList_ofList]
        exact hrest.trans (List.suffix_append _ _)
      · have hstar : String.ofList rest ≠ "*" := by
          intro heq
          rw [← String.toList_ofList (l := rest), heq] at hrest
          exact hbase.not_suffix_star [] hrest
        have heq : n.base = String.ofList rest := by
          simp only [NameTest.qualified, if_neg hstar] at hn
          split at hn
          · exact eq_of_beq hn
          · rw [eq_of_beq hn]
        rwa [heq, String.toList_ofList]

/-! ## Words and signs -/

/-- Words and signs whose last one is a word that ends with a name behind a colon, or the name by
itself behind such a sign. -/
def LexesTo (base : List Char) (ts : List (Token String)) : Prop :=
  ∃ init w, ts = init ++ [.word (String.ofList w)] ∧
    (':' :: base <:+ w ∨ ∃ s, init.getLast? = some (.sign s) ∧ (s = .colon ∨ s = .colons))

theorem LexesTo.cons {base : List Char} {ts : List (Token String)} (h : LexesTo base ts)
    (t : Token String) : LexesTo base (t :: ts) := by
  obtain ⟨init, w, rfl, hw⟩ := h
  refine ⟨t :: init, w, rfl, hw.imp_right ?_⟩
  rintro ⟨s, hs, hcolon⟩
  refine ⟨s, ?_, hcolon⟩
  rw [List.getLast?_cons, hs, Option.getD_some]

theorem splitAtFirst?_of_append {c : Char} {xs ys as bs : List Char} (hc : c ∉ ys)
    (h : splitAtFirst? c (xs ++ ys) = some (as, bs)) :
    ∃ zs, bs = zs ++ ys ∧ zs.length < xs.length := by
  induction xs generalizing as with
  | nil =>
    rw [List.nil_append, splitAtFirst?_eq_none_iff.mpr hc] at h
    cases h
  | cons x xs ih =>
    rw [List.cons_append, splitAtFirst?] at h
    split at h
    · cases h
      exact ⟨xs, rfl, Nat.lt_succ_self _⟩
    · obtain ⟨⟨a, b⟩, hsplit, hab⟩ := Option.map_eq_some_iff.mp h
      cases hab
      obtain ⟨zs, hzs, hlt⟩ := ih hsplit
      exact ⟨zs, hzs, Nat.lt_succ_of_lt hlt⟩

theorem isWordChar_of_sign?_eq_none {c : Char} {cs : List Char} (hs : sign? (c :: cs) = none)
    (hblank : ¬isBlank c) (hmark : c ≠ '!') : isWordChar c := by
  have hsingle : Sign.single? c = none := by
    cases cs with
    | nil => simpa [sign?] using hs
    | cons d cs =>
      rw [sign?] at hs
      split at hs
      · cases hs
      · simpa using hs
  have hne : ∀ d ∈ "/[]()@=".toList, c ≠ d := by
    rintro d hd rfl
    have hall : "/[]()@=".toList.all (fun d => (Sign.single? d).isSome) := by decide
    simpa [hsingle] using List.all_eq_true.mp hall c hd
  simp_all [isWordChar]

/-- A sign in front of a name behind a colon leaves the colon over, unless it takes it along. -/
theorem exists_of_sign? {base : List Char} {c : Char} {lead rest : List Char} {s : Sign}
    (h : sign? (c :: (lead ++ ':' :: base)) = some (s, rest)) :
    s = .colons ∧ rest = base ∨ ∃ zs, rest = zs ++ ':' :: base ∧ zs.length ≤ lead.length := by
  cases lead with
  | nil =>
    rw [List.nil_append, sign?] at h
    split at h
    · rename_i hdouble
      cases h
      refine .inl ⟨?_, rfl⟩
      unfold Sign.double? at hdouble
      split at hdouble <;> simp_all
    · obtain ⟨s', -, heq⟩ := Option.map_eq_some_iff.mp h
      cases heq
      exact .inr ⟨[], rfl, Nat.le_refl _⟩
  | cons d lead =>
    rw [List.cons_append, sign?] at h
    split at h
    · cases h
      exact .inr ⟨lead, rfl, Nat.le_succ _⟩
    · obtain ⟨s', -, heq⟩ := Option.map_eq_some_iff.mp h
      cases heq
      exact .inr ⟨d :: lead, rfl, Nat.le_refl _⟩

section Lex

variable {base : List Char} (hbase : IsEnd base)

include hbase

theorem lex_end (n : Nat) : lex (n + 1) base = [.word (String.ofList base)] := by
  obtain ⟨c, cs, rfl, hc⟩ := hbase.starts
  exact lex_word hc hbase.word n

/-- A word in front of a name behind a colon goes on to the end, or it ends before. -/
theorem takeWhile_isWordChar_append (lead : List Char) :
    (':' :: base <:+ (lead ++ ':' :: base).takeWhile isWordChar ∧
      (lead ++ ':' :: base).dropWhile isWordChar = []) ∨
    (lead ++ ':' :: base).dropWhile isWordChar = lead.dropWhile isWordChar ++ ':' :: base := by
  by_cases hword : lead.dropWhile isWordChar = []
  · have hall : ∀ x ∈ lead ++ ':' :: base, isWordChar x := by
      intro x hx
      rw [List.mem_append, List.mem_cons] at hx
      rcases hx with hx | rfl | hx
      · exact List.dropWhile_eq_nil_iff.mp hword x hx
      · decide
      · exact hbase.word x hx
    rw [List.takeWhile_eq_self_iff.mpr hall, List.dropWhile_eq_nil_iff.mpr hall]
    exact .inl ⟨List.suffix_append _ _, rfl⟩
  · exact .inr (by rw [List.dropWhile_append, if_neg (by simpa using hword)])

/-- The word that a text begins with, in front of a name behind a colon. -/
theorem takeWord_append {c : Char} (hc : isWordChar c) (lead : List Char) :
    (':' :: base <:+ (takeWord (c :: lead ++ ':' :: base)).1 ∧
      (takeWord (c :: lead ++ ':' :: base)).2 = []) ∨
    ∃ zs, (takeWord (c :: lead ++ ':' :: base)).2 = zs ++ ':' :: base ∧
      zs.length ≤ lead.length := by
  cases hbraced : braced? (c :: lead ++ ':' :: base) with
  | none =>
    rw [takeWord, hbraced]
    refine (takeWhile_isWordChar_append hbase (c :: lead)).imp_right fun hdrop => ?_
    rw [List.dropWhile_cons_of_pos hc] at hdrop
    exact ⟨_, hdrop, (List.dropWhile_sublist _).length_le⟩
  | some x =>
    obtain ⟨inside, rest⟩ := x
    obtain ⟨zs, hzs, hlt⟩ : ∃ zs, rest = zs ++ ':' :: base ∧ zs.length < lead.length := by
      rw [List.cons_append] at hbraced
      unfold braced? at hbraced
      split at hbraced
      · rename_i cs heq
        obtain ⟨-, rfl⟩ := List.cons.inj heq
        split at hbraced
        · rename_i hsplit
          split at hbraced
          · cases hbraced
            have hbrace : '\x7d' ∉ ':' :: base := by simpa using hbase.brace
            exact splitAtFirst?_of_append hbrace hsplit
          · cases hbraced
        · cases hbraced
      · cases hbraced
    rw [takeWord, hbraced, hzs]
    rcases takeWhile_isWordChar_append hbase zs with ⟨hword, hdrop⟩ | hdrop
    · exact .inl ⟨hword.trans (List.suffix_append _ _), hdrop⟩
    · exact .inr ⟨_, hdrop, (List.dropWhile_sublist _).length_le.trans (Nat.le_of_lt hlt)⟩

theorem sign?_colon : sign? (':' :: base) = some (.colon, base) := by
  obtain ⟨c, cs, rfl, hc⟩ := hbase.starts
  have hdouble : Sign.double? ':' c = none := by
    unfold Sign.double?
    split <;> simp_all
  rw [sign?, hdouble]
  rfl

theorem exists_of_quoted? {quote : Char} {lead text rest : List Char}
    (h : quoted? quote (lead ++ ':' :: base) = some (text, rest)) :
    ∃ zs, rest = zs ++ ':' :: base ∧ zs.length ≤ lead.length := by
  rw [quoted?, Option.ite_none_right_eq_some] at h
  have hquote : quote ∉ ':' :: base := by
    rcases h.1 with rfl | rfl
    · simpa using hbase.quotes.1
    · simpa using hbase.quotes.2
  obtain ⟨zs, hzs, hlt⟩ := splitAtFirst?_of_append hquote h.2
  exact ⟨zs, hzs, Nat.le_of_lt hlt⟩

/-- A name by itself behind a sign that takes the colon along. -/
theorem lexesTo_sign {s : Sign} (hs : s = .colon ∨ s = .colons) {n : Nat} (hn : base.length < n) :
    LexesTo base (.sign s :: lex n base) := by
  obtain ⟨k, rfl⟩ := Nat.exists_eq_succ_of_ne_zero (Nat.ne_of_gt (Nat.zero_lt_of_lt hn))
  rw [lex_end hbase]
  exact ⟨[.sign s], base, rfl, .inr ⟨s, rfl, hs⟩⟩

/-- **A text that ends with a name behind a colon is made of words and signs that end so.** -/
theorem lexesTo_lex {n : Nat} {lead : List Char} (h : (lead ++ ':' :: base).length < n) :
    LexesTo base (lex n (lead ++ ':' :: base)) := by
  induction n generalizing lead with
  | zero => cases h
  | succ n ih =>
    rw [List.length_append, List.length_cons] at h
    cases lead with
    | nil =>
      rw [List.nil_append, lex_sign (sign?_colon hbase) (by decide)]
      exact lexesTo_sign hbase (.inl rfl) (by omega)
    | cons c lead =>
      rw [List.length_cons] at h
      -- Whatever is read first, what is left is shorter and ends with the name as well.
      have hshorter : ∀ zs : List Char, zs.length ≤ lead.length →
          LexesTo base (lex n (zs ++ ':' :: base)) := by
        intro zs hzs
        refine ih ?_
        rw [List.length_append, List.length_cons]
        omega
      rw [List.cons_append, lex]
      cases hquoted : quoted? c (lead ++ ':' :: base) with
      | some x =>
        obtain ⟨text, rest⟩ := x
        obtain ⟨zs, rfl, hle⟩ := exists_of_quoted? hbase hquoted
        exact (hshorter zs hle).cons _
      | none =>
        dsimp only
        cases hsign : sign? (c :: (lead ++ ':' :: base)) with
        | some x =>
          obtain ⟨s, rest⟩ := x
          rcases exists_of_sign? hsign with ⟨hs, rfl⟩ | ⟨zs, rfl, hle⟩
          · exact lexesTo_sign hbase (.inr hs) (by omega)
          · exact (hshorter zs hle).cons _
        | none =>
          dsimp only
          split
          · rw [dropWhile_append_cons (by decide)]
            exact (hshorter _ (List.dropWhile_sublist _).length_le).cons _
          · rename_i hblank
            split
            · exact hshorter lead (Nat.le_refl _)
            · rename_i hmark
              have hc := isWordChar_of_sign?_eq_none hsign hblank hmark
              rcases takeWord_append hbase hc lead with ⟨hword, hrest⟩ | ⟨zs, hrest, hzs⟩
              · rw [List.cons_append] at hword hrest
                rw [hrest, lex_nil]
                exact ⟨[], _, rfl, .inl hword⟩
              · rw [List.cons_append] at hrest
                rw [hrest]
                exact (hshorter zs hzs).cons _

end Lex

/-! ## Steps -/

/-- Words and signs whose last one is a word that asks for names with an end, or a word behind a
sign that no step begins with, unless it cannot be resolved. -/
def EndsWith (base : List Char) (ts : Supply) : Prop :=
  ∃ init t, ts = init ++ [t] ∧ ∀ u, t = .ok u → ∃ w, u = .word w ∧
    (w.AsksFor base ∨ ∃ s, init.getLast? = some (.ok (.sign s)) ∧ (s = .colon ∨ s = .colons))

/-- What is in front of the last word may be left out if it does not end with such a sign. -/
theorem EndsWith.of_append {base : List Char} (front : Supply) {rest : Supply} {u : Token Word}
    (h : EndsWith base (front ++ .ok u :: rest)) (hu : u ≠ .sign .colon ∧ u ≠ .sign .colons)
    (hrest : rest ≠ []) : EndsWith base rest := by
  obtain ⟨init, t, heq, ht⟩ := h
  obtain ⟨init', t', rfl⟩ := (List.eq_nil_or_concat' rest).resolve_left hrest
  rw [← List.cons_append, ← List.append_assoc] at heq
  obtain ⟨rfl, htt⟩ := List.append_inj' heq rfl
  obtain rfl := List.singleton_inj.mp htt
  refine ⟨init', _, rfl, fun v hv => ?_⟩
  obtain ⟨w, rfl, hw⟩ := ht v hv
  refine ⟨w, rfl, hw.imp_right ?_⟩
  rintro ⟨s, hs, hcolon⟩
  rw [List.getLast?_append, List.getLast?_cons, Option.some_or, Option.some.injEq] at hs
  cases hlast : init'.getLast? with
  | none =>
    rw [hlast, Option.getD_none, Except.ok.injEq] at hs
    rcases hcolon with rfl | rfl
    · exact absurd hs hu.1
    · exact absurd hs hu.2
  | some x =>
    rw [hlast, Option.getD_some] at hs
    exact ⟨s, congrArg some hs, hcolon⟩

theorem EndsWith.cons {base : List Char} {ts : Supply} (h : EndsWith base ts)
    (t : Except Failure (Token Word)) : EndsWith base (t :: ts) := by
  obtain ⟨init, u, rfl, hu⟩ := h
  refine ⟨t :: init, u, rfl, fun v hv => ?_⟩
  obtain ⟨w, hw, hends⟩ := hu v hv
  refine ⟨w, hw, hends.imp_right ?_⟩
  rintro ⟨s, hs, hcolon⟩
  exact ⟨s, by rw [List.getLast?_cons, hs, Option.getD_some], hcolon⟩

theorem EndsWith.skipSlash {base : List Char} {ts : Supply} (h : EndsWith base ts) :
    EndsWith base (skipSlash ts) := by
  unfold Path.skipSlash
  split
  · rename_i ts
    refine EndsWith.of_append [] h (by simp) ?_
    rintro rfl
    obtain ⟨init, t, heq, ht⟩ := h
    obtain ⟨-, htt⟩ := List.append_inj' (show [] ++ [.ok (.sign .slash)] = init ++ [t] from heq) rfl
    obtain ⟨w, hw, -⟩ := ht _ (List.singleton_inj.mp htt).symm
    cases hw
  · exact h

theorem length_skipSlash_le (ts : Supply) : (skipSlash ts).length ≤ ts.length := by
  unfold skipSlash
  split
  · exact Nat.le_succ _
  · exact Nat.le_refl _

theorem resolve_cons (prefixes : List (String × String)) (isAttribute : Bool) (t : Token String)
    (ts : List (Token String)) : ∃ u isAttribute', resolve prefixes isAttribute (t :: ts) =
      u :: resolve prefixes isAttribute' ts ∧ ∀ s, t = .sign s → u = .ok (.sign s) := by
  cases t with
  | sign s => exact ⟨_, _, rfl, fun s' hs' => by cases hs'; rfl⟩
  | quoted quote text => exact ⟨_, _, rfl, fun _ h => by cases h⟩
  | blank => exact ⟨_, _, rfl, fun _ h => by cases h⟩
  | word w => exact ⟨_, _, rfl, fun _ h => by cases h⟩

theorem endsWith_concat_word {base : List Char} (hbase : IsEnd base)
    {prefixes : List (String × String)} {isAttribute : Bool} (init : Supply) {w : List Char}
    (hw : ':' :: base <:+ w ∨
      ∃ s, init.getLast? = some (.ok (.sign s)) ∧ (s = .colon ∨ s = .colons)) :
    EndsWith base (init ++ [(Word.read prefixes isAttribute (String.ofList w)).map .word]) := by
  refine ⟨init, _, rfl, fun u hu => ?_⟩
  obtain ⟨v, hread, rfl⟩ := exists_of_map_eq_ok hu
  exact ⟨v, rfl, hw.imp_left fun hw => asksFor_of_read hbase hw hread⟩

/-- The words and signs of a path that ends with a name behind a colon end so when they are
resolved. -/
theorem endsWith_resolve {base : List Char} (hbase : IsEnd base)
    {prefixes : List (String × String)} {ts : List (Token String)} (h : LexesTo base ts)
    (isAttribute : Bool) : EndsWith base (resolve prefixes isAttribute ts) := by
  obtain ⟨init, w, rfl, hw⟩ := h
  induction init generalizing isAttribute with
  | nil =>
    refine endsWith_concat_word hbase [] (hw.imp_right ?_)
    rintro ⟨s, hs, -⟩
    cases hs
  | cons t init ih =>
    obtain ⟨u, isAttribute', heq, hu⟩ :=
      resolve_cons prefixes isAttribute t (init ++ [.word (String.ofList w)])
    rw [List.cons_append, heq]
    rcases hw with hw | ⟨s, hs, hcolon⟩
    · exact (ih isAttribute' (.inl hw)).cons u
    · cases init with
      | nil =>
        rw [hu s (Option.some.inj hs)]
        exact endsWith_concat_word hbase [.ok (.sign s)] (.inr ⟨s, rfl, hcolon⟩)
      | cons t' init =>
        rw [List.getLast?_cons_cons] at hs
        exact (ih isAttribute' (.inr ⟨s, hs, hcolon⟩)).cons u

theorem exists_of_readBracketed {ts rest : Supply} {inside : List (Token Word)}
    (h : readBracketed ts = .ok (inside, rest)) :
    ∃ front, ts = front ++ .ok (.sign .closeBracket) :: rest := by
  induction ts using readBracketed.induct generalizing inside with
  | case1 => cases h
  | case2 => cases h
  | case3 ts =>
    cases h
    exact ⟨[], rfl⟩
  | case4 ts ih =>
    obtain ⟨front, rfl⟩ := ih h
    exact ⟨_ :: front, rfl⟩
  | case5 t ts hclose hblank ih =>
    rw [readBracketed] at h
    · obtain ⟨⟨inside', rest'⟩, hread, heq⟩ := exists_of_map_eq_ok h
      cases heq
      obtain ⟨front, rfl⟩ := ih hread
      exact ⟨_ :: front, rfl⟩
    · exact hclose
    · exact hblank

theorem exists_of_nameTest? {t : Token Word} {test : NameTest} (h : nameTest? t = some test) :
    (t ≠ .sign .colon ∧ t ≠ .sign .colons) ∧ ∀ w, t = .word w → test = w.test := by
  unfold nameTest? at h
  split at h
  · exact ⟨by simp, fun w hw => by cases hw⟩
  · rename_i w
    exact ⟨by simp, fun w' hw => by cases hw; exact (Option.some.inj h).symm⟩
  · exact ⟨by simp, fun w hw => by cases hw⟩
  · cases h

/-- A step ends with the name that it asks for, if it ends with a word. -/
theorem exists_of_readStep {t : Token Word} {ts rest : Supply} {s : Step}
    (h : readStep t ts = .ok (s, rest)) :
    ∃ front u, .ok t :: ts = front ++ .ok u :: rest ∧ (u ≠ .sign .colon ∧ u ≠ .sign .colons) ∧
      ∀ w, u = .word w → (s = .children w.test ∨ s = .descendants w.test) ∧
        ∀ s', front.getLast? = some (.ok (.sign s')) → s' = .slashes := by
  unfold readStep at h
  split at h
  · cases h
    exact ⟨[], _, rfl, by simp, fun w hw => by cases hw⟩
  · cases h
    exact ⟨[], _, rfl, by simp, fun w hw => by cases hw⟩
  · unfold readDescendants at h
    split at h
    · cases h
    · cases h
    · rename_i u ts
      split at h
      · rename_i test htest
        cases h
        obtain ⟨hu, hw⟩ := exists_of_nameTest? htest
        refine ⟨[.ok (.sign .slashes)], u, rfl, hu, fun w hword => ⟨.inr ?_, ?_⟩⟩
        · rw [hw w hword]
        · intro s' hs'
          cases hs'
          rfl
      · cases h
  · obtain ⟨⟨inside, rest'⟩, hread, h⟩ := exists_of_bind_eq_ok h
    obtain ⟨p, -, h⟩ := exists_of_bind_eq_ok h
    cases h
    obtain ⟨front, rfl⟩ := exists_of_readBracketed hread
    exact ⟨_ :: front, _, rfl, by simp, fun w hw => by cases hw⟩
  · split at h
    · rename_i test htest
      cases h
      obtain ⟨hu, hw⟩ := exists_of_nameTest? htest
      refine ⟨[], t, rfl, hu, fun w hword => ⟨.inl ?_, ?_⟩⟩
      · rw [hw w hword]
      · intro s' hs'
        cases hs'
    · cases h

/-- **The last step of a path that ends with a name behind a colon asks for names with that
end.** -/
theorem exists_of_readSteps {base : List Char} {n : Nat} {ts : Supply} {ss : List Step}
    (hends : EndsWith base ts) (hn : ts.length < n) (h : readSteps n ts = .ok ss) :
    ∃ (init : List Step) (w : Word) (s : Step), ss = init ++ [s] ∧
      (s = .children w.test ∨ s = .descendants w.test) ∧ w.AsksFor base := by
  induction n generalizing ts ss with
  | zero => cases hn
  | succ n ih =>
    cases ts with
    | nil =>
      obtain ⟨init, t, heq, -⟩ := hends
      cases init <;> cases heq
    | cons t ts =>
      cases t with
      | error e => cases h
      | ok t =>
        rw [readSteps] at h
        obtain ⟨⟨s, rest⟩, hstep, h⟩ := exists_of_bind_eq_ok h
        obtain ⟨ss, hsteps, h⟩ := exists_of_bind_eq_ok h
        cases h
        obtain ⟨front, u, heq, hu, hword⟩ := exists_of_readStep hstep
        rw [heq] at hends hn
        by_cases hrest : rest = []
        · subst hrest
          obtain ⟨init, t', heq', ht'⟩ := hends
          obtain ⟨rfl, htt⟩ := List.append_inj' heq' rfl
          obtain ⟨w, rfl, hw⟩ := ht' u (List.singleton_inj.mp htt).symm
          obtain ⟨hs, hfront⟩ := hword w rfl
          have hss : ss = [] := by
            cases n <;> cases hsteps <;> rfl
          refine ⟨[], w, s, by rw [hss, List.nil_append], hs, hw.resolve_right ?_⟩
          rintro ⟨s', hs', rfl | rfl⟩ <;> cases hfront _ hs'
        · have hshort : (skipSlash rest).length < n := by
            have := length_skipSlash_le rest
            rw [List.length_append, List.length_cons] at hn
            omega
          obtain ⟨init, w, s', rfl, hs', hw⟩ :=
            ih (hends.of_append front hu hrest).skipSlash hshort hsteps
          exact ⟨s :: init, w, s', rfl, hs', hw⟩

/-! ## Selection -/

theorem select_append (ss : List Step) (s : Step) (root : Node) :
    select (ss ++ [s]) root = s.select root (select ss root) := by
  rw [select, select, List.foldl_append, List.foldl_cons, List.foldl_nil]

/-- **What a path that ends with a name behind a colon selects has a name with that end.** -/
theorem tag_suffix_of_select {prefixes : List (String × String)} {path lead base : String}
    (hbase : isName base) (hpath : path = lead ++ ":" ++ base) {ss : List Step}
    (h : read prefixes path = .ok ss) {root m : Node} (hm : m ∈ select ss root) :
    base.toList <:+ m.element.tag.toList := by
  have hend := isEnd_of_isName hbase
  have hlist : path.toList = lead.toList ++ ':' :: base.toList := by
    simp [hpath]
  have hslash : (lead.toList ++ ':' :: base.toList).getLast? ≠ some '/' :=
    getLast?_append_prefixed_ne (p := "") hbase lead.toList
  rw [read, hlist, if_neg hslash] at h
  split at h
  · cases h
  · obtain ⟨init, w, s, rfl, hs, hw⟩ := exists_of_readSteps
      (endsWith_resolve hend (lexesTo_lex hend (Nat.lt_succ_self _)) false)
      (Nat.lt_succ_self _) h
    rw [select_append] at hm
    refine hw m.element.name ?_
    rcases hs with rfl | rfl <;>
    · obtain ⟨n, -, hm⟩ := List.mem_flatMap.mp hm
      exact (List.mem_filter.mp hm).2

end Path

end Introspection.Xml
