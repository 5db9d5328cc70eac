import Introspection.Files.Path
import Introspection.Proofs.Text.Piece

/-!
# Normal forms of paths

* `Path.Normal`, `Path.normal_ofText`: what the path is like that a text denotes;
* **`Path.ofText_text`**: the normal form of such a path denotes it, so that different paths have
  different normal forms (`Path.text_inj`);
* `Path.null_mem_iff`: a null character of a text is in a name of the path.
-/

namespace Introspection.Path

open Text

/-- A path that a text can denote. -/
structure Normal (p : Path) : Prop where
  root : p.root = "" ∨ p.root = "/" ∨ p.root = "//"
  name : ∀ n ∈ p.names, n ≠ "" ∧ n ≠ "." ∧ '/' ∉ n.toList

theorem mem_names_ofText {s n : String} :
    n ∈ (ofText s).names ↔ n.toList ∈ s.toList.splitOn '/' ∧ n ≠ "" ∧ n ≠ "." := by
  rw [ofText, splitOn_singleton, List.mem_filter, List.mem_map, Bool.and_eq_true, bne_iff_ne,
    bne_iff_ne]
  refine and_congr_left fun _ => ⟨?_, fun h => ⟨_, h, String.ofList_toList⟩⟩
  rintro ⟨piece, h, rfl⟩
  rwa [String.toList_ofList]

theorem normal_ofText (s : String) : (ofText s).Normal where
  root := by
    change rootOf s.toList = "" ∨ rootOf s.toList = "/" ∨ rootOf s.toList = "//"
    rw [rootOf]
    split
    · exact .inl rfl
    · exact .inr (.inr rfl)
    · exact .inr (.inl rfl)
  name := by
    intro n hn
    obtain ⟨hs, hne, hdot⟩ := mem_names_ofText.mp hn
    exact ⟨hne, hdot, not_mem_of_mem_splitOn hs⟩

theorem null_mem_iff {s : String} :
    '\x00' ∈ s.toList ↔ ∃ n ∈ (ofText s).names, '\x00' ∈ n.toList := by
  constructor
  · intro h
    obtain ⟨piece, hp, hnull⟩ := exists_mem_splitOn_iff.mpr ⟨h, (by decide : '\x00' ≠ '/')⟩
    rw [← String.toList_ofList (l := piece)] at hp hnull
    refine ⟨_, mem_names_ofText.mpr ⟨hp, ?_, ?_⟩, hnull⟩
    · intro he
      rw [he] at hnull
      exact absurd hnull (by decide)
    · intro he
      rw [he] at hnull
      exact absurd hnull (by decide)
  · rintro ⟨n, hn, hnull⟩
    exact (exists_mem_splitOn_iff.mp ⟨_, (mem_names_ofText.mp hn).1, hnull⟩).1

/-! ## Normal forms -/

/-- The names between slashes. -/
def namesOf (cs : List Char) : List String :=
  ((cs.splitOn '/').map String.ofList).filter fun n => n != "" && n != "."

theorem ofText_eq (s : String) : ofText s = ⟨rootOf s.toList, namesOf s.toList⟩ := by
  rw [ofText, splitOn_singleton, namesOf]

theorem namesOf_slash (cs : List Char) : namesOf ('/' :: cs) = namesOf cs := by
  rw [namesOf, List.splitOn_cons_eq_if_modifyHead, if_pos (by decide), List.map_cons,
    List.filter_cons_of_neg (by decide), namesOf]

/-- The names of a path, with slashes between them. -/
def joined (ns : List String) : List Char := ['/'].intercalate (ns.map String.toList)

section Names

variable {ns : List String} (h : ∀ n ∈ ns, n ≠ "" ∧ n ≠ "." ∧ '/' ∉ n.toList)

include h

theorem namesOf_joined : namesOf (joined ns) = ns := by
  cases ns with
  | nil => decide
  | cons n ns =>
    have hslash : ∀ l ∈ (n :: ns).map String.toList, '/' ∉ l := by
      intro l hl
      obtain ⟨m, hm, rfl⟩ := List.mem_map.mp hl
      exact (h m hm).2.2
    have hid : String.ofList ∘ String.toList = id := funext fun _ => String.ofList_toList
    rw [namesOf, joined, List.splitOn_intercalate '/' hslash (by simp), List.map_map, hid,
      List.map_id, List.filter_eq_self]
    intro m hm
    simp [(h m hm).1, (h m hm).2.1]

theorem takeWhile_joined : (joined ns).takeWhile (· == '/') = [] := by
  cases ns with
  | nil => rfl
  | cons n ns =>
    obtain ⟨hne, -, hslash⟩ := h n List.mem_cons_self
    cases hn : n.toList with
    | nil => exact absurd (String.toList_inj.mp hn) hne
    | cons c cs =>
      rw [hn, List.mem_cons, not_or] at hslash
      rw [joined, List.map_cons, hn, List.intercalate_cons_cons_left,
        List.takeWhile_cons_of_neg (by simpa using Ne.symm hslash.1)]

end Names

namespace Normal

variable {p : Path}

theorem rootOf_append (h : p.Normal) : rootOf (p.root.toList ++ joined p.names) = p.root := by
  have hj := takeWhile_joined h.name
  rw [rootOf]
  rcases h.root with hr | hr | hr <;> simp [hr, hj]

theorem namesOf_append (h : p.Normal) : namesOf (p.root.toList ++ joined p.names) = p.names := by
  have hj := namesOf_joined h.name
  rcases h.root with hr | hr | hr <;> simp [hr, hj, namesOf_slash]

end Normal

/-- **The normal form of a path denotes it.** -/
theorem ofText_text {p : Path} (h : p.Normal) : ofText p.text = p := by
  rw [text]
  by_cases hd : p.root = "" ∧ p.names = []
  · rw [if_pos hd]
    obtain ⟨root, names⟩ := p
    obtain ⟨rfl, rfl⟩ := hd
    decide
  · have hl : (p.root ++ String.intercalate "/" p.names).toList =
        p.root.toList ++ joined p.names := by
      rw [String.toList_append, String.toList_intercalate]
      rfl
    rw [if_neg hd, ofText_eq, hl, h.rootOf_append, h.namesOf_append]

theorem text_inj {p q : Path} (hp : p.Normal) (hq : q.Normal) (h : p.text = q.text) : p = q := by
  rw [← ofText_text hp, h, ofText_text hq]

end Introspection.Path
