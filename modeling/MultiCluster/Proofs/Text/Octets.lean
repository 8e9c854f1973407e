import Mathlib.Tactic.SplitIfs
import MultiCluster.Text.Octets

namespace MultiCluster.Text

def octets (s : String) : List UInt8 := s.toUTF8.data.toList

theorem octets_eq (s : String) : octets s = s.toList.flatMap String.utf8EncodeChar := by
  have hbytes : s.toUTF8 = s.toList.utf8Encode := by
    rw [String.toUTF8_eq_toByteArray, ← String.toByteArray_ofList, String.ofList_toList]
  rw [octets, hbytes, List.utf8Encode, List.toList_data_toByteArray]

theorem toList_loop_eq (b : ByteArray) (i : Nat) (taken : List UInt8) :
    ByteArray.toList.loop b i taken = taken.reverse ++ b.data.toList.drop i := by
  induction hleft : b.size - i generalizing i taken with
  | zero =>
    have hend : ¬ i < b.size := by omega
    have hsize : b.data.toList.length ≤ i := Nat.le_of_not_lt hend
    rw [ByteArray.toList.loop, if_neg hend, List.drop_of_length_le hsize, List.append_nil]
  | succ n ih =>
    have hmore : i < b.size := by omega
    have hget : b.get! i :: b.data.toList.drop (i + 1) = b.data.toList.drop i := by
      rw [List.drop_eq_getElem_cons hmore]
      congr 1
      exact getElem!_pos b.data i hmore
    rw [ByteArray.toList.loop, if_pos hmore, ih (i + 1) _ (by omega), List.reverse_cons, List.append_assoc,
      List.singleton_append, hget]

theorem toList_toUTF8 (s : String) : s.toUTF8.toList = octets s := toList_loop_eq s.toUTF8 0 []

theorem toList_toUTF8_singleton (c : Char) : (String.singleton c).toUTF8.toList = String.utf8EncodeChar c := by
  rw [toList_toUTF8, octets_eq, String.toList_singleton, List.flatMap_singleton]

theorem codePoint_lt (c : Char) : c.val.toNat < 0x110000 := by
  rcases c.valid with hlow | ⟨-, hhigh⟩
  · exact Nat.lt_trans hlow (by decide)
  · exact hhigh

theorem utf8EncodeChar_append_lt {c d : Char} (h : c < d) (u v : List UInt8) :
    String.utf8EncodeChar c ++ u < String.utf8EncodeChar d ++ v := by
  have hlt : c.val.toNat < d.val.toNat := h
  have hc := codePoint_lt c
  have hd := codePoint_lt d
  unfold String.utf8EncodeChar
  generalize c.val.toNat = m at hlt hc ⊢
  generalize d.val.toNat = n at hlt hd ⊢
  dsimp only
  -- The cases are the two lengths; the first octet grows with the length, and the others hold the digits.
  split_ifs
  all_goals
    simp only [List.cons_append, List.nil_append, List.cons_lt_cons_iff, UInt8.lt_iff_toNat_lt,
      ← UInt8.toNat_inj, UInt8.toNat_ofNat']
    simp (disch := omega) only [Nat.mod_eq_of_lt]
    omega

theorem flatMap_utf8EncodeChar_lt {s t : List Char} (h : s < t) :
    s.flatMap String.utf8EncodeChar < t.flatMap String.utf8EncodeChar := by
  induction h with
  | nil =>
    rename_i d rest
    rw [List.flatMap_nil, List.flatMap_cons]
    cases hd : String.utf8EncodeChar d with
    | nil => exact absurd hd String.utf8EncodeChar_ne_nil
    | cons b others => exact List.nil_lt_cons b _
  | cons _ ih =>
    rw [List.flatMap_cons, List.flatMap_cons]
    exact List.append_left_lt ih
  | rel hlt =>
    rw [List.flatMap_cons, List.flatMap_cons]
    exact utf8EncodeChar_append_lt hlt _ _

theorem octets_lt {s t : String} (h : s < t) : octets s < octets t := by
  rw [octets_eq, octets_eq]
  exact flatMap_utf8EncodeChar_lt (String.lt_iff.mp h)

theorem octets_injective {s t : String} (h : octets s = octets t) : s = t := by
  rcases Std.lt_trichotomy s t with hlt | heq | hgt
  · exact absurd (h ▸ octets_lt hlt) (List.lt_irrefl _)
  · exact heq
  · exact absurd (h ▸ octets_lt hgt) (List.lt_irrefl _)

variable {b : UInt8} {rest : List UInt8}

theorem symbols_cons_of_char {c : Char} (h : startOctet b.toNat = some (.inl c)) :
    symbols none (b :: rest) = some c :: symbols none rest := by
  simp only [symbols, readOctet, h, List.singleton_append]

theorem symbols_cons_of_begun {g : Begun} (h : startOctet b.toNat = some (.inr g)) :
    symbols none (b :: rest) = symbols (some g) rest := by
  simp only [symbols, readOctet, h, List.nil_append]

variable {bits owed least greatest k : Nat}

theorem toNat_tail (k : Nat) : (UInt8.ofNat (k % 64 + 128)).toNat = k % 64 + 128 :=
  UInt8.toNat_ofNat_of_lt' (by rw [UInt8.size]; omega)

theorem symbols_cons_last (hleast : least ≤ k % 64 + 128) (hgreatest : k % 64 + 128 ≤ greatest) :
    symbols (some ⟨bits, 1, least, greatest⟩) (UInt8.ofNat (k % 64 + 128) :: rest) =
      some (Char.ofNat (bits * 64 + k % 64)) :: symbols none rest := by
  simp only [symbols, readOctet, toNat_tail, hleast, hgreatest, and_self, ↓reduceIte, Nat.add_sub_cancel,
    List.singleton_append]

theorem symbols_cons_more (hleast : least ≤ k % 64 + 128) (hgreatest : k % 64 + 128 ≤ greatest) :
    symbols (some ⟨bits, owed + 2, least, greatest⟩) (UInt8.ofNat (k % 64 + 128) :: rest) =
      symbols (some ⟨bits * 64 + k % 64, owed + 1, 0x80, 0xBF⟩) rest := by
  simp only [symbols, readOctet, toNat_tail, hleast, hgreatest, and_self, ↓reduceIte, Nat.add_sub_cancel]
  rfl

theorem startOctet_of_two : ∀ k < 32, 2 ≤ k →
    startOctet (UInt8.ofNat (k + 192)).toNat = some (.inr ⟨k, 1, 0x80, 0xBF⟩) := by
  decide

theorem startOctet_of_three : ∀ k < 16, startOctet (UInt8.ofNat (k + 224)).toNat =
    some (.inr ⟨k, 2, if k = 0 then 0xA0 else 0x80, if k = 13 then 0x9F else 0xBF⟩) := by
  decide

theorem startOctet_of_four : ∀ k < 5, startOctet (UInt8.ofNat (k + 240)).toNat =
    some (.inr ⟨k, 3, if k = 0 then 0x90 else 0x80, if k = 4 then 0x8F else 0xBF⟩) := by
  decide

theorem symbols_utf8EncodeChar (c : Char) (rest : List UInt8) :
    symbols none (String.utf8EncodeChar c ++ rest) = some c :: symbols none rest := by
  have hvalid : c.val.toNat < 0xD800 ∨ 0xDFFF < c.val.toNat ∧ c.val.toNat < 0x110000 := c.valid
  have hchar : Char.ofNat c.val.toNat = c := Char.ofNat_toNat c
  unfold String.utf8EncodeChar
  generalize c.val.toNat = n at hvalid hchar ⊢
  dsimp only
  -- The first octet holds the leading digits, each other one six bits.
  split_ifs with hone htwo hthree <;> simp only [List.cons_append, List.nil_append]
  · have hstart : startOctet (UInt8.ofNat n).toNat = some (.inl (Char.ofNat n)) := by
      rw [UInt8.toNat_ofNat_of_lt' (by rw [UInt8.size]; omega), startOctet, if_pos hone]
    rw [symbols_cons_of_char hstart, hchar]
  · have hstart := startOctet_of_two (n / 64 % 32) (by omega) (by omega)
    have hbits : n / 64 % 32 * 64 + n % 64 = n := by omega
    rw [symbols_cons_of_begun hstart, symbols_cons_last (by omega) (by omega), hbits, hchar]
  · have hstart := startOctet_of_three (n / 4096 % 16) (by omega)
    have hbits : (n / 4096 % 16 * 64 + n / 64 % 64) * 64 + n % 64 = n := by omega
    rw [symbols_cons_of_begun hstart, symbols_cons_more (by split <;> omega) (by split <;> omega),
      symbols_cons_last (by omega) (by omega), hbits, hchar]
  · have hstart := startOctet_of_four (n / 262144 % 8) (by omega)
    have hbits : ((n / 262144 % 8 * 64 + n / 4096 % 64) * 64 + n / 64 % 64) * 64 + n % 64 = n := by omega
    rw [symbols_cons_of_begun hstart, symbols_cons_more (by split <;> omega) (by split <;> omega),
      symbols_cons_more (by omega) (by omega), symbols_cons_last (by omega) (by omega), hbits, hchar]

theorem symbols_octets (s : String) : symbols none (octets s) = s.toList.map some := by
  rw [octets_eq]
  induction s.toList with
  | nil => rfl
  | cons c rest ih => rw [List.flatMap_cons, symbols_utf8EncodeChar, ih, List.map_cons]

end MultiCluster.Text
