import Mathlib.Data.List.Infix
import MultiCluster.Http.Path
import MultiCluster.Proofs.Text.Octets

namespace MultiCluster.Http

variable {stays : Char → Bool} {c : Char} {text rest : List Char}

def isHex (c : Char) : Bool := (Text.hexDigit? c).isSome

def beginsWithOctet : List Char → Bool
  | '%' :: a :: b :: _ => isHex a && isHex b
  | _ => false

def HoldsNoOctet (text : List Char) : Prop := ∀ rest ∈ text.tails, beginsWithOctet rest = false

instance (text : List Char) : Decidable (HoldsNoOctet text) :=
  inferInstanceAs (Decidable (∀ rest ∈ text.tails, beginsWithOctet rest = false))

theorem HoldsNoOctet.of_suffix (h : HoldsNoOctet text) (hrest : rest <:+ text) : HoldsNoOctet rest :=
  fun other hother => h other ((List.mem_tails _ _).mpr (((List.mem_tails _ _).mp hother).trans hrest))

theorem beginsWithOctet_append (h : beginsWithOctet text = true) (rest : List Char) :
    beginsWithOctet (text ++ rest) = true := by
  unfold beginsWithOctet at h
  split at h
  · exact h
  · exact absurd h Bool.false_ne_true

theorem HoldsNoOctet.of_prefix (h : HoldsNoOctet text) (hrest : rest <+: text) : HoldsNoOctet rest := by
  obtain ⟨after, rfl⟩ := hrest
  intro other hother
  obtain ⟨before, rfl⟩ := (List.mem_tails _ _).mp hother
  refine Bool.eq_false_iff.mpr fun hbegins => ?_
  have hlonger := h (other ++ after) ((List.mem_tails _ _).mpr ⟨before, by rw [List.append_assoc]⟩)
  rw [beginsWithOctet_append hbegins] at hlonger
  exact Bool.false_ne_true hlonger.symm

theorem octets_eq_cons (c : Char) : ∃ more, octets c = '%' :: more := by
  have hsome : (String.singleton c).toUTF8.toList ≠ [] := by
    rw [Text.toList_toUTF8_singleton]
    exact String.utf8EncodeChar_ne_nil
  obtain ⟨b, others, hb⟩ := List.exists_cons_of_ne_nil hsome
  exact ⟨_, by rw [octets, hb, List.flatMap_cons, octet, List.cons_append]⟩

theorem percent_or_hex_of_mem_octets {d : Char} (h : d ∈ octets c) : d = '%' ∨ isHex d = true := by
  obtain ⟨b, -, hb⟩ := List.mem_flatMap.mp h
  have hhigh : b.toNat / 16 < 16 := Nat.div_lt_of_lt_mul b.toNat_lt
  have hlow : b.toNat % 16 < 16 := Nat.mod_lt _ (by decide)
  simp only [octet, List.mem_cons, List.not_mem_nil, or_false] at hb
  rcases hb with rfl | rfl | rfl
  · exact .inl rfl
  · exact .inr (by rw [isHex, hexDigit?_toUpper_digitChar hhigh]; rfl)
  · exact .inr (by rw [isHex, hexDigit?_toUpper_digitChar hlow]; rfl)

theorem notMem_encode (hsign : c ≠ '%' ∧ isHex c = false) (h : c ∈ text → stays c = false) :
    c ∉ encode stays text := by
  intro hmem
  obtain ⟨d, hd, hc⟩ := List.mem_flatMap.mp hmem
  split_ifs at hc with hstays
  · obtain rfl := List.mem_singleton.mp hc
    exact absurd (h hd) (by simp [hstays])
  · rcases percent_or_hex_of_mem_octets hc with hpercent | hhex
    · exact hsign.1 hpercent
    · exact absurd hhex (by simp [hsign.2])

theorem encode_append (text rest : List Char) :
    encode stays (text ++ rest) = encode stays text ++ encode stays rest := List.flatMap_append

theorem eq_cons_of_encode_eq_cons {more : List Char} (hc : isHex c = true)
    (h : encode stays text = c :: more) : ∃ rest, text = c :: rest ∧ more = encode stays rest := by
  cases text with
  | nil => exact absurd h (by simp [encode])
  | cons d rest =>
    rw [encode, List.flatMap_cons] at h
    by_cases hd : stays d = true
    · rw [if_pos hd, List.singleton_append] at h
      obtain ⟨rfl, rfl⟩ := List.cons.inj h
      exact ⟨rest, rfl, rfl⟩
    · obtain ⟨more', hoctets⟩ := octets_eq_cons d
      rw [if_neg hd, hoctets, List.cons_append] at h
      obtain ⟨rfl, -⟩ := List.cons.inj h
      exact absurd hc (by decide)

theorem beginsWithOctet_of_encode (h : beginsWithOctet (c :: encode stays rest) = true) :
    beginsWithOctet (c :: rest) = true := by
  unfold beginsWithOctet at h
  split at h
  · rename_i a b more heq
    obtain ⟨rfl, hmore⟩ := List.cons.inj heq
    obtain ⟨ha, hb⟩ := Bool.and_eq_true_iff.mp h
    obtain ⟨others, rfl, hothers⟩ := eq_cons_of_encode_eq_cons ha hmore
    obtain ⟨last, rfl, -⟩ := eq_cons_of_encode_eq_cons hb hothers.symm
    exact h
  · exact absurd h Bool.false_ne_true

theorem spelledOctets_cons (h : beginsWithOctet (c :: rest) = false) :
    spelledOctets (c :: rest) = (String.singleton c).toUTF8.toList ++ spelledOctets rest := by
  rw [spelledOctets.eq_def]
  split
  · rename_i a b more heq
    obtain ⟨rfl, rfl⟩ := List.cons.inj heq
    split
    · rename_i high low ha hb
      exact absurd h (by simp [beginsWithOctet, isHex, ha, hb])
    · rw [Text.toList_toUTF8_singleton]
      rfl
  · rename_i heq
    obtain ⟨rfl, rfl⟩ := List.cons.inj heq
    rfl
  · rename_i heq
    exact absurd heq (List.cons_ne_nil c rest)

theorem spelledOctets_encode (h : HoldsNoOctet text) :
    spelledOctets (encode stays text) = Text.octets (String.ofList text) := by
  rw [Text.octets_eq, String.toList_ofList]
  induction text with
  | nil => rfl
  | cons c rest ih =>
    have hrest := ih (h.of_suffix (List.suffix_cons c rest))
    rw [List.flatMap_cons, ← hrest, ← Text.toList_toUTF8_singleton, encode, List.flatMap_cons]
    by_cases hstays : stays c = true
    · have hnone : beginsWithOctet (c :: encode stays rest) = false := by
        refine Bool.eq_false_iff.mpr fun hbegins => ?_
        have hfirst := h (c :: rest) ((List.mem_tails _ _).mpr (List.suffix_refl _))
        rw [beginsWithOctet_of_encode hbegins] at hfirst
        exact Bool.false_ne_true hfirst.symm
      rw [if_pos hstays, List.singleton_append]
      exact spelledOctets_cons hnone
    · rw [if_neg hstays]
      exact spelledOctets_octets c _

theorem encode_injective {other : List Char} (h : HoldsNoOctet text) (hother : HoldsNoOctet other)
    (hwritten : encode stays text = encode stays other) : text = other := by
  have hoctets : Text.octets (String.ofList text) = Text.octets (String.ofList other) := by
    rw [← spelledOctets_encode h, ← spelledOctets_encode hother, hwritten]
  exact String.ofList_injective (Text.octets_injective hoctets)

end MultiCluster.Http
