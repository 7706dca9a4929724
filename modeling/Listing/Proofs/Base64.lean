import Listing.Base64
import Mathlib.Data.List.Basic
import Mathlib.Data.List.GetD
import Mathlib.Tactic.Lemma

/-! Base64 loses nothing, and writes bytes in one way only. Bytes are written in groups of three, and what is
read back from the symbols of a group are its bytes; no text that encoding gives has a fault, and every other
text has one. -/
namespace Listing.Base64

/-- The byte of a symbol, as all symbols are ASCII. -/
def symbolByte (n : Nat) : UInt8 := .ofNat (symbol n).toNat

lemma sextet?_symbolByte {n : Nat} (h : n < 64) : sextet? (symbolByte n) = some n := by
  revert n
  decide +kernel

lemma utf8EncodeChar_symbol {n : Nat} (h : n < 64) : String.utf8EncodeChar (symbol n) = [symbolByte n] := by
  revert n
  decide +kernel

lemma sextets_lt (bs : List UInt8) : ∀ n ∈ sextets bs, n < 64 := by
  fun_induction sextets bs with
  | case1 => simp
  | case2 a =>
    have ha := a.toNat_lt
    simp only [List.forall_mem_cons]
    exact ⟨by omega, by omega, by simp⟩
  | case3 a b =>
    have ha := a.toNat_lt
    have hb := b.toNat_lt
    simp only [List.forall_mem_cons]
    exact ⟨by omega, by omega, by omega, by simp⟩
  | case4 a b c bs ih =>
    have ha := a.toNat_lt
    have hb := b.toNat_lt
    have hc := c.toNat_lt
    simp only [List.forall_mem_cons]
    exact ⟨by omega, by omega, by omega, by omega, ih⟩

lemma octets_sextets (bs : List UInt8) : octets (sextets bs) = bs := by
  have eq_of {x : UInt8} {n : Nat} (h : n = x.toNat) : UInt8.ofNat n = x := by
    rw [h, UInt8.ofNat_toNat]
  fun_induction sextets bs with
  | case1 => rfl
  | case2 a =>
    rw [octets, eq_of (by omega : _ = a.toNat)]
  | case3 a b =>
    have hb := b.toNat_lt
    rw [octets, eq_of (by omega : _ = a.toNat), eq_of (by omega : _ = b.toNat)]
  | case4 a b c bs ih =>
    have hb := b.toNat_lt
    have hc := c.toNat_lt
    rw [octets, ih, eq_of (by omega : _ = a.toNat), eq_of (by omega : _ = b.toNat),
      eq_of (by omega : _ = c.toNat)]

/-- Encoding ends with a whole group, or with two or three symbols, but never with one. -/
lemma length_sextets_mod (bs : List UInt8) : (sextets bs).length % 4 ≠ 1 := by
  fun_induction sextets bs with
  | case1 | case2 | case3 => simp
  | case4 a b c bs ih =>
    simp only [List.length_cons]
    omega

/-- A whole group in front moves neither the last symbol nor its place in a group. -/
lemma unusedBits_group (a b c d : UInt8) (bs : List UInt8) :
    unusedBits (a :: b :: c :: d :: bs) = unusedBits bs := by
  cases bs with
  | nil => simp [unusedBits]
  | cons e bs =>
    have hm : (bs.length + 1 + 1 + 1 + 1 + 1) % 4 = (bs.length + 1) % 4 := by omega
    simp [unusedBits, hm]

/-- What fills up the last byte of a short group is zero. -/
lemma unusedBits_sextets (bs : List UInt8) : unusedBits ((sextets bs).map symbolByte) = 0 := by
  fun_induction sextets bs with
  | case1 => rfl
  | case2 a =>
    have hl : a.toNat % 4 * 16 < 64 := by omega
    simp [unusedBits, sextet?_symbolByte hl]
  | case3 a b =>
    have hl : b.toNat % 16 * 4 < 64 := by omega
    simp [unusedBits, sextet?_symbolByte hl]
  | case4 a b c bs ih => rw [List.map_cons, List.map_cons, List.map_cons, List.map_cons, unusedBits_group, ih]

lemma filterMap_sextet? {ns : List Nat} (h : ∀ n ∈ ns, n < 64) :
    (ns.map symbolByte).filterMap sextet? = ns := by
  induction ns with
  | nil => rfl
  | cons n ns ih =>
    obtain ⟨hn, hns⟩ := List.forall_mem_cons.mp h
    rw [List.map_cons, List.filterMap_cons_some (sextet?_symbolByte hn), ih hns]

lemma fault?_sextets (bs : List UInt8) : fault? ((sextets bs).map symbolByte) = none := by
  have hm := length_sextets_mod bs
  have hd : danglingForeign? ((sextets bs).map symbolByte) = none := by simp [danglingForeign?, hm]
  have hf : firstForeign? ((sextets bs).map symbolByte) = none := by
    refine List.find?_eq_none.mpr fun p hp => ?_
    obtain ⟨n, hn, he⟩ := List.mem_map.mp (List.fst_mem_of_mem_zipIdx hp)
    rw [← he, sextet?_symbolByte (sextets_lt bs n hn)]
    simp
  simp [fault?, hd, hf, hm, unusedBits_sextets]

lemma mem_alphabet_of_mem_encode {bs : List UInt8} {c : Char} (h : c ∈ encode bs) : c ∈ alphabet := by
  obtain ⟨n, hn, rfl⟩ := List.mem_map.mp h
  have hl : n < alphabet.length := sextets_lt bs n hn
  rw [symbol, List.getD_eq_getElem _ _ hl]
  exact List.getElem_mem hl

lemma utf8Encode_encode (bs : List UInt8) :
    (encode bs).utf8Encode.data.toList = (sextets bs).map symbolByte := by
  have hs := sextets_lt bs
  rw [encode, List.utf8Encode, List.toList_data_toByteArray, List.flatMap_map, List.map_eq_flatMap]
  exact List.flatMap_congr fun n hn => utf8EncodeChar_symbol (hs n hn)

/-- The bytes of an encoded text decode to what was encoded. -/
theorem decode_sextets (bs : List UInt8) : decode ((sextets bs).map symbolByte) = .ok bs := by
  rw [decode, fault?_sextets, filterMap_sextet? (sextets_lt bs), octets_sextets]

/-! ### One text for each list of bytes -/

lemma symbolByte_of_sextet? {b : UInt8} {n : Nat} (h : sextet? b = some n) : n < 64 ∧ symbolByte n = b := by
  have hall : ∀ k < 256, ∀ n ∈ sextet? (.ofNat k), n < 64 ∧ symbolByte n = .ofNat k := by decide +kernel
  have hb := hall b.toNat b.toNat_lt n
  rw [UInt8.ofNat_toNat] at hb
  exact hb h

lemma map_symbolByte_filterMap {bs : List UInt8} (h : ∀ b ∈ bs, (sextet? b).isSome = true) :
    (bs.filterMap sextet?).map symbolByte = bs := by
  induction bs with
  | nil => rfl
  | cons b bs ih =>
    obtain ⟨hb, hbs⟩ := List.forall_mem_cons.mp h
    obtain ⟨n, hn⟩ := Option.isSome_iff_exists.mp hb
    rw [List.filterMap_cons_some hn, List.map_cons, ih hbs, (symbolByte_of_sextet? hn).2]

/-- Whole groups lose nothing, and short ones nothing but the bits that fill them up. -/
lemma sextets_octets {ns : List Nat} (hn : ∀ n ∈ ns, n < 64) (hl : ns.length % 4 ≠ 1)
    (hu : unusedBits (ns.map symbolByte) = 0) : sextets (octets ns) = ns := by
  fun_induction octets ns with
  | case1 a b c d ns ih =>
    simp only [List.forall_mem_cons] at hn
    obtain ⟨ha, hb, hc, hd, hn⟩ := hn
    simp only [List.map_cons, unusedBits_group] at hu
    have hl : ns.length % 4 ≠ 1 := by
      simp only [List.length_cons] at hl
      omega
    simp only [sextets, ih hn hl hu, UInt8.toNat_ofNat', List.cons.injEq, and_true]
    omega
  | case2 a b c =>
    simp only [List.forall_mem_cons] at hn
    obtain ⟨ha, hb, hc, -⟩ := hn
    simp [unusedBits, sextet?_symbolByte hc] at hu
    simp only [sextets, UInt8.toNat_ofNat', List.cons.injEq, and_true]
    omega
  | case3 a b =>
    simp only [List.forall_mem_cons] at hn
    obtain ⟨ha, hb, -⟩ := hn
    simp [unusedBits, sextet?_symbolByte hb] at hu
    simp only [sextets, UInt8.toNat_ofNat', List.cons.injEq, and_true]
    omega
  | case4 ns h₁ h₂ h₃ =>
    match ns with
    | [] => rfl
    | [a] => exact absurd rfl hl
    | [a, b] => exact absurd rfl (h₃ a b)
    | [a, b, c] => exact absurd rfl (h₂ a b c)
    | a :: b :: c :: d :: ns => exact absurd rfl (h₁ a b c d ns)

/-- The conditions that decoding checks. -/
lemma of_fault?_eq_none {bs : List UInt8} (h : fault? bs = none) :
    (∀ b ∈ bs, (sextet? b).isSome = true) ∧ bs.length % 4 ≠ 1 ∧ unusedBits bs = 0 := by
  unfold fault? at h
  split at h
  · nomatch h
  split at h
  · nomatch h
  rename_i hf
  split_ifs at h with hl hu
  refine ⟨fun b hb => ?_, hl, not_not.mp hu⟩
  obtain ⟨i, hi, rfl⟩ := List.mem_iff_getElem.mp hb
  have hm : (bs[i], i) ∈ bs.zipIdx := List.mk_mem_zipIdx_iff_getElem?.mpr (List.getElem?_eq_getElem hi)
  simpa [Option.isSome_iff_ne_none] using List.find?_eq_none.mp hf _ hm

/-- Decoding takes the bytes of encoded texts and no others. -/
theorem decode_eq_ok_iff {bs os : List UInt8} : decode bs = .ok os ↔ bs = (sextets os).map symbolByte := by
  constructor
  · intro h
    unfold decode at h
    split at h
    · nomatch h
    · rename_i hf
      cases h
      obtain ⟨hs, hl, hu⟩ := of_fault?_eq_none hf
      have hb := map_symbolByte_filterMap hs
      have hn : ∀ n ∈ bs.filterMap sextet?, n < 64 := fun n hn => by
        obtain ⟨b, -, hb⟩ := List.mem_filterMap.mp hn
        exact (symbolByte_of_sextet? hb).1
      rw [← hb, List.length_map] at hl
      rw [← hb] at hu
      rw [sextets_octets hn hl hu, hb]
  · rintro rfl
    exact decode_sextets os

end Listing.Base64
