import Listing.Proofs.Cursor

/-! Cursors are canonical. Of the texts that differ in more than white space, padding and alphabet, only one
carries the same bytes, and this is the one that encoding gives: no text with padding inside, of a length that
no bytes have, or with bits set that belong to no byte is a cursor. -/
namespace Listing

namespace Cursor
variable {s : String} {bytes : List UInt8} {values : List String}

/-- What a text comes down to: white space around it and then padding at its end are taken away, and its symbols
are put into the safe alphabet. -/
def ComesTo (s n : String) : Prop :=
  ∃ body padding, Text.IsCore (body ++ padding) s.toList ∧ (∀ c ∈ padding, c = '=') ∧
    (∀ c ∈ body.getLast?, c ≠ '=') ∧ n = .ofList (body.map safeSymbol)

lemma ComesTo.eq {n : String} (h : ComesTo s n) : normalized s = n := by
  obtain ⟨body, padding, hs, hp, hb, rfl⟩ := h
  have ht : Text.dropTrailing (· = '=') (body ++ padding) = body :=
    Text.dropTrailing_append_of_getLast? (by simpa using hp) (by simpa using hb)
  rw [normalized, hs.eq, ht]

lemma comesTo_normalized (s : String) : ComesTo s (normalized s) := by
  obtain ⟨padding, hp, hb, hs⟩ := Text.exists_dropTrailing (· = '=') (Text.trimChars s.toList)
  refine ⟨_, padding, ?_, by simpa using hp, by simpa using hb, rfl⟩
  rw [← hs]
  exact Text.isCore_trimChars _

/-- The bytes that a text stands for in Base64, once it is normalized. -/
def Carries (s : String) (bytes : List UInt8) : Prop :=
  Base64.decode (normalized s).toUTF8.data.toList = .ok bytes

/-- Encoding brings back the text, and not only its bytes. -/
lemma carries_iff : Carries s bytes ↔ normalized s = .ofList (Base64.encode bytes) := by
  rw [Carries, Base64.decode_eq_ok_iff, ← Base64.utf8Encode_encode, Array.toList_inj, ← ByteArray.ext_iff,
    String.toUTF8, ← String.toByteArray_ofList, String.toByteArray_inj]

lemma decode_eq_ok_iff : decode s = .ok values ↔ ∃ bytes, Carries s bytes ∧ ofBytes? bytes = some values := by
  unfold decode Carries
  cases Base64.decode (normalized s).toUTF8.data.toList with
  | error fault => simp
  | ok bs => cases hv : ofBytes? bs <;> simp [hv]

/-- A text is a cursor only if what it comes to is the one that encoding gives for the bytes it carries, and these
are a JSON list of strings, those that decoding finds. So texts that come to different ones carry different
bytes, and all others are refused as cursors. -/
theorem decode_canonical {s n : String} (hn : ComesTo s n) :
    (∀ values, decode s = .ok values → ∃ (bytes : List UInt8) (text : String),
      Carries s bytes ∧ .ofList (Base64.encode bytes) = n ∧
      (∀ c ∈ n.toList, c ∈ Base64.alphabet) ∧ n.length % 4 ≠ 1 ∧
      bytes = text.toUTF8.data.toList ∧ Json.parse? text = some (.ofStrings values)) ∧
    (∀ t m bytes, ComesTo t m → Carries s bytes → Carries t bytes → n = m) ∧
    ((¬ ∃ (text : String) (values : List String),
        n = .ofList (Base64.encode text.toUTF8.data.toList) ∧
        Json.parse? text = some (.ofStrings values)) →
      ∃ message, decode s = .error (.invalidCursor message)) := by
  have hs := hn.eq
  subst hs
  refine ⟨fun values h => ?_, fun t m bytes hm hs ht => ?_, fun h => ?_⟩
  · obtain ⟨bytes, hb, hv⟩ := decode_eq_ok_iff.mp h
    obtain ⟨text, rfl, hp⟩ := ofBytes?_eq_some_iff.mp hv
    have he := carries_iff.mp hb
    refine ⟨_, text, hb, he.symm, ?_, ?_, rfl, hp⟩
    · rw [he, String.toList_ofList]
      exact fun c => Base64.mem_alphabet_of_mem_encode
    · rw [he, String.length_ofList, Base64.encode, List.length_map]
      exact Base64.length_sextets_mod _
  · rw [carries_iff.mp hs, ← hm.eq, carries_iff.mp ht]
  · cases hd : decode s with
    | error e =>
      obtain ⟨message, rfl⟩ := exists_of_decode_eq_error hd
      exact ⟨message, rfl⟩
    | ok values =>
      obtain ⟨bytes, hb, hv⟩ := decode_eq_ok_iff.mp hd
      obtain ⟨text, rfl, hp⟩ := ofBytes?_eq_some_iff.mp hv
      exact (h ⟨text, values, carries_iff.mp hb, hp⟩).elim

/-- A cursor with white space and padding around it, and the same one with a bit set that belongs to no byte. -/
theorem decode_canonical_padded :
    decode " WyIyIl0=\n" = .ok ["2"] ∧ ComesTo " WyIyIl0=\n" "WyIyIl0" ∧
      (∃ bytes, Carries " WyIyIl0=\n" bytes ∧ Carries "WyIyIl0" bytes) ∧
      normalized "WyIyIl0" = "WyIyIl0" ∧
      (∃ (bytes : List UInt8) (text : String), .ofList (Base64.encode bytes) = "WyIyIl0" ∧
        bytes = text.toUTF8.data.toList ∧ Json.parse? text = some (.ofStrings ["2"])) ∧
      ∃ message, decode "WyIyIl1" = .error (.invalidCursor message) := by
  have hd : decode " WyIyIl0=\n" = .ok ["2"] := by decide +kernel
  have hs : normalized " WyIyIl0=\n" = "WyIyIl0" := by decide +kernel
  have hn : ComesTo " WyIyIl0=\n" "WyIyIl0" := hs ▸ comesTo_normalized _
  have hc : Carries " WyIyIl0=\n" "[\"2\"]".toUTF8.data.toList := by unfold Carries; decide +kernel
  have hc' : Carries "WyIyIl0" "[\"2\"]".toUTF8.data.toList := by unfold Carries; decide +kernel
  have hbad : (Base64.decode (normalized "WyIyIl1").toUTF8.data.toList).isOk = false := by decide +kernel
  obtain ⟨hvalues, hsame, -⟩ := decode_canonical hn
  obtain ⟨bytes, text, -, he, -, -, hb, hp⟩ := hvalues _ hd
  refine ⟨hd, hn, ⟨_, hc, hc'⟩, (hsame _ _ _ (comesTo_normalized _) hc hc').symm, ⟨bytes, text, he, hb, hp⟩,
    (decode_canonical (comesTo_normalized "WyIyIl1")).2.2 ?_⟩
  rintro ⟨text, values, hn, -⟩
  rw [show Base64.decode _ = .ok _ from carries_iff.mpr hn] at hbad
  nomatch hbad

end Cursor
end Listing
