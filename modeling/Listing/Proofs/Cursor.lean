import Listing.Cursor
import Listing.Proofs.Base64
import Listing.Proofs.JsonTexts
import Listing.Proofs.Trimming
import Mathlib.Data.List.Forall2

/-! Cursors lose nothing. What decoding makes of a cursor is what it was made from, whatever texts those
are, and also if the cursor came through tools that use the common alphabet, pad, or put white space
around it. -/
namespace Listing.Cursor

/-- A symbol as it is, or as the common alphabet has it. -/
def Counterpart (c d : Char) : Prop := d = c ∨ (c = '-' ∧ d = '+') ∨ (c = '_' ∧ d = '/')

/-- Another way to write a cursor: any of its symbols in the common alphabet, padding behind them, and
white space around all. -/
def Respelled (s t : String) : Prop :=
  ∃ (before symbols after : List Char) (padding : Nat),
    (∀ c ∈ before, Text.isBlank c = true) ∧ (∀ c ∈ after, Text.isBlank c = true) ∧
      List.Forall₂ Counterpart s.toList symbols ∧
      t = .ofList (before ++ (symbols ++ List.replicate padding '=' ++ after))

lemma respelled_self (s : String) : Respelled s s := by
  refine ⟨[], s.toList, [], 0, by simp, by simp, ?_, by simp⟩
  exact List.forall₂_same.mpr fun c _ => .inl rfl

/-- No symbol is lost when a cursor is normalized, whichever alphabet it is from. -/
lemma safeSymbol_of_counterpart {c d : Char} (hc : c ∈ Base64.alphabet) (h : Counterpart c d) :
    Text.isBlank d = false ∧ d ≠ '=' ∧ safeSymbol d = c := by
  have ha : ∀ c ∈ Base64.alphabet, Text.isBlank c = false ∧ c ≠ '=' ∧ safeSymbol c = c :=
    List.forall_iff_forall_mem.mp (by decide +kernel)
  rcases h with rfl | ⟨rfl, rfl⟩ | ⟨rfl, rfl⟩
  · exact ha d hc
  · decide
  · decide

lemma safeSymbols_of_counterparts {cs ds : List Char} (hc : ∀ c ∈ cs, c ∈ Base64.alphabet)
    (h : List.Forall₂ Counterpart cs ds) :
    (∀ d ∈ ds, Text.isBlank d = false ∧ d ≠ '=') ∧ ds.map safeSymbol = cs := by
  induction h with
  | nil => simp
  | @cons c d cs ds hcd _ ih =>
    obtain ⟨hc, hcs⟩ := List.forall_mem_cons.mp hc
    obtain ⟨hb, he, hd⟩ := safeSymbol_of_counterpart hc hcd
    obtain ⟨hds, hm⟩ := ih hcs
    exact ⟨List.forall_mem_cons.mpr ⟨⟨hb, he⟩, hds⟩, by rw [List.map_cons, hd, hm]⟩

lemma normalized_respelled {s t : String} (hs : ∀ c ∈ s.toList, c ∈ Base64.alphabet)
    (h : Respelled s t) : normalized t = s := by
  obtain ⟨before, symbols, after, padding, hb, ha, hc, rfl⟩ := h
  obtain ⟨hd, hm⟩ := safeSymbols_of_counterparts hs hc
  have hp : ∀ c ∈ List.replicate padding '=', c = '=' := fun c hc => List.eq_of_mem_replicate hc
  have hn : ∀ c ∈ symbols ++ List.replicate padding '=', Text.isBlank c = false := by
    intro c hc
    rcases List.mem_append.mp hc with hc | hc
    · exact (hd c hc).1
    · rw [hp c hc]
      decide
  have ht : Text.dropTrailing (· = '=') (symbols ++ List.replicate padding '=') = symbols :=
    Text.dropTrailing_append (by simp) fun c hc => by simpa using (hd c hc).2
  rw [normalized, String.toList_ofList, Text.trimChars_surrounded hb ha hn, ht, hm, String.ofList_toList]

lemma mem_alphabet_of_mem_encode {values : List String} {c : Char} (h : c ∈ (encode values).toList) :
    c ∈ Base64.alphabet := by
  rw [encode, String.toList_ofList] at h
  exact Base64.mem_alphabet_of_mem_encode h

/-- The bytes that a list of texts is read from are a JSON list of these texts. -/
lemma ofBytes?_eq_some_iff {bytes : List UInt8} {values : List String} : ofBytes? bytes = some values ↔
    ∃ text : String, bytes = text.toUTF8.data.toList ∧ Json.parse? text = some (Json.ofStrings values) := by
  constructor
  · intro h
    obtain ⟨j, ht, hj⟩ := Option.bind_eq_some_iff.mp h
    obtain ⟨text, hb, hp⟩ := Option.bind_eq_some_iff.mp ht
    rw [String.fromUTF8?] at hb
    split at hb
    · cases hb
      rw [Json.asStrings?_eq_some_iff.mp hj] at hp
      exact ⟨_, rfl, hp⟩
    · nomatch hb
  · rintro ⟨text, rfl, hp⟩
    have hu : String.fromUTF8? text.toUTF8 = some text := dif_pos text.isValidUTF8
    rw [ofBytes?, Array.toArray_toList, hu, Option.bind_some, hp, Option.bind_some, Json.asStrings?_ofStrings]

lemma decode_of_normalized {t : String} {values : List String} (h : normalized t = encode values) :
    decode t = .ok values := by
  have hb : Base64.decode (normalized t).toUTF8.data.toList =
      .ok (Json.ofStrings values).text.toUTF8.data.toList := by
    rw [h, encode, String.toUTF8, String.toByteArray_ofList, Base64.utf8Encode_encode,
      Base64.decode_sextets]
  have hv := ofBytes?_eq_some_iff.mpr ⟨_, rfl, Json.parse?_text_ofStrings values⟩
  simp only [decode, hb, hv]

lemma decode_of_respelled {values : List String} {t : String} (h : Respelled (encode values) t) :
    decode t = .ok values :=
  decode_of_normalized (normalized_respelled (fun _ => mem_alphabet_of_mem_encode) h)

lemma decode_encode (values : List String) : decode (encode values) = .ok values :=
  decode_of_respelled (respelled_self _)

/-- No cursor is blank, not even one without values. -/
lemma trimChars_ne_nil_of_decode {s : String} {values : List String} (h : decode s = .ok values) :
    Text.trimChars s.toList ≠ [] := by
  intro hn
  have he : normalized s = "" := by rw [normalized, hn]; rfl
  rw [decode, he] at h
  nomatch h

/-- A cursor is written in letters, digits, hyphens and low lines, and it decodes to the texts that it was
made from, whatever they hold; and so does every other spelling of it. -/
theorem decode_respelled (values : List String) :
    (∀ c ∈ (encode values).toList, c.isAlphanum = true ∨ c = '-' ∨ c = '_') ∧
      decode (encode values) = .ok values ∧
      ∀ t, Respelled (encode values) t → decode t = .ok values := by
  have ha : ∀ c ∈ Base64.alphabet, c.isAlphanum = true ∨ c = '-' ∨ c = '_' :=
    List.forall_iff_forall_mem.mp (by decide +kernel)
  exact ⟨fun c hc => ha c (mem_alphabet_of_mem_encode hc), decode_encode values,
    fun _ => decode_of_respelled⟩

/-- A cursor from a tool that uses the common alphabet, pads, and ends with a line break. -/
theorem decode_respelled_padded :
    Respelled (encode ["??>", "~~?"]) "\u3000 WyI/Pz4iLCJ+fj8iXQ==\n" ∧
      decode "\u3000 WyI/Pz4iLCJ+fj8iXQ==\n" = .ok ["??>", "~~?"] := by
  have he : (encode ["??>", "~~?"]).toList = "WyI_Pz4iLCJ-fj8iXQ".toList := by decide +kernel
  have h : Respelled (encode ["??>", "~~?"]) "\u3000 WyI/Pz4iLCJ+fj8iXQ==\n" := by
    refine ⟨['\u3000', ' '], "WyI/Pz4iLCJ+fj8iXQ".toList, ['\n'], 2,
      List.forall_iff_forall_mem.mp (by decide), List.forall_iff_forall_mem.mp (by decide), ?_, by decide⟩
    rw [he]
    simp [Counterpart]
  exact ⟨h, (decode_respelled _).2.2 _ h⟩

end Listing.Cursor
