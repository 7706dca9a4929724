import Listing.Proofs.Trimming
import Listing.Sort

/-! Texts that list sort keys. An entry between commas tells a key by a sign and a field, with white space around both,
or tells none; reading a text finds the keys that its entries tell, in their order. -/
namespace Listing.SortKey
variable {cs ds : List Char} {k : SortKey} {keys : List SortKey} {d : Direction}

/-! ### Texts that list keys -/

/-- A field as it can be listed: not empty, without commas and without white space at its ends. -/
structure IsField (field : String) : Prop where
  nonempty : field ≠ ""
  comma : ',' ∉ field.toList
  head : ∀ c ∈ field.toList.head?, Text.isBlank c = false
  last : ∀ c ∈ field.toList.getLast?, Text.isBlank c = false

/-- How a direction is written. -/
inductive Sign : Direction → List Char → Prop
  | minus : Sign .desc ['-']
  | plus : Sign .asc ['+']
  | absent : Sign .asc []

def IsSign (c : Char) : Prop := c = '-' ∨ c = '+'

def Blank (cs : List Char) : Prop := ∀ c ∈ cs, Text.isBlank c = true

/-- An entry that tells a key, or none. A field that starts like a sign needs a sign in front. -/
inductive Entry : Option SortKey → List Char → Prop
  | key {field : String} {d : Direction} {before sign between after : List Char} (hb : Blank before)
      (hs : Sign d sign) (hm : Blank between) (ha : Blank after)
      (hf : sign = [] → ∀ c ∈ field.toList.head?, ¬ IsSign c) :
      Entry (some ⟨field, d⟩) (before ++ (sign ++ (between ++ (field.toList ++ after))))
  | none {d : Direction} {before sign after : List Char} (hb : Blank before) (hs : Sign d sign) (ha : Blank after) :
      Entry none (before ++ (sign ++ after))

/-- Entries with commas between them, and the keys that they tell. -/
inductive Lists : List SortKey → List Char → Prop
  | last {o : Option SortKey} {e : List Char} (he : Entry o e) : Lists o.toList e
  | more {o : Option SortKey} {e : List Char} {keys : List SortKey} {cs : List Char} (he : Entry o e)
      (h : Lists keys cs) : Lists (o.toList ++ keys) (e ++ ',' :: cs)

/-! ### Entries -/

lemma entries_ne_nil (cs : List Char) : entries cs ≠ [] := by
  intro h
  have hl := length_entries cs
  rw [h] at hl
  nomatch hl

/-- A comma ends an entry. -/
lemma entries_append (cs ds : List Char) : entries (cs ++ ',' :: ds) = entries cs ++ entries ds := by
  induction cs with
  | nil =>
    obtain ⟨e, es, he⟩ := List.exists_cons_of_ne_nil (entries_ne_nil ds)
    simp [entries, he]
  | cons c cs ih =>
    obtain ⟨e, es, he⟩ := List.exists_cons_of_ne_nil (entries_ne_nil cs)
    rw [List.cons_append, entries, ih, entries, he]
    by_cases hc : c = ',' <;> simp [hc]

lemma entries_of_notMem (h : ',' ∉ cs) : entries cs = [cs] := by
  induction cs with
  | nil => rfl
  | cons c cs ih =>
    rw [List.mem_cons, not_or] at h
    rw [entries, ih h.2]
    simp [Ne.symm h.1]

theorem parseList_append (a b : String) : parseList (a ++ "," ++ b) = parseList a ++ parseList b := by
  have ht : (a ++ "," ++ b).toList = a.toList ++ ',' :: b.toList := by simp
  rw [parseList, ht, entries_append, List.filterMap_append, parseList, parseList]

/-! ### What an entry tells -/

lemma Sign.splitDirection {sign : List Char} (h : Sign d sign) (hf : sign = [] → ∀ c ∈ cs.head?, ¬ IsSign c) :
    splitDirection (sign ++ cs) = (d, cs) := by
  cases h with
  | minus | plus => rfl
  | absent =>
    rw [List.nil_append]
    unfold SortKey.splitDirection
    split
    · exact absurd (.inl rfl) (hf rfl '-' rfl)
    · exact absurd (.inr rfl) (hf rfl '+' rfl)
    · rfl

lemma exists_sign (cs : List Char) : ∃ sign, Sign (splitDirection cs).1 sign ∧ cs = sign ++ (splitDirection cs).2 ∧
    (sign = [] → ∀ c ∈ cs.head?, ¬ IsSign c) := by
  unfold splitDirection
  split
  · exact ⟨_, .minus, rfl, nofun⟩
  · exact ⟨_, .plus, rfl, nofun⟩
  · rename_i hm hp
    refine ⟨_, .absent, rfl, fun _ c hc => ?_⟩
    obtain ⟨cs, rfl⟩ := List.head?_eq_some_iff.mp hc
    rintro (rfl | rfl)
    · exact hm cs rfl
    · exact hp cs rfl

lemma Blank.append (h : Blank cs) (h' : Blank ds) : Blank (cs ++ ds) := List.forall_mem_append.mpr ⟨h, h'⟩

lemma Sign.notBlank {sign : List Char} (h : Sign d sign) : ∀ c ∈ sign, Text.isBlank c = false := by
  cases h with
  | minus | plus => exact List.forall_mem_singleton.mpr (by decide)
  | absent => exact List.forall_mem_nil _

lemma trimChars_trimChars (cs : List Char) : Text.trimChars (Text.trimChars cs) = Text.trimChars cs := by
  obtain ⟨-, -, -, -, hh, hl, -⟩ := Text.isCore_trimChars cs
  exact Text.IsCore.eq ⟨[], [], List.forall_mem_nil _, List.forall_mem_nil _, hh, hl, by simp⟩

lemma parse?_of_trimChars {sign rest e : List Char} (he : Text.trimChars e = sign ++ rest) (hs : Sign d sign)
    (hf : sign = [] → ∀ c ∈ rest.head?, ¬ IsSign c) :
    parse? e = if (Text.trimChars rest).isEmpty then none else some ⟨.ofList (Text.trimChars rest), d⟩ := by
  rw [parse?, he, hs.splitDirection hf]

lemma Entry.parse?_eq {o : Option SortKey} {e : List Char} (h : Entry o e) (ho : ∀ k ∈ o, IsField k.field) :
    parse? e = o := by
  cases h with
  | @key field d before sign between after hb hs hm ha hf =>
    obtain ⟨hn, -, hh, hl⟩ := ho _ rfl
    have hn : field.toList ≠ [] := fun h => hn (String.toList_eq_nil_iff.mp h)
    -- without a sign, the white space on both sides of it is trimmed at once
    obtain ⟨rest, he, hr, hf⟩ : ∃ rest, Text.trimChars (before ++ (sign ++ (between ++ (field.toList ++ after)))) =
        sign ++ rest ∧ Text.trimChars rest = field.toList ∧ (sign = [] → ∀ c ∈ rest.head?, ¬ IsSign c) := by
      cases sign with
      | nil =>
        have hc : Text.IsCore field.toList (before ++ ([] ++ (between ++ (field.toList ++ after)))) :=
          ⟨before ++ between, after, hb.append hm, ha, hh, hl, by simp⟩
        exact ⟨field.toList, hc.eq, hc.eq ▸ trimChars_trimChars _, hf⟩
      | cons c sign =>
        have hc : Text.isBlank c = false := hs.notBlank c (.head _)
        have hi : Text.IsCore field.toList (between ++ field.toList) :=
          ⟨between, [], hm, List.forall_mem_nil _, hh, hl, by simp⟩
        refine ⟨between ++ field.toList, Text.IsCore.eq ⟨before, after, hb, ha, ?_, ?_, by simp⟩, hi.eq, nofun⟩
        · intro c' hc'
          cases hc'
          exact hc
        · rwa [← List.append_assoc, List.getLast?_append_of_ne_nil _ hn]
    rw [parse?_of_trimChars he hs hf, hr, if_neg (by simpa using hn), String.ofList_toList]
  | @none d before sign after hb hs ha =>
    have he : Text.trimChars (before ++ (sign ++ after)) = sign ++ [] := by
      rw [List.append_nil, Text.trimChars_surrounded hb ha hs.notBlank]
    rw [parse?_of_trimChars he hs (by simp)]
    rfl

/-- Each entry tells what is read of it. -/
lemma entry_of (e : List Char) : Entry (parse? e) e := by
  obtain ⟨before, after, hb, ha, he⟩ := Text.exists_trimChars e
  obtain ⟨sign, hs, hc, hf⟩ := exists_sign (Text.trimChars e)
  generalize hd : splitDirection (Text.trimChars e) = p at hs hc
  obtain ⟨d, rest⟩ := p
  obtain ⟨between, behind, hm, hr, hi⟩ := Text.exists_trimChars rest
  have ho : parse? e = if (Text.trimChars rest).isEmpty then none else some ⟨.ofList (Text.trimChars rest), d⟩ := by
    rw [parse?, hd]
  have hs' : e = before ++ (sign ++ (between ++ (Text.trimChars rest ++ (behind ++ after)))) :=
    calc e = before ++ ((sign ++ rest) ++ after) := hc ▸ he
      _ = before ++ ((sign ++ (between ++ (Text.trimChars rest ++ behind))) ++ after) := by rw [← hi]
      _ = before ++ (sign ++ (between ++ (Text.trimChars rest ++ (behind ++ after)))) := by simp
  rw [ho]
  split
  · rename_i hn
    rw [List.isEmpty_iff.mp hn, List.nil_append] at hs'
    rw [hs']
    exact .none hb hs (Blank.append hm (Blank.append hr ha))
  · have hk : Entry (some ⟨.ofList (Text.trimChars rest), d⟩) (before ++ (sign ++ (between ++
        ((String.ofList (Text.trimChars rest)).toList ++ (behind ++ after))))) := by
      refine .key hb hs hm (Blank.append hr ha) fun hn => ?_
      rw [String.toList_ofList]
      have hr : Text.trimChars rest = Text.trimChars e := by
        rw [hn] at hc
        rw [← trimChars_trimChars e, hc]
        rfl
      rw [hr]
      exact hf hn
    rw [String.toList_ofList] at hk
    rw [hs']
    exact hk

/-! ### Fields that are read -/

lemma notMem_of_mem_entries {e : List Char} (h : e ∈ entries cs) : ',' ∉ e := by
  induction cs generalizing e with
  | nil =>
    cases List.mem_singleton.mp h
    exact List.not_mem_nil
  | cons c cs ih =>
    obtain ⟨d, ds, hd⟩ := List.exists_cons_of_ne_nil (entries_ne_nil cs)
    simp only [entries, hd] at h ih
    split at h
    · rcases List.mem_cons.mp h with rfl | h
      · exact List.not_mem_nil
      · exact ih h
    · rename_i hc
      rcases List.mem_cons.mp h with rfl | h
      · rw [List.mem_cons, not_or]
        exact ⟨Ne.symm hc, ih (.head _)⟩
      · exact ih (.tail _ h)

lemma isField_of_parse? {e : List Char} (he : ',' ∉ e) (h : parse? e = some k) : IsField k.field := by
  have hm (cs : List Char) : ∀ c ∈ Text.trimChars cs, c ∈ cs := fun c hc => by
    obtain ⟨before, after, -, -, hs⟩ := Text.exists_trimChars cs
    rw [hs]
    simp [hc]
  obtain ⟨sign, -, hc, -⟩ := exists_sign (Text.trimChars e)
  simp only [parse?] at h
  split at h
  · nomatch h
  · rename_i hn
    cases h
    obtain ⟨-, -, -, -, hh, hl, -⟩ := Text.isCore_trimChars (splitDirection (Text.trimChars e)).2
    refine ⟨?_, ?_, ?_, ?_⟩
    · simpa using hn
    · rw [String.toList_ofList]
      intro hc'
      refine he (hm e _ ?_)
      rw [hc]
      exact List.mem_append_right _ (hm _ _ hc')
    · rwa [String.toList_ofList]
    · rwa [String.toList_ofList]

lemma isField_of_mem_parseList {s : String} (h : k ∈ parseList s) : IsField k.field := by
  obtain ⟨e, he, hk⟩ := List.mem_filterMap.mp h
  exact isField_of_parse? (notMem_of_mem_entries he) hk

/-! ### Lists -/

lemma Blank.notMem_comma (h : Blank cs) : ',' ∉ cs := fun hm => nomatch h _ hm

lemma Sign.notMem_comma {sign : List Char} (h : Sign d sign) : ',' ∉ sign := by
  cases h <;> decide

lemma Entry.notMem_comma {o : Option SortKey} {e : List Char} (h : Entry o e) (ho : ∀ k ∈ o, IsField k.field) :
    ',' ∉ e := by
  cases h with
  | key hb hs hm ha hf =>
    have hc := (ho _ rfl).comma
    simp [hb.notMem_comma, hs.notMem_comma, hm.notMem_comma, ha.notMem_comma, hc]
  | none hb hs ha => simp [hb.notMem_comma, hs.notMem_comma, ha.notMem_comma]

lemma Lists.filterMap_entries (h : Lists keys cs) (hk : ∀ k ∈ keys, IsField k.field) :
    (entries cs).filterMap parse? = keys := by
  induction h with
  | @last o e he =>
    have ho : ∀ k ∈ o, IsField k.field := fun k hm => hk k (by simpa using hm)
    rw [entries_of_notMem (he.notMem_comma ho)]
    cases o <;> simp [he.parse?_eq ho]
  | @more o e keys cs he h ih =>
    have ho : ∀ k ∈ o, IsField k.field := fun k hm => hk k (List.mem_append_left _ (by simpa using hm))
    rw [entries_append, entries_of_notMem (he.notMem_comma ho), List.filterMap_append,
      ih fun k hm => hk k (List.mem_append_right _ hm)]
    cases o <;> simp [he.parse?_eq ho]

/-- Each text lists the keys that are read of it: its entries are those between its commas. -/
lemma lists_filterMap_entries (cs : List Char) : Lists ((entries cs).filterMap parse?) cs := by
  by_cases hc : ',' ∈ cs
  · obtain ⟨e, ds, rfl, he⟩ := List.eq_append_cons_of_mem hc
    have hl : ds.length < (e ++ ',' :: ds).length := by simp; omega
    rw [entries_append, entries_of_notMem he, List.filterMap_append]
    have hm := Lists.more (entry_of e) (lists_filterMap_entries ds)
    cases ho : parse? e <;> simpa [ho] using hm
  · rw [entries_of_notMem hc]
    have hm := Lists.last (entry_of cs)
    cases ho : parse? cs <;> simpa [ho] using hm
termination_by cs.length

/-- Two texts with a comma between them list the keys of the one and then those of the other. The fields that are read
are not empty, and have neither commas nor white space at their ends; and keys with such fields are read exactly of the
texts that list them. -/
theorem parseList_lists :
    (∀ a b, parseList (a ++ "," ++ b) = parseList a ++ parseList b) ∧
      (∀ s, ∀ k ∈ parseList s, IsField k.field) ∧
      ∀ keys s, (∀ k ∈ keys, IsField k.field) → (parseList s = keys ↔ Lists keys s.toList) := by
  refine ⟨parseList_append, fun s k h => isField_of_mem_parseList h, fun keys s hk => ⟨?_, ?_⟩⟩
  · rintro rfl
    exact lists_filterMap_entries s.toList
  · exact fun h => h.filterMap_entries hk

/-- A field that starts with a sign, behind a sign of its own; a blank entry; and a field in descending order. -/
theorem parseList_lists_signs :
    let s := " + -points, ,- name "
    let keys : List SortKey := [⟨"-points", .asc⟩, ⟨"name", .desc⟩]
    (∀ k ∈ keys, IsField k.field) ∧ Lists keys s.toList ∧ parseList s = keys ∧
      ⟨"name", .desc⟩ ∈ parseList s ∧ IsField "name" := by
  intro s keys
  have blank : Blank [' '] := List.forall_mem_singleton.mpr (by decide)
  have none : Blank [] := List.forall_mem_nil _
  have hp : IsField "-points" := by refine ⟨by decide, by decide, ?_, ?_⟩ <;> rintro _ ⟨⟩ <;> rfl
  have hn : IsField "name" := by refine ⟨by decide, by decide, ?_, ?_⟩ <;> rintro _ ⟨⟩ <;> rfl
  have hf : ∀ k ∈ keys, IsField k.field :=
    List.forall_mem_cons.mpr ⟨hp, List.forall_mem_cons.mpr ⟨hn, List.forall_mem_nil _⟩⟩
  have hl : Lists keys s.toList := by
    have hs : s.toList = ([' '] ++ (['+'] ++ ([' '] ++ ("-points".toList ++ [])))) ++ ',' ::
        (([' '] ++ ([] ++ [])) ++ ',' :: ([] ++ (['-'] ++ ([' '] ++ ("name".toList ++ [' ']))))) := by decide
    rw [hs]
    exact .more (.key blank .plus blank none nofun) (.more (.none blank .absent none)
      (.last (.key none .minus blank blank nofun)))
  obtain ⟨-, hfield, hlist⟩ := parseList_lists
  have hr : parseList s = keys := (hlist keys s hf).mpr hl
  have hm : ⟨"name", .desc⟩ ∈ parseList s := by
    rw [hr]
    exact .tail _ (.head _)
  exact ⟨hf, hl, hr, hm, hfield s _ hm⟩

end Listing.SortKey
