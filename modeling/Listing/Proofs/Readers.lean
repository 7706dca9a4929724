import Listing.Calendar.Iso8601
import Mathlib.Data.List.TakeWhile
import Mathlib.Tactic.Lemma

/-! What the readers of dates and times take from a text: digits, white space and a few marks; and what they make of
it. A text that is read to its end has no other characters. -/
namespace Listing.Calendar
variable {s t : Stamp} {c : Char} {cs ds rest : List Char} {n width : Nat} {f : Field}

/-- What patterns name of a text, besides digits and white space. -/
def marks : List Char := "+-−.:TtZz".toList

/-- A character that some item of a pattern takes. -/
def isRead (c : Char) : Bool := c.isDigit || Text.isBlank c || marks.contains c

/-- The text `rest` is left of `cs` behind characters that items take. -/
def Leaves (cs rest : List Char) : Prop := ∃ taken, cs = taken ++ rest ∧ ∀ c ∈ taken, isRead c = true

lemma Leaves.refl (cs : List Char) : Leaves cs cs := ⟨[], rfl, List.forall_mem_nil _⟩

lemma Leaves.trans (h : Leaves cs ds) (h' : Leaves ds rest) : Leaves cs rest := by
  obtain ⟨taken, rfl, ht⟩ := h
  obtain ⟨taken', rfl, ht'⟩ := h'
  exact ⟨taken ++ taken', (List.append_assoc _ _ _).symm, List.forall_mem_append.mpr ⟨ht, ht'⟩⟩

lemma leaves_cons (hc : isRead c = true) : Leaves (c :: cs) cs := ⟨[c], rfl, List.forall_mem_singleton.mpr hc⟩

lemma leaves_dropWhile {p : Char → Bool} (hp : ∀ c, p c = true → isRead c = true) (cs : List Char) :
    Leaves cs (cs.dropWhile p) :=
  ⟨cs.takeWhile p, List.takeWhile_append_dropWhile.symm, fun c hc => hp c (List.mem_takeWhile_imp hc)⟩

lemma leaves_skipBlanks (cs : List Char) : Leaves cs (Text.skipBlanks cs) :=
  leaves_dropWhile (fun c hc => by simp [isRead, hc]) cs

/-- Before a text that is read to its end there is nothing else. -/
lemma Leaves.isRead (h : Leaves cs []) : ∀ c ∈ cs, isRead c = true := by
  obtain ⟨taken, rfl, ht⟩ := h
  rwa [List.append_nil]

/-! ### Readers, one by one -/

lemma leaves_of_number (h : number width cs = some (n, rest)) : Leaves cs rest := by
  simp only [number] at h
  split at h
  · nomatch h
  · cases h
    have hp : (cs.take width).takeWhile Char.isDigit <+: cs :=
      (List.takeWhile_prefix Char.isDigit).trans (List.take_prefix width cs)
    refine ⟨_, (List.prefix_iff_eq_append.mp hp).symm, fun c hc => ?_⟩
    simp [Calendar.isRead, List.mem_takeWhile_imp hc]

lemma of_readField (h : readField f s cs = some (t, rest)) : Leaves cs rest ∧ ∃ n, t = s.set n f := by
  obtain ⟨⟨n, ds⟩, hn, h⟩ := Option.bind_eq_some_iff.mp h
  dsimp only at h
  split at h
  · cases h
    exact ⟨leaves_of_number hn, n, rfl⟩
  · nomatch h

lemma leaves_of_readYear (h : readYear s cs = some (t, rest)) : Leaves cs rest := by
  unfold readYear at h
  split at h
  · obtain ⟨⟨n, ds⟩, hn, h⟩ := Option.map_eq_some_iff.mp h
    cases h
    exact (leaves_cons (by decide)).trans (leaves_of_number hn)
  · obtain ⟨⟨n, ds⟩, hn, h⟩ := Option.map_eq_some_iff.mp h
    cases h
    exact (leaves_cons (by decide)).trans (leaves_of_number hn)
  · exact (of_readField h).1

lemma leaves_of_readSign {b : Bool} (h : readSign cs = some (b, rest)) : Leaves cs rest := by
  unfold readSign at h
  split at h
  all_goals cases h
  all_goals exact leaves_cons (by decide)

lemma leaves_of_twoDigits (h : twoDigits cs = some (n, rest)) : Leaves cs rest := by
  unfold twoDigits at h
  split at h
  · exact leaves_of_number h
  · nomatch h

lemma leaves_of_colon (h : colon cs = some rest) : Leaves cs rest := by
  unfold colon at h
  split at h
  · cases h
    exact leaves_cons (by decide)
  · nomatch h

/-- An offset is all that is set. -/
lemma of_readOffset {part : List Char → Option (List Char)} (hp : ∀ {cs rest}, part cs = some rest → Leaves cs rest)
    (h : readOffset part s cs = some (t, rest)) : Leaves cs rest ∧ ∃ n, t = { s with ahead := n } := by
  obtain ⟨⟨behind, cs₁⟩, h₁, h⟩ := Option.bind_eq_some_iff.mp h
  obtain ⟨⟨hours, cs₂⟩, h₂, h⟩ := Option.bind_eq_some_iff.mp h
  obtain ⟨cs₃, h₃, h⟩ := Option.bind_eq_some_iff.mp h
  obtain ⟨⟨minutes, cs₄⟩, h₄, h⟩ := Option.bind_eq_some_iff.mp h
  dsimp only at h
  split at h
  · cases h
    have hl := (leaves_of_readSign h₁).trans ((leaves_of_twoDigits h₂).trans ((hp h₃).trans (leaves_of_twoDigits h₄)))
    exact ⟨hl, _, rfl⟩
  · nomatch h

/-! ### Items -/

/-- Whether a choice of characters, if an item is one, is among what is read. -/
def Item.isUsual : Item → Bool
  | oneOf cs => cs.all isRead
  | _ => true

/-- An item that leaves the date as it is. -/
def Item.keepsDate : Item → Bool
  | field f | digits f => match f with
    | .year | .month | .day => false
    | _ => true
  | _ => true

lemma Stamp.date_set (hf : (Item.field f).keepsDate = true) (s : Stamp) (n : Nat) : (s.set n f).date = s.date := by
  cases f with
  | year | month | day => nomatch hf
  | hour | minute | second => rfl

/-- An item takes what is read from the front, and changes the date only where it is a part of one. -/
theorem Item.of_read {i : Item} (hi : i.isUsual = true) (h : i.read s cs = some (t, rest)) :
    Leaves cs rest ∧ (i.keepsDate = true → t.date = s.date) := by
  cases i with
  | field f =>
    have hb := leaves_skipBlanks cs
    cases f with
    | year => exact ⟨hb.trans (leaves_of_readYear h), fun hk => nomatch hk⟩
    | month | day | hour | minute | second =>
      obtain ⟨hl, n, rfl⟩ := of_readField h
      exact ⟨hb.trans hl, fun hk => Stamp.date_set hk s n⟩
  | digits f =>
    simp only [read] at h
    split at h
    · obtain ⟨hl, n, rfl⟩ := of_readField h
      exact ⟨hl, fun hk => Stamp.date_set hk s n⟩
    · nomatch h
  | oneOf ds =>
    simp only [read] at h
    split at h
    · split at h
      · rename_i c cs hc
        cases h
        exact ⟨leaves_cons (List.all_eq_true.mp hi c (List.contains_iff_mem.mp hc)), fun _ => rfl⟩
      · nomatch h
    · nomatch h
  | blanks =>
    cases h
    exact ⟨leaves_skipBlanks cs, fun _ => rfl⟩
  | fraction =>
    simp only [read] at h
    split at h
    · obtain ⟨⟨n, ds⟩, hn, h⟩ := Option.map_eq_some_iff.mp h
      cases h
      exact ⟨(leaves_cons (by decide)).trans (leaves_of_number hn), fun _ => rfl⟩
    · cases h
      exact ⟨.refl _, fun _ => rfl⟩
  | offset =>
    simp only [read] at h
    have hp (c : Char) (hc : (c = ':' || Text.isBlank c) = true) : isRead c = true := by
      rcases Bool.or_eq_true_iff.mp hc with hc | hc
      · rw [of_decide_eq_true hc]
        decide
      · simp [isRead, hc]
    obtain ⟨hl, n, rfl⟩ := of_readOffset (fun hr => Option.some.inj hr ▸ leaves_dropWhile hp _) h
    exact ⟨(leaves_skipBlanks cs).trans hl, fun _ => rfl⟩
  | zone =>
    simp only [read] at h
    split at h
    · cases h
      exact ⟨leaves_cons (by decide), fun _ => rfl⟩
    · cases h
      exact ⟨leaves_cons (by decide), fun _ => rfl⟩
    · obtain ⟨hl, n, rfl⟩ := of_readOffset leaves_of_colon h
      exact ⟨hl, fun _ => rfl⟩

/-- A text that is read to its end has nothing but what items take, and no part of a date is set but by an item. -/
theorem Pattern.of_readFrom {p : Pattern} (hp : p.all Item.isUsual = true) (h : p.readFrom s cs = some t) :
    (∀ c ∈ cs, isRead c = true) ∧ (p.all Item.keepsDate = true → t.date = s.date) := by
  suffices Leaves cs [] ∧ (p.all Item.keepsDate = true → t.date = s.date) from ⟨this.1.isRead, this.2⟩
  induction p generalizing s cs with
  | nil =>
    cases cs with
    | nil =>
      cases h
      exact ⟨.refl [], fun _ => rfl⟩
    | cons c cs => nomatch h
  | cons i is ih =>
    rw [List.all_cons, Bool.and_eq_true] at hp
    simp only [readFrom] at h
    split at h
    · rename_i hr
      obtain ⟨hl, hd⟩ := Item.of_read hp.1 hr
      obtain ⟨hl', hd'⟩ := ih hp.2 h
      refine ⟨hl.trans hl', fun hk => ?_⟩
      rw [List.all_cons, Bool.and_eq_true] at hk
      exact (hd' hk.2).trans (hd hk.1)
    · nomatch h

/-! ### Dates and times -/

/-- All patterns of dates and times. -/
def patterns : List Pattern := day :: (zonedPatterns ++ localPatterns)

lemma isUsual_patterns : ∀ p ∈ patterns, p.all Item.isUsual = true := by
  decide

lemma isRead_of_matches {p : Pattern} (hp : p ∈ patterns) (h : p.matches cs = true) : ∀ c ∈ cs, isRead c = true := by
  obtain ⟨t, ht⟩ := Option.isSome_iff_exists.mp h
  exact (Pattern.of_readFrom (isUsual_patterns p hp) (Option.filter_eq_some_iff.mp ht).1).1

lemma isRead_of_withoutZ (h : ∀ c ∈ withoutZ cs, isRead c = true) : ∀ c ∈ cs, isRead c = true := by
  unfold withoutZ at h
  split at h
  · rename_i hz
    obtain ⟨ds, rfl⟩ := List.getLast?_eq_some_iff.mp hz
    rw [List.dropLast_concat] at h
    exact List.forall_mem_append.mpr ⟨h, List.forall_mem_singleton.mpr (by decide)⟩
  · exact h

lemma prefix_completed (cs : List Char) : cs <+: completed cs := by
  unfold completed
  split
  · exact List.prefix_append _ _
  · split
    · exact List.prefix_append _ _
    · exact List.prefix_rfl

/-- A date or time has nothing but what is read. -/
theorem isRead_of_isIso8601 (h : isIso8601 cs = true) : ∀ c ∈ cs, isRead c = true := by
  simp only [isIso8601, Bool.or_eq_true, List.any_eq_true] at h
  rcases h with (⟨p, hp, h⟩ | ⟨p, hp, h⟩) | h
  · exact isRead_of_matches (.tail _ (List.mem_append_left _ hp)) h
  · exact isRead_of_withoutZ (isRead_of_matches (.tail _ (List.mem_append_right _ hp)) h)
  · simp only [isDay, Bool.and_eq_true] at h
    exact fun c hc => isRead_of_matches (.head _) h.2 c ((prefix_completed cs).subset hc)

end Listing.Calendar
