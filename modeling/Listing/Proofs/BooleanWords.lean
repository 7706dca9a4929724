import Listing.Coercion
import Mathlib.Data.List.Forall2
import Mathlib.Tactic.Lemma

/-! The words that a boolean column accepts, against the truth values that they are bound as. One reader folds the case
of all letters, the other that of the letters of ASCII. They differ in the long s, and so in `false` alone, which is
bound as what it is in either spelling. -/
namespace Listing

namespace Domain
variable {s word : String} {c w : Char} {cs ws : List Char}

/-- A letter in either case. For a small s, the long one will do as well. -/
inductive IsLetter : Char → Char → Prop
  | eitherCase {c w : Char} (h : c.toLower = w) : IsLetter c w
  | long : IsLetter 'ſ' 's'

/-- The text is the word, letter by letter. -/
def Spells (s word : String) : Prop := List.Forall₂ IsLetter s.toList word.toList

lemma caseless_eq_iff (hw : w ≠ 'ſ') : caseless c = w ↔ IsLetter c w := by
  unfold caseless
  constructor
  · intro h
    split at h
    · rename_i hc
      subst hc h
      exact .long
    · exact .eitherCase h
  · rintro (h | _)
    · split
      · rename_i hc
        subst hc h
        exact absurd rfl hw
      · exact h
    · rfl

lemma map_caseless_eq_iff (hw : 'ſ' ∉ ws) : cs.map caseless = ws ↔ List.Forall₂ IsLetter cs ws := by
  induction cs generalizing ws with
  | nil => cases ws <;> simp
  | cons c cs ih =>
    cases ws with
    | nil => simp
    | cons w ws =>
      obtain ⟨hw, hws⟩ := not_or.mp (List.mem_cons.not.mp hw)
      rw [List.map_cons, List.cons.injEq, caseless_eq_iff (Ne.symm hw), ih hws, List.forall₂_cons]

lemma isBooleanWord_iff : isBooleanWord s = true ↔ Spells s "true" ∨ Spells s "false" := by
  simp only [isBooleanWord, Bool.or_eq_true, beq_iff_eq]
  exact or_congr (map_caseless_eq_iff (by decide)) (map_caseless_eq_iff (by decide))

/-- Without a long s, only the case of letters of ASCII is left to differ in. -/
lemma sameIgnoringCase_iff_spells (hl : word.toList.map Char.toLower = word.toList) (hw : 'ſ' ∉ word.toList) :
    Text.sameIgnoringCase s word = true ↔ Spells s word ∧ 'ſ' ∉ s.toList := by
  rw [Text.sameIgnoringCase, beq_iff_eq, hl, Spells, ← map_caseless_eq_iff hw]
  have hm (h : 'ſ' ∉ s.toList) : s.toList.map caseless = s.toList.map Char.toLower := by
    refine List.map_congr_left fun c hc => ?_
    have hn : c ≠ 'ſ' := fun he => h (he ▸ hc)
    rw [caseless, if_neg hn]
  constructor
  · intro h
    have hs : 'ſ' ∉ s.toList := fun hs => hw (h ▸ List.mem_map_of_mem (f := Char.toLower) hs)
    exact ⟨(hm hs).trans h, hs⟩
  · rintro ⟨h, hs⟩
    exact (hm hs).symm.trans h

lemma not_mem_of_spells (hs : 's' ∉ word.toList) (hw : 'ſ' ∉ word.toList) (h : Spells s word) : 'ſ' ∉ s.toList := by
  intro hm
  rw [Spells, ← map_caseless_eq_iff hw] at h
  exact hs (h ▸ List.mem_map_of_mem (f := caseless) hm)

lemma spells_true_iff : Spells s "true" ↔ Text.sameIgnoringCase s "true" = true := by
  rw [sameIgnoringCase_iff_spells (by decide) (by decide)]
  exact ⟨fun h => ⟨h, not_mem_of_spells (by decide) (by decide) h⟩, And.left⟩

lemma sameIgnoringCase_true_of_spells_false (h : Spells s "false") : Text.sameIgnoringCase s "true" = false := by
  rw [Bool.eq_false_iff, ne_eq, ← spells_true_iff]
  intro ht
  nomatch h.length_eq.symm.trans ht.length_eq

end Domain

namespace Selectors
variable {ss : Selectors} {c : Comparison} {sel : Selector}

lemma coerce_of_boolean (hs : ss.get? c.selector = some sel) (hd : sel.domain = .type .boolean) (asList : Bool) :
    ss.coerce c asList = .bool (Text.sameIgnoringCase c.firstOperand "true") := by
  have hc : ss.domainOf c.selector = .type .boolean := by simp [domainOf, hs, hd]
  cases asList <;> simp [coerce, hc, Domain.single, Domain.list, SelectorType.single, SelectorType.list,
    Comparison.firstOperand]

/-- A boolean column accepts two words. One is `true` but for the case of its letters, and is bound as true. The
other is `false`, and is bound as false; here too only the case of letters of ASCII differs, unless there is a
long s. -/
theorem coerce_boolean (hs : ss.get? c.selector = some sel) (hd : sel.domain = .type .boolean) (asList : Bool) :
    sel.accepts c.firstOperand = true ↔
      (Text.sameIgnoringCase c.firstOperand "true" = true ∧ ss.coerce c asList = .bool true) ∨
        (Domain.Spells c.firstOperand "false" ∧ ss.coerce c asList = .bool false ∧
          (Text.sameIgnoringCase c.firstOperand "false" = true ↔ 'ſ' ∉ c.firstOperand.toList)) := by
  have ha : sel.accepts c.firstOperand = Domain.isBooleanWord c.firstOperand := by
    rw [Selector.accepts, hd]
    rfl
  rw [ha, Domain.isBooleanWord_iff, coerce_of_boolean hs hd, Domain.spells_true_iff]
  constructor
  · rintro (h | h)
    · exact .inl ⟨h, congrArg _ h⟩
    · refine .inr ⟨h, congrArg _ (Domain.sameIgnoringCase_true_of_spells_false h), ?_⟩
      rw [Domain.sameIgnoringCase_iff_spells (by decide) (by decide), and_iff_right h]
  · rintro (⟨h, -⟩ | ⟨h, -⟩)
    · exact .inl h
    · exact .inr h

/-- Capital and small letters mixed, for one operand and for the first of a list. -/
theorem coerce_boolean_accounts :
    let active : Selector := .record { sql := some "u.active", domain := .type .boolean }
    let ss : Selectors := .ofList [("active", active)]
    let c : Comparison := ⟨"active", "==", ["tRUE"]⟩
    let d : Comparison := ⟨"active", "=in=", ["FaLſE", "true"]⟩
    ss.get? "active" = some active ∧ active.domain = .type .boolean ∧ active.accepts c.firstOperand = true ∧
      ss.coerce c false = .bool true ∧ active.accepts d.firstOperand = true ∧ ss.coerce d true = .bool false := by
  intro active ss c d
  have hc : active.accepts c.firstOperand = true := by decide +kernel
  have hd : active.accepts d.firstOperand = true := by decide +kernel
  refine ⟨rfl, rfl, hc, ?_, hd, ?_⟩
  · rcases (@coerce_boolean ss c active rfl rfl false).mp hc with ⟨-, h⟩ | ⟨h, -⟩
    · exact h
    · exact absurd h.length_eq (by decide +kernel)
  · rcases (@coerce_boolean ss d active rfl rfl true).mp hd with ⟨h, -⟩ | ⟨-, h, -⟩
    · exact absurd h (by decide +kernel)
    · exact h

/-- With a long s the word is accepted, and it is neither of the two that the letters of ASCII have. -/
theorem accepts_long_s :
    let active : Selector := .record { sql := some "u.active", domain := .type .boolean }
    active.domain = .type .boolean ∧ active.accepts "falſe" = true ∧ Text.sameIgnoringCase "falſe" "true" = false ∧
      Text.sameIgnoringCase "falſe" "false" = false := by
  intro active
  refine ⟨rfl, ?_, ?_, ?_⟩ <;> decide +kernel

end Selectors
end Listing
