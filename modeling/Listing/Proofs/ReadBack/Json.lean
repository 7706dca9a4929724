import Listing.Dictionary
import Listing.Json
import Mathlib.Data.List.Forall2
import Mathlib.Tactic.Lemma

/-! JSON values that differ in the order of members only, and readers that make the same of all of them.
Each way to build a reader from smaller ones keeps this property. -/
namespace Listing.Json

/-- The same JSON value, but for the order of members: those of an object each have a name of their own, and by
this name they are the same. -/
inductive Same : Json → Json → Prop
  | refl (j : Json) : Same j j
  | array {js ks : List Json} (items : List.Forall₂ Same js ks) : Same (.array js) (.array ks)
  | object {ms ns : List (String × Json)} (distinct : (ms.map Prod.fst).Nodup)
      (members : ∀ key, Option.Rel Same (ms.lookup key) (ns.lookup key)) : Same (.object ms) (.object ns)

/-- The same members by name. -/
def SameMembers (ms ns : List (String × Json)) : Prop :=
  ∀ key, Option.Rel Same (ms.lookup key) (ns.lookup key)

/-- What the reader makes of a JSON value, in whatever order its members stand. -/
def Yields {α : Type} (read : Json → Option α) (j : Json) (a : α) : Prop := ∀ k, Same k j → read k = some a

lemma Same.of_array {j : Json} {ks : List Json} (h : Same j (.array ks)) :
    ∃ js, j = .array js ∧ List.Forall₂ Same js ks := by
  rcases h with _ | items | _
  · exact ⟨ks, rfl, List.forall₂_same.mpr fun k _ => .refl k⟩
  · exact ⟨_, rfl, items⟩

lemma sameMembers_refl (ms : List (String × Json)) : SameMembers ms ms := by
  intro key
  cases ms.lookup key with
  | none => exact .none
  | some j => exact .some (.refl j)

lemma Same.of_object {j : Json} {ns : List (String × Json)} (h : Same j (.object ns)) :
    ∃ ms, j = .object ms ∧ SameMembers ms ns ∧
      ((ns.map Prod.fst).Nodup → (ms.map Prod.fst).Nodup) := by
  rcases h with _ | _ | ⟨distinct, members⟩
  · exact ⟨ns, rfl, sameMembers_refl ns, id⟩
  · exact ⟨_, rfl, members, fun _ => distinct⟩

/-- Any order of the members will do. -/
lemma Same.of_perm {ms ns : List (String × Json)} (h : ms.Perm ns) (hn : (ns.map Prod.fst).Nodup) :
    Same (.object ms) (.object ns) := by
  have hm : (ms.map Prod.fst).Nodup := (h.map _).nodup_iff.mpr hn
  refine .object hm fun key => ?_
  have hl : ms.lookup key = ns.lookup key := by
    ext j
    rw [lookup_eq_some_iff_mem hm, lookup_eq_some_iff_mem hn, h.mem_iff]
  rw [hl]
  exact sameMembers_refl ns key

section Readers
variable {α : Type} {read : Json → Option α} {j : Json} {a : α}

lemma Yields.read_eq (h : Yields read j a) : read j = some a := h j (.refl j)

lemma yields_string (s : String) : Yields asString? (.string s) s := by
  rintro _ ⟨⟩
  rfl

lemma yields_bool (b : Bool) : Yields asBool? (.bool b) b := by
  rintro _ ⟨⟩
  rfl

lemma yields_name {ofName? : String → Option α} {name : String} (h : ofName? name = some a) :
    Yields (fun j => j.asName?.bind ofName?) (.string name) a := by
  rintro _ ⟨⟩
  exact h

lemma yields_items {ks : List Json} {as : List α} (h : List.Forall₂ (Yields read) ks as) :
    Yields (fun j => j.asArray?.bind (·.mapM read)) (.array ks) as := by
  intro j hj
  obtain ⟨js, rfl, items⟩ := hj.of_array
  change js.mapM read = some as
  clear hj
  induction h generalizing js with
  | nil =>
    cases items
    rfl
  | cons hk _ ih =>
    cases items with
    | cons hj items => simp [hk _ hj, ih _ items]

lemma yields_strings (ss : List String) : Yields asStrings? (ofStrings ss) ss :=
  yields_items (List.forall₂_map_left_iff.mpr (List.forall₂_same.mpr fun s _ => yields_string s))

lemma Yields.nullable (h : Yields read j a) (hn : read .null = none) :
    Yields (Json.nullable read) j (some a) := by
  intro k hk
  have hr := h k hk
  have hk : k ≠ .null := by
    rintro rfl
    rw [hn] at hr
    nomatch hr
  rw [Json.nullable.eq_2 read k hk, hr]
  rfl

/-- A value that is written as null if it is not there. -/
lemma yields_elim {toJson : α → Json} (h : ∀ a, Yields read (toJson a) a) (hn : read .null = none)
    (o : Option α) : Yields (Json.nullable read) (o.elim .null toJson) o := by
  cases o with
  | none =>
    rintro _ ⟨⟩
    rfl
  | some a => exact (h a).nullable hn

end Readers

namespace SameMembers
variable {α : Type} {read : Json → Option α} {ms ns : List (String × Json)} {j : Json} {a : α}

lemma lookup_eq_none (h : SameMembers ms ns) (key : String) (hk : ns.lookup key = none) :
    ms.lookup key = none := by
  have hm := h key
  rw [hk] at hm
  cases hm' : ms.lookup key with
  | none => rfl
  | some k =>
    rw [hm'] at hm
    nomatch hm

lemma exists_lookup (h : SameMembers ms ns) (key : String) (hk : ns.lookup key = some j) :
    ∃ k, ms.lookup key = some k ∧ Same k j := by
  have hm := h key
  rw [hk] at hm
  cases hm' : ms.lookup key with
  | none =>
    rw [hm'] at hm
    nomatch hm
  | some k =>
    rw [hm'] at hm
    cases hm with
    | some hs => exact ⟨k, rfl, hs⟩

lemma lookup_bind (h : SameMembers ms ns) (key : String) (hk : ns.lookup key = some j)
    (hr : Yields read j a) : (ms.lookup key).bind read = some a := by
  obtain ⟨k, hm, hs⟩ := h.exists_lookup key hk
  rw [hm]
  exact hr k hs

lemma memberOr_eq (h : SameMembers ms ns) (key : String) (hk : ns.lookup key = some j)
    (hr : Yields read j a) (d : α) : memberOr ms key d read = some a := by
  obtain ⟨k, hm, hs⟩ := h.exists_lookup key hk
  simp only [memberOr, hm]
  exact hr k hs

/-- A value that is left out if it is not there. -/
lemma memberOr_nullable (h : SameMembers ms ns) (key : String) {toJson : α → Json} {o : Option α}
    (hk : ns.lookup key = o.map toJson) (hr : ∀ a, Yields read (toJson a) a)
    (hn : read .null = none) : memberOr ms key none (nullable read) = some o := by
  cases o with
  | none => simp only [memberOr, h.lookup_eq_none key hk]
  | some a => exact h.memberOr_eq key hk ((hr a).nullable hn) none

end SameMembers
end Listing.Json
