import Listing.Proofs.ReadBack.Json
import Listing.Request.Json

/-! Requests read back from their JSON. The forms of a filter bear no mark of their kind, and the reader tries
them one after another, so what has to be seen is that no form takes what was written for a later one. -/
namespace Listing
open Json

lemma Connective.yields_ofJson? (k : Connective) : Yields ofJson? (.string k.name) k :=
  yields_name (by cases k <;> rfl)

lemma Direction.yields_ofJson? (d : Direction) : Yields ofJson? (.string d.name) d :=
  yields_name (by cases d <;> rfl)

theorem Comparison.yields_ofJson? (c : Comparison) : Yields ofJson? c.toJson c := by
  intro j hj
  obtain ⟨ms, rfl, hm, -⟩ := hj.of_object
  simp only [ofJson?, hm.lookup_bind "selector" rfl (yields_string c.selector),
    hm.lookup_bind "operator" rfl (yields_string c.operator),
    hm.memberOr_eq "operands" rfl (yields_strings c.operands)]
  rfl

/-- A filter is always written as an object. -/
lemma Filter.exists_of_same {j : Json} {f : Filter} (h : Same j f.toJson) : ∃ ms, j = .object ms := by
  cases f with
  | comparison c | group k os =>
    obtain ⟨ms, rfl, -, -⟩ := Same.of_object h
    exact ⟨ms, rfl⟩

namespace Operand

/-- Of the members of a group, only the operands matter. -/
lemma ofMembers?_of_lookup {ms : List (String × Json)} {items : List Json}
    (h : ms.lookup "operands" = some (.array items)) : ofMembers? ms = ofItems? items := by
  induction ms with
  | nil => nomatch h
  | cons m ms ih =>
    obtain ⟨key, j⟩ := m
    by_cases hk : key = "operands"
    · subst hk
      cases h
      simp [ofMembers?]
    · rw [List.lookup_cons, beq_false_of_ne (Ne.symm hk)] at h
      cases j <;> simp [ofMembers?, hk, ih h]

/-- Each operand is read back in its place: a text can only be a stray one, and a filter is never a text. -/
lemma ofItems?_of_same {os : List Operand}
    (h : ∀ f, .filter f ∈ os → Yields Filter.ofJson? f.toJson f) {js : List Json}
    (hj : List.Forall₂ Same js (listToJson os)) : ofItems? js = some os := by
  induction os generalizing js with
  | nil =>
    cases hj
    rfl
  | cons o os ih =>
    cases hj with
    | cons ho hos =>
      have hs := ih (fun f hf => h f (.tail _ hf)) hos
      cases o with
      | stray s =>
        change Same _ (.string s) at ho
        cases ho
        simp [ofItems?, hs]
      | filter f =>
        have hf := h f (.head _) _ ho
        obtain ⟨ms, rfl⟩ := Filter.exists_of_same ho
        simp [ofItems?, hf, hs]

end Operand

namespace Filter

theorem yields_ofJson? (f : Filter) : Yields ofJson? f.toJson f := by
  induction f using Filter.induction with
  | comparison c =>
    intro j hj
    have hc := c.yields_ofJson? j hj
    obtain ⟨ms, rfl, -, -⟩ := Same.of_object hj
    simp [ofJson?, hc]
  | group k os ih =>
    intro j hj
    obtain ⟨ms, rfl, hm, -⟩ := Same.of_object hj
    -- A group has no selector, without which nothing is a comparison.
    have hc : Comparison.ofJson? (.object ms) = none := by
      simp [Comparison.ofJson?, hm.lookup_eq_none "selector" rfl]
    have hk := hm.lookup_bind "operator" rfl k.yields_ofJson?
    obtain ⟨items, ho, hs⟩ := hm.exists_lookup "operands" rfl
    obtain ⟨js, rfl, hos⟩ := hs.of_array
    simp [ofJson?, hc, hk, Operand.ofMembers?_of_lookup ho, Operand.ofItems?_of_same ih hos]

end Filter

namespace SortKey

theorem yields_ofJson? (k : SortKey) : Yields ofJson? k.toJson k := by
  intro j hj
  obtain ⟨ms, rfl, hm, -⟩ := Same.of_object hj
  obtain ⟨f, hf, hs⟩ := hm.exists_lookup "operand" rfl
  obtain ⟨d, hd, ht⟩ := hm.exists_lookup "operator" rfl
  have hf' := hm.lookup_eq_none "field" rfl
  have hd' := hm.lookup_eq_none "dir" rfl
  simp [ofJson?, memberOf, hf, hf', hd, hd', yields_string k.field f hs, k.direction.yields_ofJson? d ht]

lemma yields_listOfJson? (ks : List SortKey) : Yields listOfJson? (listToJson ks) ks :=
  yields_items (List.forall₂_map_left_iff.mpr (List.forall₂_same.mpr fun k _ => k.yields_ofJson?))

end SortKey

namespace Request

theorem yields_ofJson? (r : Request) : Yields ofJson? r.toJson r := by
  intro j hj
  obtain ⟨ms, rfl, hm, -⟩ := Same.of_object hj
  have hf : Yields filterOfJson? _ r.filter := yields_elim Filter.yields_ofJson? rfl _
  have hc : Yields cursorOfJson? _ r.cursor := yields_elim yields_string rfl _
  simp only [ofJson?, ofMembers?, hm.memberOr_eq "filter" rfl hf,
    hm.memberOr_eq "sort" rfl (SortKey.yields_listOfJson? r.sort),
    hm.memberOr_eq "keyset" rfl hc]
  rfl

end Request

/-- Filters and requests are read back from the JSON that is written for them, and from that JSON with the
members of its objects in any other order. The filter may be malformed: groups may be of any connective,
without operands or with stray texts among them. -/
theorem requests_read_back :
    (∀ f : Filter, Filter.ofJson? f.toJson = some f ∧
      ∀ j : Json, j.Same f.toJson → Filter.ofJson? j = some f) ∧
    ∀ r : Request, Request.ofJson? r.toJson = some r ∧
      ∀ j : Json, j.Same r.toJson → Request.ofJson? j = some r := by
  refine ⟨fun f => ⟨?_, ?_⟩, fun r => ⟨?_, ?_⟩⟩
  · exact f.yields_ofJson?.read_eq
  · exact f.yields_ofJson?
  · exact r.yields_ofJson?.read_eq
  · exact r.yields_ofJson?

/-- A negation of three operands, the second of them a group without any, and a request with its members
the other way round. -/
theorem requests_read_back_reordered :
    let f : Filter := .group .not [.stray "and", .filter (.group .or []),
      .filter (.comparison ⟨"operator", "and", ["x", ""]⟩)]
    let r : Request := ⟨some f, [⟨"points", .desc⟩, ⟨"id", .asc⟩], none⟩
    let j : Json := .object [("operands", .array [.string "and", (Filter.group .or []).toJson,
      (Comparison.mk "operator" "and" ["x", ""]).toJson]), ("operator", .string "not")]
    let k : Json := .object [("filter", f.toJson), ("sort", SortKey.listToJson r.sort), ("keyset", .null)].reverse
    (j.Same f.toJson ∧ Filter.ofJson? j = some f) ∧ k.Same r.toJson ∧ Request.ofJson? k = some r := by
  intro f r j k
  have hj : j.Same f.toJson := Same.of_perm (List.Perm.swap _ _ []) (by decide)
  have hk : k.Same r.toJson := Same.of_perm (List.reverse_perm _) (by decide)
  exact ⟨⟨hj, (requests_read_back.1 f).2 j hj⟩, hk, (requests_read_back.2 r).2 k hk⟩

end Listing
