import Listing.Config.Json
import Listing.Proofs.ReadBack.Json

/-! Configurations read back from their JSON. What is absent is left out of it, and the format has no object of
its own, so that each part has to be found under a name that no other part has. -/
namespace Listing
open Json

/-- A member that is left out if its value is not there. -/
lemma lookup_optional {α : Type} (key l : String) (toJson : α → Json) (o : Option α) :
    (o.map fun a => (key, toJson a)).toList.lookup l = if l = key then o.map toJson else none := by
  cases o with
  | none => simp
  | some a => exact lookup_cons_eq l _ []

lemma SelectorType.yields_ofJson? (t : SelectorType) : Yields ofJson? (.string t.name) t :=
  yields_name (by cases t <;> rfl)

lemma Strategy.yields_ofJson? (s : Strategy) : Yields ofJson? (.string s.name) s :=
  yields_name (by cases s <;> rfl)

namespace Domain

/-- A list of allowed values and a type have different names, so each is found where it was written. -/
lemma ofMembers?_of_same {d : Domain} {ms ns : List (String × Json)} (h : SameMembers ms ns)
    (he : ns.lookup "enum" = d.members.lookup "enum") (ht : ns.lookup "type" = d.members.lookup "type") :
    ofMembers? ms = some d := by
  cases d with
  | any => simp [ofMembers?, h.lookup_eq_none "enum" he, memberOr, h.lookup_eq_none "type" ht]
  | type t =>
    have hr := h.memberOr_eq "type" ht (t.yields_ofJson?.nullable rfl) none
    simp [ofMembers?, h.lookup_eq_none "enum" he, hr]
  | oneOf allowed => simp [ofMembers?, h.lookup_bind "enum" he (yields_strings allowed)]

/-- The domain has no member under a name of its own column. -/
lemma lookup_members {d : Domain} {key : String} (he : key ≠ "enum") (ht : key ≠ "type") :
    d.members.lookup key = none := by
  cases d <;> simp [members, he, ht]

end Domain

/-- Each part of a column is found under its own name. -/
theorem Column.ofMembers?_of_same {c : Column} {ms : List (String × Json)}
    (h : Same (.object ms) c.toJson) : ofMembers? ms = some c := by
  obtain ⟨_, ⟨⟩, hm, -⟩ := Same.of_object h
  have hd {key : String} (he : key ≠ "enum") (ht : key ≠ "type") :=
    Domain.lookup_members (d := c.domain) he ht
  have hs := hm.memberOr_nullable "sql" (o := c.sql)
    (by simp [List.lookup_append, lookup_optional, hd]) yields_string rfl
  have hr := hm.memberOr_nullable "alias" (o := c.rowName)
    (by simp [List.lookup_append, lookup_optional, hd]) yields_string rfl
  have ho := hm.memberOr_nullable "sortable" (o := c.sortable)
    (by simp [List.lookup_append, lookup_optional, hd]) yields_bool rfl
  have hv : Domain.ofMembers? ms = some c.domain := by
    apply Domain.ofMembers?_of_same hm
    · simp [List.lookup_append, lookup_optional]
    · simp [List.lookup_append, lookup_optional]
  simp [ofMembers?, hs, hr, ho, hv]

namespace Selector

theorem yields_ofJson? (s : Selector) : Yields ofJson? s.toJson s := by
  cases s with
  | bare sql =>
    rintro _ ⟨⟩
    rfl
  | record c =>
    intro j hj
    obtain ⟨ms, rfl, -, -⟩ := Same.of_object hj
    simp [ofJson?, Column.ofMembers?_of_same hj]

end Selector

namespace Selectors

lemma lookup_entries (ss : Selectors) (field : String) :
    (ss.entries.map fun e => (e.1, e.2.toJson)).lookup field = (ss.get? field).map Selector.toJson :=
  lookup_map _ _ _

/-- Every member is the selector of its field. -/
lemma exists_of_mem {ss : Selectors} {ms : List (String × Json)}
    (h : SameMembers ms (ss.entries.map fun e => (e.1, e.2.toJson))) (hn : (ms.map Prod.fst).Nodup)
    {m : String × Json} (hm : m ∈ ms) :
    ∃ s, ss.get? m.1 = some s ∧ Selector.ofJson? m.2 = some s := by
  have hs := h m.1
  rw [lookup_entries, (lookup_eq_some_iff_mem hn).mpr hm] at hs
  cases hg : ss.get? m.1 with
  | none =>
    rw [hg] at hs
    nomatch hs
  | some s =>
    rw [hg] at hs
    cases hs with
    | some hs => exact ⟨s, rfl, s.yields_ofJson? _ hs⟩

/-- Members are read one by one, and keep their names. -/
lemma exists_mapM {ss : Selectors} {ms : List (String × Json)}
    (h : ∀ m ∈ ms, ∃ s, ss.get? m.1 = some s ∧ Selector.ofJson? m.2 = some s) :
    ∃ es, ms.mapM (fun m => (Selector.ofJson? m.2).map (m.1, ·)) = some es ∧
      es.map Prod.fst = ms.map Prod.fst ∧ ∀ e ∈ es, ss.get? e.1 = some e.2 := by
  induction ms with
  | nil => exact ⟨[], rfl, rfl, nofun⟩
  | cons m ms ih =>
    obtain ⟨⟨s, hg, hs⟩, hms⟩ := List.forall_mem_cons.mp h
    obtain ⟨es, he, hk, hes⟩ := ih hms
    refine ⟨(m.1, s) :: es, ?_, by simp [hk], List.forall_mem_cons.mpr ⟨hg, hes⟩⟩
    simp [hs, he]

theorem yields_ofJson? (ss : Selectors) : Yields ofJson? ss.toJson ss := by
  intro j hj
  obtain ⟨ms, rfl, hm, hd⟩ := Same.of_object hj
  have hn : (ms.map Prod.fst).Nodup := hd (by simpa [Function.comp_def] using ss.ascending.nodup_keys)
  obtain ⟨es, he, hk, hes⟩ := exists_mapM fun m hmem => exists_of_mem hm hn hmem
  have hf : Dictionary.ofList es = ss := by
    refine Dictionary.ofList_eq (hk ▸ hn) hes fun field hs => ?_
    obtain ⟨s, hs⟩ := Option.isSome_iff_exists.mp hs
    obtain ⟨j, hj, -⟩ := hm.exists_lookup field ((lookup_entries ss field).trans (by rw [hs]; rfl))
    exact hk ▸ List.mem_map.mpr ⟨_, (lookup_eq_some_iff_mem hn).mp hj, rfl⟩
  simp [ofJson?, asObject?, he, hf]

end Selectors

namespace Config

theorem yields_ofJson? (cfg : Config) : Yields ofJson? cfg.toJson { cfg with plugins := ∅ } := by
  intro j hj
  obtain ⟨ms, rfl, hm, -⟩ := Same.of_object hj
  have hs : memberOr ms "wherePrefix" none (Json.nullable asString?) = some cfg.separator? := by
    apply hm.memberOr_nullable "wherePrefix" _ yields_string rfl
    exact lookup_optional "wherePrefix" "wherePrefix" .string cfg.separator?
  simp [ofJson?, asObject?, hm.lookup_bind "mainQuery" rfl (yields_string cfg.base),
    hm.memberOr_eq "concatStrategy" rfl cfg.strategy.yields_ofJson?,
    hm.memberOr_eq "selectors" rfl cfg.selectors.yields_ofJson?,
    hm.memberOr_eq "lax" rfl (yields_bool cfg.lax),
    hm.memberOr_eq "keywordsLowerCase" rfl (yields_bool cfg.format.lowerCase),
    hm.memberOr_eq "detachedOperators" rfl (yields_bool cfg.format.detached), hs]

end Config

/-- A configuration without plugins is read back from the JSON that is written for it, and from that JSON with
the members of its objects in any other order. Each selector is read back by itself too, so a bare one, an
enumerated one and a record with or without a type are told apart by what is written for them alone. -/
theorem configurations_read_back (cfg : Config) (hp : cfg.plugins = ∅) :
    Config.ofJson? cfg.toJson = some cfg ∧
      (∀ j : Json, j.Same cfg.toJson → Config.ofJson? j = some cfg) ∧
      ∀ field s, cfg.selectors.get? field = some s → Selector.ofJson? s.toJson = some s := by
  have h : Yields Config.ofJson? cfg.toJson cfg := by
    have he : { cfg with plugins := ∅ } = cfg := by rw [← hp]
    exact he ▸ cfg.yields_ofJson?
  exact ⟨h.read_eq, h, fun _ s _ => s.yields_ofJson?.read_eq⟩

/-- A listing with selectors of all forms, among them an enumerated one that allows nothing. -/
def Config.people : Config where
  base := "select * from people p where p.active"
  strategy := .and
  selectors := .ofList [("id", .bare "p.id"), ("tier", .record { domain := .oneOf [] }),
    ("name", .record { rowName := some "full_name", sortable := some false }),
    ("born", .record { sql := some "p.born", domain := .type .date })]
  lax := true
  format := { lowerCase := true }
  separator? := some ""

theorem configurations_read_back_people :
    let j : Json := .object [("mainQuery", .string Config.people.base), ("concatStrategy", .string "and"),
      ("selectors", Config.people.selectors.toJson), ("lax", .bool true), ("keywordsLowerCase", .bool true),
      ("detachedOperators", .bool false), ("wherePrefix", .string "")].reverse
    Config.people.plugins = ∅ ∧ j.Same Config.people.toJson ∧ Config.ofJson? j = some Config.people ∧
      Selector.ofJson? (.object [("enum", .array [])]) = some (.record { domain := .oneOf [] }) := by
  intro j
  have hj : j.Same Config.people.toJson := Same.of_perm (List.reverse_perm _) (by decide)
  obtain ⟨-, hc, hs⟩ := configurations_read_back Config.people rfl
  exact ⟨rfl, hj, hc j hj, hs "tier" _ rfl⟩

end Listing
