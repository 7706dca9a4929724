import Listing.Proofs.Cursor
import Listing.Proofs.Ordering
import Listing.Proofs.RowTexts
import Listing.Proofs.Stateless

/-! Pages follow one another. The cursor of a row, given to the request that brought the row, is taken by it
and adds to it one condition, which compares the columns of the sort keys with the texts of the row. -/
namespace Listing

namespace Cursor

/-- The texts of a cursor are those of the keys' columns, one for each key. -/
lemma forall₂_of_valuesOf {ss : Selectors} {keys : List SortKey} {row : Row} {values : List String}
    (h : valuesOf ss keys row = .ok values) :
    List.Forall₂ (fun k s => row.text? (ss.columnOf row k.field) = some s) keys values := valuesOf_eq_ok_iff.mp h

lemma of_after_eq_ok {ss : Selectors} {keys : List SortKey} {row : Row} {c : String}
    (h : after ss keys row = .ok c) : ∃ values, valuesOf ss keys row = .ok values ∧ c = encode values := by
  unfold after at h
  cases hv : valuesOf ss keys row with
  | error e =>
    rw [hv] at h
    nomatch h
  | ok values =>
    rw [hv] at h
    cases h
    exact ⟨values, rfl, rfl⟩

end Cursor

namespace Config
variable {cfg : Config}

/-- The columns of the keys compared with the placeholders behind `n` values, both in the order of the
keys. -/
def rowComparison (cfg : Config) (symbol : String) (keys : List SortKey) (n : Nat) : String :=
  "(" ++ String.intercalate "," (keys.map fun k => cfg.resolve k.field) ++ ")" ++ cfg.format.symbol symbol
    ++ "(" ++ String.intercalate "," ((List.range' (n + 1) keys.length).map fun i => "$" ++ toString i) ++ ")"

/-- The fragment of a page that starts behind a row: the predicate, if there is one, and the condition of the
cursor, in the order of the list. -/
def laterPage (cfg : Config) (predicate seek list : String) : String :=
  (if predicate = "" then seek else "(" ++ predicate ++ ") " ++ cfg.format.keyword .and ++ " " ++ seek)
    ++ " " ++ cfg.format.keyword .orderBy ++ " " ++ list

lemma seekAfter_cons (cfg : Config) (n : Nat) (k : SortKey) (ks : List SortKey) :
    cfg.seekAfter n (k :: ks) = cfg.rowComparison (seekSymbol k.direction) (k :: ks) n := by
  rw [seekAfter, seekText, rowComparison, Binding.placesFrom, List.map_map]
  rfl

lemma rowComparison_ne_empty (symbol : String) (keys : List SortKey) (n : Nat) :
    cfg.rowComparison symbol keys n ≠ "" := by
  intro h
  have hl := congrArg String.toList h
  simp [rowComparison] at hl

lemma of_fragment_eq_ok {r : Request} {p w : Params} {s : String} (h : cfg.fragment r p = .ok s w) :
    ∃ predicate order v, cfg.predicate r.filter p = .ok predicate v ∧
      cfg.orderBy r.sort r.cursor v = .ok order w ∧ s = cfg.combine predicate order := by
  obtain ⟨predicate, v, hp, hr⟩ := Binding.of_bind_eq_ok (Binding.of_restoring_eq_ok h)
  obtain ⟨order, u, ho, hs⟩ := Binding.of_bind_eq_ok hr
  cases hs
  exact ⟨predicate, order, v, hp, ho, rfl⟩

lemma fragment_of_ok {r : Request} {p v w : Params} {predicate : String} {order : OrderBy}
    (hp : cfg.predicate r.filter p = .ok predicate v) (ho : cfg.orderBy r.sort r.cursor v = .ok order w) :
    cfg.fragment r p = .ok (cfg.combine predicate order) w := by
  apply Binding.restoring_of_ok
  rw [Binding.bind_of_ok hp, Binding.bind_of_ok ho]
  rfl

lemma startOf_encode (values : List String) :
    startOf (some (Cursor.encode values)) = some (Cursor.encode values) := by
  simpa [startOf, Option.filter] using Cursor.trimChars_ne_nil_of_decode (Cursor.decode_encode values)

lemma cursorValues_encode {keys : List SortKey} {values : List String}
    (hl : values.length = keys.length) : cursorValues keys (Cursor.encode values) = .ok values := by
  simp only [cursorValues, Cursor.decode_encode, hl, if_true]

/-- An order that a first page takes binds nothing, and is taken again with a cursor that has a value for
each key. -/
lemma orderBy_encode {keys : List SortKey} {cursor : Option String} {p q : Params} {order : OrderBy}
    {values : List String} (hn : startOf cursor = none) (h : cfg.orderBy keys cursor p = .ok order q)
    (hl : values.length = keys.length) :
    order = { list := cfg.sortList keys } ∧ q = p ∧
      cfg.orderBy keys (some (Cursor.encode values)) p =
        .ok (cfg.orderAfter p.size keys (some (Cursor.encode values))) (p.append (values.map .text)) := by
  obtain ⟨vs, hvs, rfl, rfl⟩ := (orderBy_computes cfg keys cursor).of_eq_ok h
  have ho := orderBy_computes cfg keys (some (Cursor.encode values)) p
  unfold orderValues at hvs ho
  cases hk : keys.find? (!cfg.isSortable ·.field) with
  | some k =>
    rw [hk] at hvs
    nomatch hvs
  | none =>
    rw [hk, hn] at hvs
    cases hvs
    rw [hk, startOf_encode] at ho
    simp only [cursorValues_encode hl] at ho
    exact ⟨by simp [orderAfter, hn], Params.append_nil p, ho⟩

lemma orderAfter_encode_cons (n : Nat) (k : SortKey) (ks : List SortKey) (values : List String) :
    cfg.orderAfter n (k :: ks) (some (Cursor.encode values)) =
      ⟨cfg.sortList (k :: ks), cfg.rowComparison (seekSymbol k.direction) (k :: ks) n⟩ := by
  rw [orderAfter, startOf_encode, seekAfter_cons]
  rfl

/-- Behind a first page without a seek, the fragment is the same with a seek in it. -/
lemma combine_seek {predicate seek list : String} (hs : seek ≠ "") (hl : list ≠ "") :
    cfg.combine predicate { list, seek } = Text.trim (cfg.laterPage predicate seek list) := by
  by_cases hp : predicate = ""
  · simp [combine, OrderBy.isEmpty, laterPage, hs, hl, hp, String.append_assoc]
  · simp [combine, OrderBy.isEmpty, laterPage, hs, hl, hp, String.append_assoc]

/-- If a first page succeeds and its row gives a cursor, then the request succeeds with this cursor. It binds
what the first page bound and then the texts of the row, and its fragment is the first page's predicate
and list, with the comparison of the row between them. -/
theorem later_page_succeeds {r : Request} {row : Row} {p w : Params} {first c : String}
    (hn : startOf r.cursor = none) (h : cfg.query r p = .ok first w)
    (hc : Cursor.after cfg.selectors r.sort row = .ok c) :
    ∃ s predicate values,
      cfg.predicate r.filter p = .ok predicate w ∧
      cfg.orderBy r.sort r.cursor w = .ok { list := cfg.sortList r.sort } w ∧
      List.Forall₂ (fun k t => row.text? (cfg.selectors.columnOf row k.field) = some t) r.sort values ∧
      cfg.query { r with cursor := some c } p = .ok s (w.append (values.map .text)) ∧
      (cfg.sortList r.sort ≠ "" → ∃ k ks, r.sort = k :: ks ∧
        cfg.fragment { r with cursor := some c } p =
          .ok (Text.trim (cfg.laterPage predicate
            (cfg.rowComparison (seekSymbol k.direction) r.sort w.size) (cfg.sortList r.sort)))
          (w.append (values.map .text))) := by
  obtain ⟨fragment, v, hf, hq⟩ := Binding.of_bind_eq_ok h
  cases hq
  obtain ⟨predicate, order, v, hp, ho, -⟩ := of_fragment_eq_ok hf
  obtain ⟨values, hv, rfl⟩ := Cursor.of_after_eq_ok hc
  have hr := Cursor.forall₂_of_valuesOf hv
  obtain ⟨rfl, rfl, hlater⟩ := orderBy_encode hn ho hr.length_eq.symm
  have hf' := fragment_of_ok (r := { r with cursor := some (Cursor.encode values) }) hp hlater
  refine ⟨_, predicate, values, hp, ho, hr, Binding.bind_of_ok hf', fun hl => ?_⟩
  cases hk : r.sort with
  | nil =>
    rw [hk] at hl
    exact absurd rfl hl
  | cons k ks =>
    simp only [hk, orderAfter_encode_cons] at hf' hl
    rw [combine_seek (rowComparison_ne_empty _ _ _) hl] at hf'
    exact ⟨k, ks, rfl, hf'⟩

/-- The second page of the users with few points, behind one that ended with Ann. -/
theorem later_page_succeeds_users :
    let r : Request := ⟨some (.comparison ⟨"points", "<", ["10"]⟩), [⟨"points", .desc⟩, ⟨"name", .asc⟩], none⟩
    let row : Row := .columns (.ofList [("u.name", .string "Ann"), ("points", .integer 7)])
    let p : Params := ⟨[.text "base"]⟩
    let w : Params := ⟨[.text "base", .number (.int 10)]⟩
    let c := Cursor.encode ["7", "Ann"]
    startOf r.cursor = none ∧ (∃ s, users.query r p = .ok s w) ∧
      Cursor.after users.selectors r.sort row = .ok c ∧
      (∃ s, users.query { r with cursor := some c } p = .ok s (w.append [.text "7", .text "Ann"])) ∧
      ∃ predicate, users.predicate r.filter p = .ok predicate w ∧
        users.fragment { r with cursor := some c } p =
          .ok (Text.trim (users.laterPage predicate "(points,u.name)<($3,$4)" "points DESC,u.name"))
            (w.append [.text "7", .text "Ann"]) := by
  intro r row p w c
  have hs : users.StockOnly := fun _ hm => nomatch hm
  have hv : users.requestValues r = .ok [.number (.int 10)] := by decide +kernel
  have h := query_computes hs r p
  rw [hv] at h
  have hc : Cursor.after users.selectors r.sort row = .ok c := rfl
  obtain ⟨s, predicate, values, hp, -, hr, hq, hf⟩ := later_page_succeeds rfl h hc
  have hl : users.sortList r.sort = "points DESC,u.name" := by decide +kernel
  obtain ⟨k, ks, hk, hf⟩ := hf (by rw [hl]; decide)
  cases hk
  have hseek : users.rowComparison (seekSymbol .desc) r.sort 2 = "(points,u.name)<($3,$4)" := by
    decide +kernel
  rw [hl, show (p.append [.number (.int 10)]).size = 2 from rfl, hseek] at hf
  obtain rfl : values = ["7", "Ann"] := by
    rcases hr with _ | ⟨ha, _ | ⟨hb, ⟨⟩⟩⟩
    rw [← Option.some.inj ha, ← Option.some.inj hb]
    decide
  exact ⟨rfl, ⟨_, h⟩, hc, ⟨s, hq⟩, predicate, hp, hf⟩

end Config
end Listing
