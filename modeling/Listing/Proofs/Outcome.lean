import Listing.Proofs.Paging

/-! What an order comes to. The fields of the sort keys are looked at first, then the cursor, and only when
both will do does the list of values grow. There are five outcomes, told apart by conditions on the request
alone, and each request has the one whose conditions it meets. -/
namespace Listing

/-- No cursor, or one of white space alone. -/
def Cursor.IsBlank (cursor : Option String) : Prop :=
  ∀ s, cursor = some s → ∀ c ∈ s.toList, Text.isBlank c = true

namespace Config

/-- The field is marked as not sortable, or it is not configured and that matters. -/
def Unsortable (cfg : Config) (field : String) : Prop :=
  (∃ c, cfg.selectors.get? field = some (.record c) ∧ c.sortable = some false) ∨
    (cfg.selectors.get? field = none ∧ cfg.lax = false)

/-- What stands for a field in SQL: the expression of its selector, or its own name where there is none. -/
def expression (cfg : Config) (field : String) : String :=
  match cfg.selectors.get? field with
  | some (.bare sql) => sql
  | some (.record c) => c.sql.getD field
  | none => field

/-- The columns of the keys in their order, with a word behind those that go down and no other. -/
def orderText (cfg : Config) (keys : List SortKey) : String :=
  let descending := if cfg.format.lowerCase then " desc" else " DESC"
  String.intercalate "," (keys.map fun k =>
    cfg.expression k.field ++ if k.direction = .desc then descending else "")

/-- Rows behind the cursor are greater than its values where the first key goes up, and smaller where it goes
down. -/
def seekSign (cfg : Config) : Direction → String
  | .asc => if cfg.format.detached then " > " else ">"
  | .desc => if cfg.format.detached then " < " else "<"

/-- The columns of the keys compared with the placeholders behind `n` values, in the direction of the first
key; nothing where there is no key. -/
def rowSeek (cfg : Config) (n : Nat) : List SortKey → String
  | [] => ""
  | k :: ks =>
    let columns := (k :: ks).map fun k => cfg.expression k.field
    let places := (List.range' (n + 1) (k :: ks).length).map fun i => "$" ++ toString i
    "(" ++ String.intercalate "," columns ++ ")" ++ cfg.seekSign k.direction
      ++ "(" ++ String.intercalate "," places ++ ")"

/-- The outcomes of an order on a list of values, in the order in which they are come to. -/
inductive Ordered (cfg : Config) (keys : List SortKey) (cursor : Option String) (p : Params) :
    EStateM.Result Error Params OrderBy → Prop
  | unsortable {before after : List SortKey} {k : SortKey} (hk : keys = before ++ k :: after)
      (hb : ∀ b ∈ before, ¬ cfg.Unsortable b.field) (h : cfg.Unsortable k.field) :
      Ordered cfg keys cursor p (.error (.invalidSort k.field) p)
  | firstPage (hk : ∀ k ∈ keys, ¬ cfg.Unsortable k.field) (hc : Cursor.IsBlank cursor) :
      Ordered cfg keys cursor p (.ok ⟨cfg.orderText keys, ""⟩ p)
  | unreadable {s message : String} (hk : ∀ k ∈ keys, ¬ cfg.Unsortable k.field)
      (hs : cursor = some s) (hc : ¬ Cursor.IsBlank cursor)
      (hd : Cursor.decode s = .error (.invalidCursor message)) :
      Ordered cfg keys cursor p (.error (.invalidCursor message) p)
  | miscounted {s : String} {values : List String} (hk : ∀ k ∈ keys, ¬ cfg.Unsortable k.field)
      (hs : cursor = some s) (hc : ¬ Cursor.IsBlank cursor) (hd : Cursor.decode s = .ok values)
      (hl : values.length ≠ keys.length) :
      Ordered cfg keys cursor p (.error (.invalidCursor
        ("expected " ++ toString keys.length ++ " values, found " ++ toString values.length)) p)
  | laterPage {s : String} {values : List String} (hk : ∀ k ∈ keys, ¬ cfg.Unsortable k.field)
      (hs : cursor = some s) (hc : ¬ Cursor.IsBlank cursor) (hd : Cursor.decode s = .ok values)
      (hl : values.length = keys.length) :
      Ordered cfg keys cursor p
        (.ok ⟨cfg.orderText keys, cfg.rowSeek p.size keys⟩ (p.append (values.map .text)))

end Config

/-! ### Conditions -/

lemma Cursor.startOf_eq_none_iff {cursor : Option String} :
    Config.startOf cursor = none ↔ IsBlank cursor := by
  cases cursor with
  | none => simp [Config.startOf, IsBlank]
  | some s => simp [Config.startOf, IsBlank, Option.filter_eq_none_iff, Text.trimChars_eq_nil_iff]

lemma Cursor.startOf_of_not_isBlank {s : String} (h : ¬ IsBlank (some s)) :
    Config.startOf (some s) = some s := by
  obtain ⟨t, ht⟩ := Option.ne_none_iff_exists'.mp (startOf_eq_none_iff.not.mpr h)
  rw [ht, (Option.filter_eq_some_iff.mp ht).1]

lemma Cursor.not_isBlank_of_decode {s : String} {values : List String} (h : decode s = .ok values) :
    ¬ IsBlank (some s) :=
  fun hb => trimChars_ne_nil_of_decode h (Text.trimChars_eq_nil_iff.mpr (hb s rfl))

namespace Config
variable {cfg : Config} {keys : List SortKey} {cursor : Option String} {p : Params}

lemma isSortable_eq_false_iff {field : String} : cfg.isSortable field = false ↔ cfg.Unsortable field := by
  unfold isSortable Unsortable
  cases cfg.selectors.get? field with
  | none => simp
  | some s => cases s <;> simp [Selector.sortable?, Selector.toColumn]

lemma find?_unsortable_eq_none_iff :
    keys.find? (!cfg.isSortable ·.field) = none ↔ ∀ k ∈ keys, ¬ cfg.Unsortable k.field := by
  simp [← isSortable_eq_false_iff]

lemma find?_unsortable_eq_some_iff {k : SortKey} :
    keys.find? (!cfg.isSortable ·.field) = some k ↔ cfg.Unsortable k.field ∧
      ∃ before after, keys = before ++ k :: after ∧ ∀ b ∈ before, ¬ cfg.Unsortable b.field := by
  simp [List.find?_eq_some_iff_append, ← isSortable_eq_false_iff]

lemma expression_eq_resolve (cfg : Config) (field : String) : cfg.expression field = cfg.resolve field := by
  unfold expression resolve Selectors.resolve
  cases cfg.selectors.get? field with
  | none => rfl
  | some s => cases s <;> rfl

lemma sortList_eq_orderText (cfg : Config) (keys : List SortKey) : cfg.sortList keys = cfg.orderText keys := by
  unfold sortList orderText
  congr 1
  refine List.map_congr_left fun k _ => ?_
  unfold sortText Format.keyword
  rw [expression_eq_resolve]
  cases k.direction with
  | asc => simp
  | desc => cases cfg.format.lowerCase <;> simp [Keyword.upper, Keyword.lower, String.append_assoc]

lemma symbol_seekSymbol (cfg : Config) (d : Direction) : cfg.format.symbol (seekSymbol d) = cfg.seekSign d := by
  unfold Format.symbol seekSign
  cases d <;> cases cfg.format.detached <;> rfl

lemma seekAfter_eq_rowSeek (cfg : Config) (n : Nat) (keys : List SortKey) :
    cfg.seekAfter n keys = cfg.rowSeek n keys := by
  cases keys with
  | nil => rfl
  | cons k ks => simp only [seekAfter_cons, rowComparison, symbol_seekSymbol, rowSeek, expression_eq_resolve]

/-! ### Outcomes -/

/-- If its conditions are met, an outcome is what a run gives. -/
lemma Ordered.eq {r : EStateM.Result Error Params OrderBy} (h : Ordered cfg keys cursor p r) :
    cfg.orderBy keys cursor p = r := by
  rw [orderBy_computes cfg keys cursor p, orderValues]
  simp only [orderAfter, sortList_eq_orderText]
  cases h with
  | unsortable hk hb h => rw [find?_unsortable_eq_some_iff.mpr ⟨h, _, _, hk, hb⟩]
  | firstPage hk hc =>
    rw [find?_unsortable_eq_none_iff.mpr hk, Cursor.startOf_eq_none_iff.mpr hc]
    simp
  | unreadable hk hs hc hd =>
    subst hs
    rw [find?_unsortable_eq_none_iff.mpr hk, Cursor.startOf_of_not_isBlank hc]
    simp [cursorValues, hd, Except.map]
  | miscounted hk hs hc hd hl =>
    subst hs
    rw [find?_unsortable_eq_none_iff.mpr hk, Cursor.startOf_of_not_isBlank hc]
    simp [cursorValues, hd, hl, Except.map]
  | laterPage hk hs hc hd hl =>
    subst hs
    rw [find?_unsortable_eq_none_iff.mpr hk, Cursor.startOf_of_not_isBlank hc, seekAfter_eq_rowSeek]
    simp [cursorValues, hd, hl, Except.map]

/-- The conditions of some outcome are met. -/
lemma exists_ordered (cfg : Config) (keys : List SortKey) (cursor : Option String) (p : Params) :
    ∃ r, Ordered cfg keys cursor p r := by
  cases hf : keys.find? (!cfg.isSortable ·.field) with
  | some k =>
    obtain ⟨h, before, after, hk, hb⟩ := find?_unsortable_eq_some_iff.mp hf
    exact ⟨_, .unsortable hk hb h⟩
  | none =>
    have hk := find?_unsortable_eq_none_iff.mp hf
    by_cases hc : Cursor.IsBlank cursor
    · exact ⟨_, .firstPage hk hc⟩
    obtain ⟨s, hs⟩ : ∃ s, cursor = some s := by
      cases cursor with
      | none => exact absurd (fun _ h => nomatch h) hc
      | some s => exact ⟨s, rfl⟩
    cases hd : Cursor.decode s with
    | error e =>
      obtain ⟨message, rfl⟩ := Cursor.exists_of_decode_eq_error hd
      exact ⟨_, .unreadable hk hs hc hd⟩
    | ok values =>
      by_cases hl : values.length = keys.length
      · exact ⟨_, .laterPage hk hs hc hd hl⟩
      · exact ⟨_, .miscounted hk hs hc hd hl⟩

/-- What a run gives is an outcome whose conditions are met. -/
lemma ordered_orderBy (cfg : Config) (keys : List SortKey) (cursor : Option String) (p : Params) :
    Ordered cfg keys cursor p (cfg.orderBy keys cursor p) := by
  obtain ⟨r, hr⟩ := exists_ordered cfg keys cursor p
  rw [hr.eq]
  exact hr

/-- An order comes to an outcome exactly if the request meets its conditions. So no two of them are met at
once, and those of one always are. -/
theorem orderBy_eq_iff_ordered (cfg : Config) (keys : List SortKey) (cursor : Option String) (p : Params)
    (r : EStateM.Result Error Params OrderBy) :
    cfg.orderBy keys cursor p = r ↔ Ordered cfg keys cursor p r := by
  constructor
  · rintro rfl
    exact ordered_orderBy cfg keys cursor p
  · exact Ordered.eq

/-- Columns named by an expression alone, by a record and by their field; one of them is marked as not sortable. -/
def authors : Config where
  selectors := .ofList [("name", .record { sql := some "a.last_name" }), ("id", .bare "a.id"), ("born", .record {}),
    ("notes", .record { sql := some "a.notes", sortable := some false })]

/-- Each outcome: a second field that is at fault; a blank cursor; one that is none; one with too few values; and one
that has them all, with directions mixed. In lax mode a field may be its own column. -/
theorem orderBy_eq_iff_ordered_authors :
    let lax : Config := { authors with lax := true, format := { lowerCase := true, detached := true } }
    let p : Params := ⟨[.bool true]⟩
    let down : List SortKey := [⟨"name", .desc⟩, ⟨"id", .asc⟩, ⟨"born", .desc⟩]
    let up : List SortKey := [⟨"year", .asc⟩, ⟨"name", .desc⟩]
    authors.orderBy [⟨"id", .asc⟩, ⟨"notes", .asc⟩, ⟨"year", .asc⟩] (some "?") p = .error (.invalidSort "notes") p ∧
      authors.orderBy [⟨"id", .asc⟩, ⟨"year", .asc⟩, ⟨"notes", .asc⟩] none p = .error (.invalidSort "year") p ∧
      authors.orderBy down (some " \t") p = .ok ⟨"a.last_name DESC,a.id,born DESC", ""⟩ p ∧
      authors.orderBy down (some "?") p = .error (.invalidCursor "Invalid symbol 63, offset 0.") p ∧
      authors.orderBy down (some "WyJLb25nIiwiNyJd") p =
        .error (.invalidCursor "expected 3 values, found 2") p ∧
      authors.orderBy down (some "WyJLb25nIiwiNyIsIjkiXQ") p =
        .ok ⟨"a.last_name DESC,a.id,born DESC", "(a.last_name,a.id,born)<($2,$3,$4)"⟩
          ⟨[.bool true, .text "Kong", .text "7", .text "9"]⟩ ∧
      lax.orderBy up (some "WyJLb25nIiwiNyJd") p =
        .ok ⟨"year,a.last_name desc", "(year,a.last_name) > ($2,$3)"⟩ ⟨[.bool true, .text "Kong", .text "7"]⟩ := by
  intro lax p down up
  have hd : ∀ k ∈ down, ¬ authors.Unsortable k.field := find?_unsortable_eq_none_iff.mp rfl
  have hu : ∀ k ∈ up, ¬ lax.Unsortable k.field := find?_unsortable_eq_none_iff.mp rfl
  have hid : ∀ b ∈ [SortKey.mk "id" .asc], ¬ authors.Unsortable b.field := find?_unsortable_eq_none_iff.mp rfl
  have hb : Cursor.IsBlank (some " \t") := Cursor.startOf_eq_none_iff.mp (by decide)
  have two : Cursor.decode "WyJLb25nIiwiNyJd" = .ok ["Kong", "7"] := by decide +kernel
  have three : Cursor.decode "WyJLb25nIiwiNyIsIjkiXQ" = .ok ["Kong", "7", "9"] := by decide +kernel
  have bad : Cursor.decode "?" = .error (.invalidCursor "Invalid symbol 63, offset 0.") := by decide +kernel
  have hq : ¬ Cursor.IsBlank (some "?") := fun h => absurd (Cursor.startOf_eq_none_iff.mpr h) (by decide)
  have hlist : authors.orderText down = "a.last_name DESC,a.id,born DESC" := by decide +kernel
  have hseek : authors.rowSeek p.size down = "(a.last_name,a.id,born)<($2,$3,$4)" := by decide +kernel
  have hlist' : lax.orderText up = "year,a.last_name desc" := by decide +kernel
  have hseek' : lax.rowSeek p.size up = "(year,a.last_name) > ($2,$3)" := by decide +kernel
  refine ⟨?notes, ?year, ?blank, ?unreadable, ?miscounted, ?later, ?lower⟩
  case notes =>
    exact (orderBy_eq_iff_ordered ..).mpr (.unsortable rfl hid (isSortable_eq_false_iff.mp rfl))
  case year =>
    exact (orderBy_eq_iff_ordered ..).mpr (.unsortable rfl hid (isSortable_eq_false_iff.mp rfl))
  case blank =>
    rw [← hlist]
    exact (orderBy_eq_iff_ordered ..).mpr (.firstPage hd hb)
  case unreadable => exact (orderBy_eq_iff_ordered ..).mpr (.unreadable hd rfl hq bad)
  case miscounted =>
    have hm : "expected " ++ toString down.length ++ " values, found " ++ toString ["Kong", "7"].length =
        "expected 3 values, found 2" := by decide +kernel
    rw [← hm]
    exact (orderBy_eq_iff_ordered ..).mpr (.miscounted hd rfl (Cursor.not_isBlank_of_decode two) two (by decide))
  case later =>
    rw [← hlist, ← hseek]
    exact (orderBy_eq_iff_ordered ..).mpr (.laterPage hd rfl (Cursor.not_isBlank_of_decode three) three rfl)
  case lower =>
    rw [← hlist', ← hseek']
    exact (orderBy_eq_iff_ordered ..).mpr (.laterPage hu rfl (Cursor.not_isBlank_of_decode two) two rfl)

end Config
end Listing
