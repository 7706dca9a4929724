import Listing.Cursor
import Mathlib.Data.List.Forall2
import Mathlib.Tactic.Lemma

/-! Which texts of a row go into its cursor. Every kind of row has cells, each with a name and a text, and a key takes
its text from the cell that its selector names, or else from the one with the name of its field. -/
namespace Listing

/-! ### Steps that may fail, one for each element -/

section MapM
variable {α β ε : Type} {f : α → Except ε β} {xs : List α} {ys : List β} {e : ε}

lemma mapM_eq_ok_iff : xs.mapM f = .ok ys ↔ List.Forall₂ (fun x y => f x = .ok y) xs ys := by
  induction xs generalizing ys with
  | nil => cases ys <;> simp [pure, Except.pure]
  | cons x xs ih =>
    rw [List.mapM_cons, List.forall₂_cons_left_iff]
    cases hx : f x with
    | error e => simp [bind, Except.bind]
    | ok y =>
      cases hxs : xs.mapM f with
      | error e => simp [bind, Except.bind, ← ih, hxs]
      | ok zs => simp [bind, Except.bind, pure, Except.pure, ← ih, hxs, eq_comm]

lemma mapM_congr {g : α → Except ε β} (h : ∀ x ∈ xs, f x = g x) : xs.mapM f = xs.mapM g := by
  induction xs with
  | nil => rfl
  | cons x xs ih => rw [List.mapM_cons, List.mapM_cons, h x (.head _), ih fun y hy => h y (.tail _ hy)]

/-- The first element that fails tells the error. -/
lemma mapM_eq_error_iff : xs.mapM f = .error e ↔
    ∃ before x after, xs = before ++ x :: after ∧ (∀ b ∈ before, ∃ y, f b = .ok y) ∧ f x = .error e := by
  induction xs with
  | nil => simp [pure, Except.pure]
  | cons x xs ih =>
    rw [List.mapM_cons]
    constructor
    · intro h
      cases hx : f x with
      | error e' =>
        rw [hx] at h
        cases h
        exact ⟨[], x, xs, rfl, List.forall_mem_nil _, hx⟩
      | ok y =>
        have hxs : xs.mapM f = .error e := by
          cases hxs : xs.mapM f with
          | error e' =>
            rw [hx, hxs] at h
            exact congrArg _ (Except.error.inj h)
          | ok ys =>
            rw [hx, hxs] at h
            nomatch h
        obtain ⟨before, x', after, rfl, hb, he⟩ := ih.mp hxs
        exact ⟨x :: before, x', after, rfl, List.forall_mem_cons.mpr ⟨⟨y, hx⟩, hb⟩, he⟩
    · rintro ⟨before, x', after, hs, hb, he⟩
      cases before with
      | nil =>
        cases hs
        rw [he]
        rfl
      | cons b before =>
        cases hs
        obtain ⟨⟨y, hx⟩, hb⟩ := List.forall_mem_cons.mp hb
        rw [hx, ih.mpr ⟨before, x', after, rfl, hb, he⟩]
        rfl

end MapM

lemma exists_forall₂_iff {α β : Type} {R : α → β → Prop} {xs : List α} :
    (∃ ys, List.Forall₂ R xs ys) ↔ ∀ x ∈ xs, ∃ y, R x y := by
  induction xs with
  | nil => simp
  | cons x xs ih =>
    rw [List.forall_mem_cons, ← ih]
    constructor
    · rintro ⟨ys, h⟩
      cases h with
      | cons h hs => exact ⟨⟨_, h⟩, _, hs⟩
    · rintro ⟨⟨y, h⟩, ys, hs⟩
      exact ⟨y :: ys, .cons h hs⟩

/-! ### Cells -/

namespace Row
variable {row : Row} {name s : String} {j : Json}

/-- A string is its own text in a row; any other value has that of its JSON. -/
inductive CellText : Json → String → Prop
  | string (s : String) : CellText (.string s) s
  | json {j : Json} (h : ∀ s, j ≠ .string s) : CellText j j.text

/-- The row has a cell of this name with this text. A value has cells only if it is an object. -/
inductive Cell : Row → String → String → Prop
  | member {ms : List (String × Json)} {name s : String} {j : Json} (h : ms.lookup name = some j)
      (hs : CellText j s) : Cell (value (.object ms)) name s
  | column {d : Dictionary Json} {name s : String} {j : Json} (h : d.get? name = some j) (hs : CellText j s) :
      Cell (columns d) name s
  | text {d : Dictionary String} {name s : String} (h : d.get? name = some s) : Cell (texts d) name s

/-- A column that a row has. -/
def Has (row : Row) (name : String) : Prop := ∃ s, row.Cell name s

lemma columnText_eq_iff : columnText j = s ↔ CellText j s := by
  constructor
  · rintro rfl
    cases j with
    | string s => exact .string s
    | _ => exact .json nofun
  · rintro (s | h)
    · rfl
    · unfold columnText
      split
      · exact absurd rfl (h _)
      · rfl

lemma text?_eq_some_iff : row.text? name = some s ↔ row.Cell name s := by
  constructor
  · intro h
    unfold text? at h
    split at h
    · obtain ⟨j, hj, ht⟩ := Option.map_eq_some_iff.mp h
      exact .member hj (columnText_eq_iff.mp ht)
    · nomatch h
    · obtain ⟨j, hj, ht⟩ := Option.map_eq_some_iff.mp h
      exact .column hj (columnText_eq_iff.mp ht)
    · exact .text h
  · rintro (⟨h, hs⟩ | ⟨h, hs⟩ | h)
    · rw [text?, h, ← columnText_eq_iff.mpr hs, Option.map_some]
    · rw [text?, h, ← columnText_eq_iff.mpr hs, Option.map_some]
    · rw [text?, h]

/-- The two ways to ask for a column agree. -/
lemma has_eq_isSome (row : Row) (name : String) : row.has name = (row.text? name).isSome := by
  cases row with
  | value j =>
    cases j with
    | object ms => exact Option.isSome_map.symm
    | _ => rfl
  | columns d => exact Option.isSome_map.symm
  | texts d => rfl

lemma has_iff : row.has name = true ↔ row.Has name := by
  rw [has_eq_isSome, Option.isSome_iff_exists]
  exact exists_congr fun _ => text?_eq_some_iff

end Row

/-! ### Texts of keys -/

namespace Cursor
variable {ss : Selectors} {row : Row} {field name s : String} {keys : List SortKey} {values : List String} {e : Error}

/-- The column that the selector of a field names: the row name of a record, and the SQL expression of a bare one. -/
inductive Candidate (ss : Selectors) (field : String) : String → Prop
  | rowName {c : Column} {name : String} (h : ss.get? field = some (.record c)) (hn : c.rowName = some name) :
      Candidate ss field name
  | sql {sql : String} (h : ss.get? field = some (.bare sql)) : Candidate ss field sql

/-- The text of a field: that of its candidate where the row has it, and otherwise that of the field's own column. -/
inductive TextOf (ss : Selectors) (row : Row) (field : String) : String → Prop
  | candidate {name s : String} (hc : Candidate ss field name) (ht : row.Cell name s) :
      TextOf ss row field s
  | own {s : String} (hc : ∀ name, Candidate ss field name → ¬ row.Has name) (ht : row.Cell field s) :
      TextOf ss row field s

/-- The row has a column for a field. -/
def Shows (ss : Selectors) (row : Row) (field : String) : Prop :=
  (∃ name, Candidate ss field name ∧ row.Has name) ∨ row.Has field

lemma candidate_iff : Candidate ss field name ↔ (ss.get? field).bind Selector.rowCandidate? = some name := by
  constructor
  · rintro (⟨h, hn⟩ | ⟨h⟩)
    · rw [h]
      exact hn
    · rw [h]
      rfl
  · intro h
    obtain ⟨sel, hs, hn⟩ := Option.bind_eq_some_iff.mp h
    cases sel with
    | bare sql =>
      cases hn
      exact .sql hs
    | record c => exact .rowName hs hn

/-- The column is the candidate if the row has it, and otherwise the field's own. -/
lemma columnOf_cases (ss : Selectors) (row : Row) (field : String) :
    (Candidate ss field (ss.columnOf row field) ∧ row.Has (ss.columnOf row field)) ∨
      ((∀ name, Candidate ss field name → ¬ row.Has name) ∧ ss.columnOf row field = field) := by
  unfold Selectors.columnOf
  split
  · rename_i name hc
    split
    · rename_i hr
      exact .inl ⟨candidate_iff.mpr hc, Row.has_iff.mp hr⟩
    · rename_i hr
      refine .inr ⟨fun name' hc' => ?_, rfl⟩
      cases hc.symm.trans (candidate_iff.mp hc')
      rwa [← Row.has_iff]
  · rename_i hc
    refine .inr ⟨fun name hc' => ?_, rfl⟩
    nomatch hc.symm.trans (candidate_iff.mp hc')

lemma text?_columnOf_iff : row.text? (ss.columnOf row field) = some s ↔ TextOf ss row field s := by
  rw [Row.text?_eq_some_iff]
  constructor
  · intro h
    rcases columnOf_cases ss row field with ⟨hc, -⟩ | ⟨hc, hf⟩
    · exact .candidate hc h
    · rw [hf] at h
      exact .own hc h
  · rintro (⟨hc, ht⟩ | ⟨hc, ht⟩)
    · rcases columnOf_cases ss row field with ⟨hc', -⟩ | ⟨hn, -⟩
      · cases (candidate_iff.mp hc).symm.trans (candidate_iff.mp hc')
        exact ht
      · exact absurd ⟨_, ht⟩ (hn _ hc)
    · rcases columnOf_cases ss row field with ⟨hc', hr⟩ | ⟨-, hf⟩
      · exact absurd hr (hc _ hc')
      · rwa [hf]

lemma shows_iff : Shows ss row field ↔ ∃ s, TextOf ss row field s := by
  constructor
  · intro h
    rcases columnOf_cases ss row field with ⟨hc, s, hs⟩ | ⟨hn, -⟩
    · exact ⟨s, .candidate hc hs⟩
    · rcases h with ⟨name, hc, hr⟩ | ⟨s, hs⟩
      · exact absurd hr (hn name hc)
      · exact ⟨s, .own hn hs⟩
  · rintro ⟨s, ⟨hc, ht⟩ | ⟨-, ht⟩⟩
    · exact .inl ⟨_, hc, s, ht⟩
    · exact .inr ⟨s, ht⟩

/-- A column that is not there is the field's own: the candidate is chosen only where the row has it. -/
lemma columnOf_eq_of_text?_eq_none (h : row.text? (ss.columnOf row field) = none) : ss.columnOf row field = field := by
  rcases columnOf_cases ss row field with ⟨-, hr⟩ | ⟨-, hf⟩
  · rw [← Row.has_iff, Row.has_eq_isSome, h] at hr
    nomatch hr
  · exact hf

/-- The text of one key. -/
def valueOf (ss : Selectors) (row : Row) (k : SortKey) : Except Error String :=
  match row.text? (ss.columnOf row k.field) with
  | some s => .ok s
  | none => .error (.missingRowProperty k.field)

lemma valueOf_eq_ok_iff {k : SortKey} : valueOf ss row k = .ok s ↔ row.text? (ss.columnOf row k.field) = some s := by
  unfold valueOf
  split
  · rename_i h
    rw [h, Except.ok.injEq, Option.some.injEq]
  · rename_i h
    simp [h]

lemma valueOf_eq_error_iff {k : SortKey} :
    valueOf ss row k = .error e ↔ ¬ Shows ss row k.field ∧ e = .missingRowProperty k.field := by
  rw [shows_iff]
  unfold valueOf
  split
  · rename_i s h
    simpa using fun hn => absurd (text?_columnOf_iff.mp h) (hn s)
  · rename_i h
    have hn : ¬ ∃ s, TextOf ss row k.field s := fun ⟨s, hs⟩ => by
      rw [text?_columnOf_iff.mpr hs] at h
      nomatch h
    simp [hn, eq_comm]

lemma valuesOf_eq_mapM (ss : Selectors) (keys : List SortKey) (row : Row) :
    valuesOf ss keys row = keys.mapM (valueOf ss row) := by
  unfold valuesOf
  congr 1
  funext k
  unfold valueOf
  split
  · rename_i h
    simp only [h]
  · rename_i h
    have hf := columnOf_eq_of_text?_eq_none h
    rw [hf] at h
    simp only [hf, h]

lemma valuesOf_congr {ss' : Selectors} (h : ∀ k ∈ keys, ss.columnOf row k.field = ss'.columnOf row k.field) :
    valuesOf ss keys row = valuesOf ss' keys row := by
  rw [valuesOf_eq_mapM, valuesOf_eq_mapM]
  exact mapM_congr fun k hk => by simp only [valueOf, h k hk]

lemma valuesOf_eq_ok_iff : valuesOf ss keys row = .ok values ↔
    List.Forall₂ (fun k s => row.text? (ss.columnOf row k.field) = some s) keys values := by
  rw [valuesOf_eq_mapM, mapM_eq_ok_iff]
  simp only [valueOf_eq_ok_iff]

/-- The texts of a row are one for each key, in order. They are there if the row has a column for each key; and
otherwise the first key without one is told by its field. -/
theorem valuesOf_cells (ss : Selectors) (keys : List SortKey) (row : Row) :
    (∀ values, valuesOf ss keys row = .ok values ↔
      List.Forall₂ (fun k s => TextOf ss row k.field s) keys values) ∧
    ((∃ values, valuesOf ss keys row = .ok values) ↔ ∀ k ∈ keys, Shows ss row k.field) ∧
    ∀ e, valuesOf ss keys row = .error e ↔ ∃ before k after, keys = before ++ k :: after ∧
      (∀ b ∈ before, Shows ss row b.field) ∧ ¬ Shows ss row k.field ∧ e = .missingRowProperty k.field := by
  have hv (k : SortKey) : (∃ s, valueOf ss row k = .ok s) ↔ Shows ss row k.field := by
    simp only [valueOf_eq_ok_iff, text?_columnOf_iff, shows_iff]
  have ho (values : List String) : valuesOf ss keys row = .ok values ↔
      List.Forall₂ (fun k s => TextOf ss row k.field s) keys values := by
    simp only [valuesOf_eq_ok_iff, text?_columnOf_iff]
  refine ⟨ho, ?_, fun e => ?_⟩
  · simp only [ho, shows_iff, exists_forall₂_iff]
  · rw [valuesOf_eq_mapM, mapM_eq_error_iff]
    simp only [hv, valueOf_eq_error_iff]

/-- A row with texts and with values that are none. Of the keys, the first has a row name, the second an expression that
the row has beside the field, the third one that it has not, and the fourth no selector; the column of the fifth is
in no row. Other kinds of rows have cells in the same way, and a value that is no object has none. -/
theorem valuesOf_cells_authors :
    let ss : Selectors := .ofList [("name", .record { sql := some "a.name", rowName := some "last_name" }),
      ("id", .bare "a.id"), ("born", .bare "a.born"), ("died", .record { rowName := some "a_died" })]
    let row : Row := .value (.object [("last_name", .string "O\"Hara"), ("name", .string "John"), ("a.id", .integer 7),
      ("id", .integer 8), ("born", .null), ("tags", .array [.string "x", .bool true])])
    let keys : List SortKey := [⟨"name", .desc⟩, ⟨"id", .asc⟩, ⟨"born", .asc⟩, ⟨"tags", .desc⟩]
    valuesOf ss keys row = .ok ["O\"Hara", "7", "null", "[\"x\",true]"] ∧
      valuesOf ss [⟨"id", .asc⟩, ⟨"died", .asc⟩, ⟨"year", .asc⟩] row = .error (.missingRowProperty "died") ∧
      valuesOf ss [⟨"name", .asc⟩] (.texts (.ofList [("last_name", "Kong"), ("name", "King")])) = .ok ["Kong"] ∧
      valuesOf ss [⟨"died", .asc⟩] (.columns (.ofList [("died", .bool false)])) = .ok ["false"] ∧
      valuesOf ss [⟨"id", .asc⟩] (.value (.string "id")) = .error (.missingRowProperty "id") := by
  intro ss row keys
  have json {j : Json} {s : String} (hj : ∀ s, j ≠ .string s) (h : j.text = s) : Row.CellText j s := h ▸ .json hj
  have only {field sql name : String} (h : (ss.get? field).bind Selector.rowCandidate? = some sql)
      (hc : Candidate ss field name) : name = sql := Option.some.inj ((candidate_iff.mp hc).symm.trans h)
  have hid : Candidate ss "id" "a.id" := .sql rfl
  have seven : row.Cell "a.id" "7" := .member rfl (json nofun (by decide +kernel))
  refine ⟨?values, ?missing, ?texts, ?columns, ?scalar⟩
  case values =>
    refine ((valuesOf_cells ss keys row).1 _).mpr (.cons ?_ (.cons (.candidate hid seven) (.cons ?_ (.cons ?_ .nil))))
    · exact .candidate (.rowName rfl rfl) (.member rfl (.string _))
    · refine .own (fun name hc => ?_) (.member rfl (json nofun (by decide +kernel)))
      rw [only rfl hc, ← Row.has_iff]
      decide
    · refine .own (fun name hc => ?_) (.member rfl (json nofun (by decide +kernel)))
      nomatch candidate_iff.mp hc
  case missing =>
    refine ((valuesOf_cells ss _ row).2.2 _).mpr ⟨[⟨"id", .asc⟩], _, _, rfl, ?_, ?_, rfl⟩
    · exact List.forall_mem_singleton.mpr (.inl ⟨_, hid, _, seven⟩)
    · rintro (⟨name, hc, hr⟩ | hr)
      · rw [only rfl hc, ← Row.has_iff] at hr
        exact absurd hr (by decide)
      · exact absurd (Row.has_iff.mpr hr) (by decide)
  case texts =>
    exact ((valuesOf_cells ss _ _).1 _).mpr (.cons (.candidate (.rowName rfl rfl) (.text rfl)) .nil)
  case columns =>
    refine ((valuesOf_cells ss _ _).1 _).mpr (.cons (.own (fun name hc => ?_) (.column rfl (json nofun rfl))) .nil)
    rw [only rfl hc, ← Row.has_iff]
    decide
  case scalar =>
    refine ((valuesOf_cells ss _ _).2.2 _).mpr ⟨[], _, _, rfl, List.forall_mem_nil _, ?_, rfl⟩
    rintro (⟨name, -, hr⟩ | hr)
    · nomatch hr
    · nomatch hr

end Cursor
end Listing
