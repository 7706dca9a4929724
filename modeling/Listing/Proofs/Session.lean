import Listing.Proofs.Numbering
import Listing.Proofs.Paging
import Listing.Proofs.Rollback

/-! Sessions: any calls, one after another, on one list of values. A call that succeeds takes the numbers that
come next, one for each value that it binds; a call that fails takes none. So over a whole session no
placeholder is used twice, left out or left without a value. -/
namespace Listing
open Text

/-- A call that reads and extends the list of values. -/
inductive Call where
  | predicate (f : Option Filter)
  | order (keys : List SortKey) (cursor : Option String)
  | fragment (r : Request)
  | query (r : Request)

/-- What the cursor of a request holds; nothing if there is none. -/
def Request.CursorHolds (r : Request) (texts : List String) : Prop :=
  match Config.startOf r.cursor with
  | none => texts = []
  | some s => Cursor.decode s = .ok texts

/-- The values of a filter's comparisons in reading order. -/
def Request.operandValues (ss : Selectors) (r : Request) : List Value :=
  match r.filter with
  | none => []
  | some f => f.comparisons.map ss.bound

/-- The fields that a request names hold no dollar signs. -/
structure Request.DollarFree (r : Request) : Prop where
  filter : ∀ f, r.filter = some f → ∀ c ∈ f.comparisons, Plain c.selector
  sort : ∀ k ∈ r.sort, Plain k.field

namespace Call

/-- What a call asks; a call that takes no filter, or no order, asks none. -/
def request : Call → Request
  | predicate f => { filter := f }
  | order keys cursor => { sort := keys, cursor }
  | fragment r => r
  | query r => r

/-- The texts of a call in the order in which they are read. -/
def run (cfg : Config) : Call → Binding (List String)
  | predicate f => return [← cfg.predicate f]
  | order keys cursor => do
    let o ← cfg.orderBy keys cursor
    return [o.list, o.seek]
  | fragment r => return [← cfg.fragment r]
  | query r => return [← cfg.query r]

end Call

/-- The texts of all calls that succeed, and the list at the end. The list passes from call to call, also
from one that fails. -/
def Config.session (cfg : Config) : List Call → Params → List String × Params
  | [], p => ([], p)
  | c :: cs, p =>
    match c.run cfg p with
    | .ok texts q => (texts ++ (cfg.session cs q).1, (cfg.session cs q).2)
    | .error _ q => cfg.session cs q

namespace Config
variable {cfg : Config}

/-- The predicate of a request has the next numbers, one for each value that it binds. -/
lemma numbers_predicate (hp : cfg.plugins = ∅) (hd : cfg.DollarFree) {r : Request} (hr : r.DollarFree)
    {p q : Params} {s : String} (h : cfg.predicate r.filter p = .ok s q) :
    q = p.append (r.operandValues cfg.selectors) ∧
      numbers s = List.range' (p.size + 1) (r.operandValues cfg.selectors).length := by
  unfold Request.operandValues
  cases hf : r.filter with
  | none =>
    rw [hf] at h
    cases h
    exact ⟨(Params.append_nil p).symm, rfl⟩
  | some f =>
    rw [hf] at h
    obtain ⟨rfl, hq⟩ := Phrasing.compile_eq_render (builtIn_describes hp) f (of_predicate_eq_ok h).2
    have hn := numbers_render hd (accepted_of_predicate_eq_ok h) (hr.filter f hf) p.size
    rw [valuesOf_builtIn] at hq
    exact ⟨hq, by rw [hn, List.length_map]⟩

/-- The condition of a cursor has the next numbers, one for each text of the cursor. -/
lemma numbers_orderBy (hdf : cfg.DollarFree) {r : Request} (hr : r.DollarFree) {p q : Params} {o : OrderBy}
    (h : cfg.orderBy r.sort r.cursor p = .ok o q) :
    ∃ texts, r.CursorHolds texts ∧ q = p.append (texts.map .text) ∧ numbers o.list = [] ∧
      numbers o.seek = List.range' (p.size + 1) texts.length := by
  obtain ⟨vs, hvs, rfl, rfl⟩ := (orderBy_computes cfg r.sort r.cursor).of_eq_ok h
  have hl := numbers_sortList hdf hr.sort
  unfold orderValues at hvs
  cases hk : r.sort.find? (!cfg.isSortable ·.field) with
  | some k =>
    rw [hk] at hvs
    nomatch hvs
  | none =>
    rw [hk] at hvs
    simp only [Request.CursorHolds, orderAfter]
    cases hs : startOf r.cursor with
    | none =>
      rw [hs] at hvs
      cases hvs
      exact ⟨[], rfl, rfl, hl, rfl⟩
    | some s =>
      rw [hs] at hvs
      unfold cursorValues at hvs
      cases hd : Cursor.decode s with
      | error e => simp [hd, Except.map] at hvs
      | ok values =>
        by_cases hlen : values.length = r.sort.length
        · simp only [hd, hlen, if_true] at hvs
          cases hvs
          refine ⟨values, hd, rfl, hl, ?_⟩
          simpa [hlen] using numbers_seekAfter hdf hr.sort p.size
        · simp [hd, hlen, Except.map] at hvs

/-- A fragment has the numbers of its filter, and behind them those of its cursor. -/
lemma numbers_fragment (hp : cfg.plugins = ∅) (hd : cfg.DollarFree) {r : Request} (hr : r.DollarFree)
    {p q : Params} {s : String} (h : cfg.fragment r p = .ok s q) :
    ∃ texts, r.CursorHolds texts ∧
      q = p.append (r.operandValues cfg.selectors ++ texts.map .text) ∧
      numbers s =
        List.range' (p.size + 1) (r.operandValues cfg.selectors ++ texts.map Value.text).length := by
  obtain ⟨predicate, order, v, hpred, ho, rfl⟩ := of_fragment_eq_ok h
  obtain ⟨rfl, hn⟩ := numbers_predicate hp hd hr hpred
  obtain ⟨texts, hc, rfl, hlist, hseek⟩ := numbers_orderBy hd hr ho
  refine ⟨texts, hc, Params.append_append _ _ _, ?_⟩
  rw [numbers_combine, hn, hseek, hlist, List.append_nil, Params.size_append, Nat.add_right_comm,
    List.range'_append_1, List.length_append, List.length_map]

/-- One call: it binds the values of its filter and then the texts of its cursor, and what it returns has a
number for each, in this order. -/
theorem call_run (hp : cfg.plugins = ∅) (hd : cfg.DollarFree) {c : Call} (hc : c.request.DollarFree)
    {p q : Params} {texts : List String} (h : c.run cfg p = .ok texts q) :
    ∃ held, c.request.CursorHolds held ∧
      q = p.append (c.request.operandValues cfg.selectors ++ held.map .text) ∧
      texts.flatMap numbers =
        List.range' (p.size + 1) (c.request.operandValues cfg.selectors ++ held.map Value.text).length := by
  cases c with
  | predicate f =>
    obtain ⟨s, w, hr, hs⟩ := Binding.of_bind_eq_ok h
    cases hs
    obtain ⟨rfl, hn⟩ := numbers_predicate hp hd hc hr
    exact ⟨[], rfl, by simp, by simpa using hn⟩
  | order keys cursor =>
    obtain ⟨o, w, hr, hs⟩ := Binding.of_bind_eq_ok h
    cases hs
    obtain ⟨held, hh, rfl, hlist, hseek⟩ := numbers_orderBy hd hc hr
    refine ⟨held, hh, rfl, ?_⟩
    simp [hlist, hseek, Request.operandValues, Call.request]
  | fragment r =>
    obtain ⟨s, w, hr, hs⟩ := Binding.of_bind_eq_ok h
    cases hs
    obtain ⟨held, hh, rfl, hn⟩ := numbers_fragment hp hd hc hr
    exact ⟨held, hh, rfl, by simpa using hn⟩
  | query r =>
    obtain ⟨s, w, hr, hs⟩ := Binding.of_bind_eq_ok h
    cases hs
    obtain ⟨fragment, v, hr, hs⟩ := Binding.of_bind_eq_ok hr
    cases hs
    obtain ⟨held, hh, rfl, hn⟩ := numbers_fragment hp hd hc hr
    exact ⟨held, hh, rfl, by simpa [numbers_join hd] using hn⟩

lemma call_error (hp : cfg.plugins = ∅) {c : Call} {p q : Params} {e : Error}
    (h : c.run cfg p = .error e q) : q = p := by
  have ha : ∀ g ∈ cfg.plugins.plugins, g.OnlyAppends := by
    rw [hp]
    exact fun _ hm => nomatch hm
  cases c with
  | predicate f => exact ((atomic_predicate ha f).bind_pure _).error h
  | order keys cursor => exact ((atomic_orderBy cfg keys cursor).bind_pure _).error h
  | fragment r => exact ((atomic_fragment ha r).bind_pure _).error h
  | query r => exact (((atomic_fragment ha r).bind_pure cfg.join).bind_pure _).error h

/-- Over a session, the numbers in the texts are those of the values that the list grew by, each once and in
order; and in each call the values of the filter come before those of the cursor. -/
theorem session_numbers (hp : cfg.plugins = ∅) (hd : cfg.DollarFree) {calls : List Call}
    (hc : ∀ c ∈ calls, c.request.DollarFree) (p : Params) :
    (∃ bound, (cfg.session calls p).2 = p.append bound ∧
      (cfg.session calls p).1.flatMap numbers = List.range' (p.size + 1) bound.length) ∧
    ∀ c ∈ calls, ∀ (v w : Params) (texts : List String), c.run cfg v = .ok texts w →
      ∃ held, c.request.CursorHolds held ∧
        w = v.append (c.request.operandValues cfg.selectors ++ held.map .text) := by
  refine ⟨?_, fun c hm v w texts h => ?_⟩
  · induction calls generalizing p with
    | nil => exact ⟨[], (Params.append_nil p).symm, rfl⟩
    | cons c cs ih =>
      obtain ⟨hc, hcs⟩ := List.forall_mem_cons.mp hc
      unfold session
      cases hr : c.run cfg p with
      | error e q =>
        obtain rfl := call_error hp hr
        exact ih hcs q
      | ok texts q =>
        obtain ⟨held, -, rfl, hn⟩ := call_run hp hd hc hr
        obtain ⟨bound, hb, hbn⟩ := ih hcs _
        refine ⟨_, hb.trans (Params.append_append _ _ _), ?_⟩
        rw [List.flatMap_append, hn, hbn, Params.size_append, Nat.add_right_comm, List.range'_append_1,
          ← List.length_append]
  · obtain ⟨held, hh, hw, -⟩ := call_run hp hd (hc c hm) h
    exact ⟨held, hh, hw⟩

/-- A listing that takes fields without a selector. -/
def films : Config where
  base := "select * from films f"
  selectors := .ofList [("year", .record { sql := some "f.year", domain := .type .integer })]
  lax := true

/-- Of these calls, the second fails at its cursor, when the values of its filter are bound. The last one binds the
values of a filter and of a cursor. -/
theorem session_numbers_films :
    let recent : Filter := .and [.comparison ⟨"name", "==", ["Al*"]⟩, .not (.comparison ⟨"year", "<", ["2000"]⟩)]
    let calls : List Call := [.predicate (some recent), .query ⟨some recent, [⟨"year", .asc⟩], some "no cursor"⟩,
      .order [⟨"year", .desc⟩, ⟨"name", .asc⟩] (some "WyIyMDAzIiwiS2lsbCJd"),
      .query ⟨some (.comparison ⟨"name", "!=", ["$7"]⟩), [⟨"name", .asc⟩], none⟩,
      .fragment ⟨some (.comparison ⟨"year", "=in=", ["7", "8"]⟩), [⟨"year", .asc⟩], some "WyIxIl0"⟩]
    let p : Params := ⟨[.bool true]⟩
    let texts := ["(name ILIKE $2 AND NOT(f.year<$3))", "f.year DESC,name", "(f.year,name)<($4,$5)",
      "select * from films f WHERE name<>$6 ORDER BY name", "(f.year IN $7) AND (f.year)>($8) ORDER BY f.year"]
    let bound : List Value := [.text "Al%", .number (.int 2000), .text "2003", .text "Kill", .text "$7",
      .numbers [.int 7, .int 8], .text "1"]
    films.plugins = ∅ ∧ films.DollarFree ∧ (∀ c ∈ calls, c.request.DollarFree) ∧
      films.session calls p = (texts, p.append bound) ∧ texts.flatMap numbers = [2, 3, 4, 5, 6, 7, 8] := by
  intro recent calls p texts bound
  have hd : films.DollarFree := by
    refine ⟨by decide, by decide, fun field s sql hs hq => ?_⟩
    have hg : films.selectors.get? field = if field = "year" then
        some (.record { sql := some "f.year", domain := .type .integer }) else none :=
      lookup_cons_eq field _ []
    rw [hg] at hs
    split at hs
    · cases hs
      cases hq
      decide
    · nomatch hs
  have hc : ∀ c ∈ calls, c.request.DollarFree := by
    simp only [calls, List.forall_mem_cons, List.not_mem_nil, false_implies, implies_true, and_true]
    refine ⟨⟨?_, by decide⟩, ⟨?_, by decide⟩, ⟨nofun, by decide⟩, ⟨?_, by decide⟩, ⟨?_, by decide⟩⟩
    all_goals
      rintro f ⟨⟩
      decide
  have hs : films.session calls p = (texts, p.append bound) := by decide +kernel
  obtain ⟨added, ha, hn⟩ := (session_numbers rfl hd hc p).1
  rw [hs] at ha hn
  have hb : bound = added := List.append_cancel_left (congrArg Params.values ha)
  subst hb
  exact ⟨rfl, hd, hc, hs, hn⟩

end Config
end Listing
