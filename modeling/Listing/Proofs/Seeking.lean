import Listing.Proofs.Outcome
import Listing.Proofs.Sql.Rows

/-! Seeking and sorting agree. The condition of a cursor is one comparison of row values, and the list puts
rows in order by the same columns; what the condition lets through are the rows behind the one that the
cursor was taken from. With directions mixed, this is so only where the leading column decides. -/
namespace Listing
open Sql
universe u

def Direction.sign : Direction → Sign
  | asc => .greater
  | desc => .less

/-- How a key is written in the list to order by. -/
def SortKey.term (cfg : Config) (k : SortKey) : OrderTerm := ⟨cfg.resolve k.field, k.direction = .desc⟩

namespace Config
variable {cfg : Config}

def columns (cfg : Config) (keys : List SortKey) : List String := keys.map fun k => cfg.resolve k.field

/-- The comparison that the condition of a cursor is, behind `n` values. -/
def seekComparison (cfg : Config) (n : Nat) (k : SortKey) (ks : List SortKey) : RowComparison :=
  ⟨cfg.columns (k :: ks), k.direction.sign, Binding.placesFrom n (ks.length + 1)⟩

/-! ### Texts -/

lemma seekComparison_reads (n : Nat) (k : SortKey) (ks : List SortKey) :
    (cfg.seekComparison n k ks).Reads (cfg.rowSeek n (k :: ks)) := by
  refine ⟨if cfg.format.detached then " " else "", ?_, ?_⟩
  · cases cfg.format.detached <;> simp
  · have hs : cfg.seekSign k.direction = (if cfg.format.detached then " " else "") ++ k.direction.sign.text ++
        (if cfg.format.detached then " " else "") := by
      unfold seekSign
      cases cfg.format.detached <;> cases k.direction <;> decide
    simp only [rowSeek, expression_eq_resolve, hs, seekComparison, Binding.placesFrom, List.map_map]
    rfl

/-- Over the columns of the keys, the condition of a cursor says this comparison and no other. -/
lemma reads_rowSeek_iff {n : Nat} {k : SortKey} {ks : List SortKey} {x : RowComparison} :
    x.columns = cfg.columns (k :: ks) ∧ x.Reads (cfg.rowSeek n (k :: ks)) ↔ x = cfg.seekComparison n k ks := by
  constructor
  · rintro ⟨hc, hx⟩
    exact hx.eq (seekComparison_reads n k ks) hc
  · rintro rfl
    exact ⟨rfl, seekComparison_reads n k ks⟩

lemma terms_read (keys : List SortKey) : OrderTerm.Reads (keys.map (·.term cfg)) (cfg.orderText keys) := by
  refine ⟨_, ?_, rfl⟩
  rw [List.forall₂_map_left_iff, List.forall₂_map_right_iff, List.forall₂_same]
  intro k _
  rw [expression_eq_resolve]
  refine ⟨_, ?_, rfl⟩
  unfold SortKey.term
  cases k.direction <;> cases cfg.format.lowerCase <;> exact of_decide_eq_true rfl

/-- Over the columns of the keys, the list says these terms and no others. -/
lemma reads_orderText_iff {keys : List SortKey} {ts : List OrderTerm} :
    ts.map OrderTerm.column = cfg.columns keys ∧ OrderTerm.Reads ts (cfg.orderText keys) ↔
      ts = keys.map (·.term cfg) := by
  have hk : (keys.map (·.term cfg)).map OrderTerm.column = cfg.columns keys := List.map_map ..
  constructor
  · rintro ⟨hc, ht⟩
    exact ht.eq (terms_read keys) (hc.trans hk.symm)
  · rintro rfl
    exact ⟨hk, terms_read keys⟩

/-! ### Rows -/

section Rows
variable {V : String → Type u} [∀ column, LinearOrder (V column)] {read : ∀ column, String → V column}
  {r c : Tuple V} {q : Params} {keys ks : List SortKey} {k : SortKey} {n : Nat}

lemma term_later_iff : (k.term cfg).Later r c ↔
    k.direction.sign.Holds (r (cfg.resolve k.field)) (c (cfg.resolve k.field)) := by
  unfold SortKey.term OrderTerm.Later
  cases k.direction <;> simp [Direction.sign, Sign.Holds]

/-- The first column is compared with the first value of the cursor, and the others with the others. -/
lemma compares_cons_iff {sign : Sign} {t : String} (hq : q.values[n]? = some (.text t))
    (ht : read (cfg.resolve k.field) t = c (cfg.resolve k.field)) :
    Compares read q sign r (cfg.columns (k :: ks)) (Binding.placesFrom n (ks.length + 1)) ↔
      sign.Holds (r (cfg.resolve k.field)) (c (cfg.resolve k.field)) ∨
        r (cfg.resolve k.field) = c (cfg.resolve k.field) ∧
          Compares read q sign r (cfg.columns ks) (Binding.placesFrom (n + 1) ks.length) := by
  simp [columns, Binding.placesFrom_succ, Compares, boundValue?, hq, Value.asText?, ht]

/-- By induction on the keys: as long as the columns are equal, neither decides. -/
lemma compares_iff_follows {d : Direction} {values : List String} (hd : ∀ k ∈ keys, k.direction = d)
    (hq : q.values.drop n = values.map .text)
    (hc : List.Forall₂ (fun k t => read (cfg.resolve k.field) t = c (cfg.resolve k.field)) keys values) :
    Compares read q d.sign r (cfg.columns keys) (Binding.placesFrom n keys.length) ↔
      Follows r c (keys.map (·.term cfg)) := by
  induction hc generalizing n with
  | nil => simp [columns, Compares, Follows]
  | @cons k t keys values ht _ ih =>
    obtain ⟨hk, hd⟩ := List.forall_mem_cons.mp hd
    have hv : q.values[n]? = some (.text t) := by
      rw [← Nat.add_zero n, ← List.getElem?_drop, hq]
      rfl
    have hq' : q.values.drop (n + 1) = values.map .text := by simpa using congrArg List.tail hq
    rw [List.length_cons, compares_cons_iff hv ht, ih hd hq', List.map_cons, Follows, term_later_iff, hk]
    rfl

/-- The first column alone decides, if it can. -/
lemma compares_iff_follows_of_ne {t : String} (hq : q.values[n]? = some (.text t))
    (ht : read (cfg.resolve k.field) t = c (cfg.resolve k.field))
    (hne : r (cfg.resolve k.field) ≠ c (cfg.resolve k.field)) :
    Compares read q k.direction.sign r (cfg.columns (k :: ks)) (Binding.placesFrom n (ks.length + 1)) ↔
      Follows r c ((k :: ks).map (·.term cfg)) := by
  rw [compares_cons_iff hq ht, List.map_cons, Follows, term_later_iff]
  exact or_congr_right ((iff_of_false (fun h => hne h.1) fun h => hne h.1))

end Rows

lemma of_orderBy_eq_ok {keys : List SortKey} {s : String} {values : List String} {p q : Params} {o : OrderBy}
    (h : cfg.orderBy keys (some s) p = .ok o q) (hd : Cursor.decode s = .ok values) :
    values.length = keys.length ∧ o = ⟨cfg.orderText keys, cfg.rowSeek p.size keys⟩ ∧
      q = p.append (values.map .text) := by
  have ho := ordered_orderBy cfg keys (some s) p
  rw [h] at ho
  cases ho with
  | firstPage hk hc => exact absurd hc (Cursor.not_isBlank_of_decode hd)
  | laterPage hk hs hc hv hl =>
    cases hs
    rw [hd] at hv
    cases hv
    exact ⟨hl, rfl, rfl⟩

/-- Both texts of an order with a cursor can be read in one way only, and so read they agree: with one
direction for all keys, the condition is true of a row exactly if the row comes strictly after the one whose
values the cursor has; with any directions, of a row that differs from that one in the leading column. -/
theorem seek_iff_follows {V : String → Type u} [∀ column, LinearOrder (V column)] {keys : List SortKey}
    {s : String} {values : List String} {p q : Params} {o : OrderBy} (hn : keys ≠ [])
    (h : cfg.orderBy keys (some s) p = .ok o q) (hd : Cursor.decode s = .ok values) :
    ∃ (x : RowComparison) (ts : List OrderTerm),
      (∀ y : RowComparison, y.columns = cfg.columns keys ∧ y.Reads o.seek ↔ y = x) ∧
      (∀ us, us.map OrderTerm.column = cfg.columns keys ∧ OrderTerm.Reads us o.list ↔ us = ts) ∧
      ∀ (read : ∀ column, String → V column) (r c : Tuple V),
        List.Forall₂ (fun k t => read (cfg.resolve k.field) t = c (cfg.resolve k.field)) keys values →
        ((∀ k ∈ keys, ∀ l ∈ keys, k.direction = l.direction) → (x.Holds read q r ↔ Follows r c ts)) ∧
        ∀ k, keys.head? = some k → r (cfg.resolve k.field) ≠ c (cfg.resolve k.field) →
          (x.Holds read q r ↔ Follows r c ts) := by
  obtain ⟨hl, rfl, rfl⟩ := of_orderBy_eq_ok h hd
  obtain ⟨k, ks, rfl⟩ := List.exists_cons_of_ne_nil hn
  have hq : (p.append (values.map .text)).values.drop p.size = values.map .text := List.drop_left
  refine ⟨cfg.seekComparison p.size k ks, _, fun _ => reads_rowSeek_iff, fun _ => reads_orderText_iff,
    fun read r c hc => ⟨fun hs => ?_, fun l hk hne => ?_⟩⟩
  · exact compares_iff_follows (fun l hm => hs l hm k (.head _)) hq hc
  · cases hk
    obtain ⟨t, rest, ht, -, rfl⟩ := List.forall₂_cons_left_iff.mp hc
    refine compares_iff_follows_of_ne ?_ ht hne
    simp [Params.append, Params.size]

/-- Of two films of one year, the one with the smaller number comes later, and is behind the cursor. As texts,
the numbers would be the other way round. -/
theorem seek_iff_follows_years :
    let cfg : Config := { lax := true }
    let s := Cursor.encode ["2003", "12"]
    let p : Params := ⟨[.text "base"]⟩
    let q : Params := ⟨[.text "base", .text "2003", .text "12"]⟩
    let read : String → String → ℕ := fun _ t => Nat.ofDigitChars 10 t.toList 0
    let r : Tuple fun _ => ℕ := fun column => if column = "year" then 2003 else 9
    let c : Tuple fun _ => ℕ := fun column => if column = "year" then 2003 else 12
    let keys : List SortKey := [⟨"year", .desc⟩, ⟨"id", .desc⟩]
    cfg.orderBy keys (some s) p = .ok ⟨"year DESC,id DESC", "(year,id)<($2,$3)"⟩ q ∧
      Cursor.decode s = .ok ["2003", "12"] ∧
      (∀ k ∈ keys, ∀ l ∈ keys, k.direction = l.direction) ∧
      List.Forall₂ (fun k t => read (cfg.resolve k.field) t = c (cfg.resolve k.field)) keys ["2003", "12"] ∧
      ∃ (x : RowComparison) (ts : List OrderTerm), x.Reads "(year,id)<($2,$3)" ∧
        OrderTerm.Reads ts "year DESC,id DESC" ∧ x.Holds read q r ∧ Follows r c ts := by
  intro cfg s p q read r c keys
  have hd : Cursor.decode s = .ok ["2003", "12"] := Cursor.decode_encode _
  have hk : ∀ k ∈ keys, ¬ cfg.Unsortable k.field := find?_unsortable_eq_none_iff.mp rfl
  have hlist : cfg.orderText keys = "year DESC,id DESC" := by decide +kernel
  have hseek : cfg.rowSeek p.size keys = "(year,id)<($2,$3)" := by decide +kernel
  have ho : cfg.orderBy keys (some s) p = .ok ⟨"year DESC,id DESC", "(year,id)<($2,$3)"⟩ q := by
    rw [← hlist, ← hseek]
    exact (Ordered.laterPage hk rfl (Cursor.not_isBlank_of_decode hd) hd rfl).eq
  have hs : ∀ k ∈ keys, ∀ l ∈ keys, k.direction = l.direction := by decide
  have hc : List.Forall₂ (fun k t => read (cfg.resolve k.field) t = c (cfg.resolve k.field)) keys
      ["2003", "12"] := .cons (by decide) (.cons (by decide) .nil)
  obtain ⟨x, ts, hx, ht, h⟩ := seek_iff_follows (V := fun _ => ℕ) (List.cons_ne_nil _ _) ho hd
  have hterms : [⟨"year", true⟩, ⟨"id", true⟩] = ts := (ht _).mp (reads_orderText_iff.mpr rfl)
  have hf : Follows r c ts := by
    subst hterms
    exact .inr ⟨rfl, .inl (show 9 < 12 by decide)⟩
  exact ⟨ho, hd, hs, hc, x, ts, ((hx x).mpr rfl).2, ((ht ts).mpr rfl).2, ((h read r c hc).1 hs).mpr hf, hf⟩

end Config
end Listing
