import Listing.Proofs.Acceptance
import Listing.Proofs.BuiltIn
import Listing.Proofs.Ordering
import Listing.Proofs.Placeholders
import Listing.Query

/-! The placeholders of a request. Where no other text holds a dollar sign, the numbers in a predicate, in a
seek and in the fragment made of both are those that follow the numbers of the values bound before. -/
namespace Listing
open Text

lemma Format.plain_keyword (fmt : Format) (k : Keyword) : Plain (fmt.keyword k) := by
  unfold Format.keyword
  split <;> cases k <;> decide

lemma Format.plain_symbol (fmt : Format) {s : String} (hs : Plain s) : Plain (fmt.symbol s) := by
  unfold Format.symbol
  split
  · exact plain_append.mpr ⟨plain_append.mpr ⟨by decide, hs⟩, by decide⟩
  · exact hs

lemma Operator.plain_sign (fmt : Format) (wildcard : Bool) (op : Operator) :
    Plain (op.sign fmt wildcard) := by
  have hk (k : Keyword) : Plain (" " ++ fmt.keyword k ++ " ") :=
    plain_append.mpr ⟨plain_append.mpr ⟨by decide, fmt.plain_keyword k⟩, by decide⟩
  cases op <;> simp only [sign]
  case eq | ne =>
    split
    · exact hk _
    · exact fmt.plain_symbol (by decide)
  case in_ | out => exact hk _
  all_goals exact fmt.plain_symbol (by decide)

/-- A group shows the numbers of its operands. A negation has only one, so that its text needs no
separator. -/
lemma numbers_wrap (fmt : Format) {k : Connective} {parts : List String}
    (hk : k = .not → ∃ s, parts = [s]) : numbers (k.wrap fmt parts) = parts.flatMap numbers := by
  have hg (w : Keyword) : numbers ("(" ++ String.intercalate (" " ++ fmt.keyword w ++ " ") parts ++ ")") =
      parts.flatMap numbers := by
    have hw : Plain (" " ++ fmt.keyword w ++ " ") :=
      plain_append.mpr ⟨plain_append.mpr ⟨by decide, fmt.plain_keyword w⟩, by decide⟩
    have hd : Delimits (" " ++ fmt.keyword w ++ " ") := by
      rw [String.append_assoc]
      exact Delimits.append (by decide) (by decide) _
    rw [String.append_assoc, numbers_parenthesized, numbers_intercalate hw hd (by simp)]
  cases k with
  | and => exact hg .and
  | or => exact hg .or
  | not =>
    obtain ⟨s, rfl⟩ := hk rfl
    have hj : String.join [s] = s := by simp
    rw [Connective.wrap, hj, String.append_assoc, String.append_assoc,
      numbers_plain_append (fmt.plain_keyword .not), numbers_parenthesized]
    simp

namespace Config
variable {cfg : Config}

/-- The texts of a configuration hold no dollar signs, so that all that are written are placeholders'. -/
structure DollarFree (cfg : Config) : Prop where
  base : Plain cfg.base
  separator : Plain cfg.separator
  selectors : ∀ field s sql, cfg.selectors.get? field = some s → s.sql? = some sql → Plain sql

lemma DollarFree.resolve (h : cfg.DollarFree) {field : String} (hf : Plain field) :
    Plain (cfg.resolve field) := by
  unfold Config.resolve Selectors.resolve
  cases hs : cfg.selectors.get? field with
  | none => exact hf
  | some s =>
    cases hq : s.sql? with
    | none => simpa [hq] using hf
    | some sql => simpa [hq] using h.selectors field s sql hs hq

lemma numbers_builtInText (h : cfg.DollarFree) {c : Comparison} (hc : Plain c.selector) (n : Nat) :
    numbers (cfg.builtInText n c) = [n] := by
  have hs : Plain (((Operator.parse? c.operator).map (·.sign cfg.format c.hasWildcard)).getD "") := by
    cases Operator.parse? c.operator with
    | none => exact List.not_mem_nil
    | some op => exact op.plain_sign cfg.format c.hasWildcard
  rw [builtInText, String.append_assoc, numbers_plain_append (h.resolve hc), numbers_plain_append hs,
    numbers_placeholder]

lemma numbers_renderAll {os : List Operand}
    (ih : ∀ f, .filter f ∈ os → ∀ n, numbers (cfg.builtIn.render cfg.format n f) =
      List.range' (n + 1) f.comparisons.length) (n : Nat) :
    (cfg.builtIn.renderAll cfg.format n os).flatMap numbers =
      List.range' (n + 1) (Operand.comparisons os).length := by
  induction os generalizing n with
  | nil => rfl
  | cons o os ihos =>
    have hos := ihos fun f hf => ih f (List.mem_cons_of_mem _ hf)
    cases o with
    | stray s => exact hos n
    | filter f =>
      rw [Phrasing.renderAll, List.flatMap_cons, ih f List.mem_cons_self n, hos, valuesOf_builtIn,
        List.length_map, Operand.comparisons, List.length_append, Nat.add_right_comm, List.range'_append_1]

/-- The comparisons of a filter have the numbers behind `n`, in reading order. -/
theorem numbers_render (h : cfg.DollarFree) {f : Filter} (hf : f.Accepted cfg)
    (hc : ∀ c ∈ f.comparisons, Plain c.selector) (n : Nat) :
    numbers (cfg.builtIn.render cfg.format n f) = List.range' (n + 1) f.comparisons.length := by
  induction f using Filter.induction generalizing n with
  | comparison c => exact numbers_builtInText h (hc c (by simp [Filter.comparisons])) (n + 1)
  | group k os ih =>
    obtain ⟨hk, hos⟩ := Filter.accepted_group_iff.mp hf
    have hparts := numbers_renderAll (fun f hm => ih f hm (hos f hm) fun c hcf =>
      hc c (Operand.mem_comparisons_iff.mpr ⟨f, hm, hcf⟩)) n
    rw [Phrasing.render, numbers_wrap, hparts]
    · rfl
    · rintro rfl
      obtain ⟨g, rfl⟩ := hk
      exact ⟨_, rfl⟩

lemma numbers_sortList (h : cfg.DollarFree) {keys : List SortKey} (hk : ∀ k ∈ keys, Plain k.field) :
    numbers (cfg.sortList keys) = [] := by
  refine numbers_of_plain (plain_intercalate (by decide) fun s hs => ?_)
  obtain ⟨k, hm, rfl⟩ := List.mem_map.mp hs
  have hc := h.resolve (hk k hm)
  cases hd : k.direction with
  | asc => simpa only [sortText, hd] using hc
  | desc =>
    simp only [sortText, hd]
    exact plain_append.mpr ⟨plain_append.mpr ⟨hc, by decide⟩, cfg.format.plain_keyword .desc⟩

/-- The condition of a cursor has the numbers behind `n`, one for each key. -/
lemma numbers_seekAfter (h : cfg.DollarFree) {keys : List SortKey} (hk : ∀ k ∈ keys, Plain k.field)
    (n : Nat) : numbers (cfg.seekAfter n keys) = List.range' (n + 1) keys.length := by
  cases keys with
  | nil => rfl
  | cons k ks =>
    have hcolumns : Plain (String.intercalate "," ((k :: ks).map fun k => cfg.resolve k.field)) := by
      refine plain_intercalate (by decide) fun s hs => ?_
      obtain ⟨l, hm, rfl⟩ := List.mem_map.mp hs
      exact h.resolve (hk l hm)
    have hsymbol : Plain (cfg.format.symbol (seekSymbol k.direction)) :=
      cfg.format.plain_symbol (by cases k.direction <;> decide)
    have hplaces : numbers (String.intercalate ","
        ((Binding.placesFrom n (k :: ks).length).map Placeholder.text)) =
          List.range' (n + 1) (k :: ks).length := by
      rw [numbers_places, Binding.placesFrom, List.map_map]
      exact List.map_id _
    simp only [seekAfter, seekText, String.append_assoc]
    rw [numbers_plain_append (by decide), numbers_plain_append hcolumns, numbers_plain_append (by decide),
      numbers_plain_append hsymbol, numbers_parenthesized, hplaces]

lemma numbers_conditions (fmt : Format) (predicate seek : String) :
    numbers (if !predicate.isEmpty && !seek.isEmpty then
      "(" ++ predicate ++ ") " ++ fmt.keyword .and ++ " " ++ seek else predicate ++ seek) =
        numbers predicate ++ numbers seek := by
  have hn : numbers "" = [] := rfl
  split
  · simp only [String.append_assoc]
    rw [numbers_plain_append (by decide), numbers_append (Delimits.append (by decide) (by decide) _),
      numbers_plain_append (by decide), numbers_plain_append (fmt.plain_keyword .and),
      numbers_plain_append (by decide)]
  · rename_i he
    obtain rfl | rfl : predicate = "" ∨ seek = "" := by
      simpa [Classical.or_iff_not_imp_left] using he
    · rw [String.empty_append, hn, List.nil_append]
    · rw [String.append_empty, hn, List.append_nil]

lemma numbers_ordered (fmt : Format) (conditions list : String) :
    numbers (conditions ++ if list.isEmpty then "" else " " ++ fmt.keyword .orderBy ++ " " ++ list) =
      numbers conditions ++ numbers list := by
  have hn : numbers "" = [] := rfl
  split
  · rename_i he
    obtain rfl : list = "" := by simpa using he
    rw [String.append_empty, hn, List.append_nil]
  · simp only [String.append_assoc]
    rw [numbers_append (Delimits.append (by decide) (by decide) _), numbers_plain_append (by decide),
      numbers_plain_append (fmt.plain_keyword .orderBy), numbers_plain_append (by decide)]

/-- A fragment shows the numbers of its three parts in their order. -/
lemma numbers_combine (predicate : String) (o : OrderBy) :
    numbers (cfg.combine predicate o) = numbers predicate ++ numbers o.seek ++ numbers o.list := by
  unfold combine
  split
  · rename_i he
    obtain ⟨hl, hs⟩ : o.list = "" ∧ o.seek = "" := by simpa [OrderBy.isEmpty] using he
    have hn : numbers "" = [] := rfl
    rw [hl, hs, hn, List.append_nil, List.append_nil]
  · rw [numbers_trim, numbers_ordered, numbers_conditions]

lemma numbers_join (h : cfg.DollarFree) (fragment : String) :
    numbers (cfg.join fragment) = numbers fragment := by
  unfold join
  split
  · rename_i he
    obtain rfl : fragment = "" := by simpa using he
    rw [numbers_of_plain h.base]
    rfl
  · split
    · rw [String.append_assoc, numbers_plain_append h.base, numbers_plain_append (by decide)]
    · cases cfg.strategy with
      | where_ =>
        simp only [String.append_assoc]
        rw [numbers_plain_append h.base, numbers_plain_append h.separator,
          numbers_plain_append (cfg.format.plain_keyword _), numbers_plain_append (by decide)]
      | and =>
        simp only [String.append_assoc]
        rw [numbers_plain_append h.base, numbers_plain_append (by decide),
          numbers_plain_append (cfg.format.plain_keyword _), numbers_plain_append (by decide)]

end Config
end Listing
