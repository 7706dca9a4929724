import Listing.Proofs.Paging

/-! How the fragment of a request is joined to the base query. The fragment is one text, and whether it only
orders is found out from its first letters. They mislead about some predicates of single comparisons, which
read like an order themselves, and about nothing else. -/
namespace Listing

namespace Config
variable {cfg : Config}

/-- The clause that orders by a list. -/
def ordering (cfg : Config) (list : String) : String := cfg.format.keyword .orderBy ++ " " ++ list

/-- The base query with the fragment as its condition, behind the keyword of the strategy. -/
def introduced (cfg : Config) (fragment : String) : String :=
  let start := match cfg.strategy with
    | .where_ => cfg.separator
    | .and => " "
  cfg.base ++ start ++ cfg.format.keyword cfg.strategy.keyword ++ " " ++ fragment

/-- A predicate without a seek that is taken for the start of an order: it reads so by itself, or, where it
is trimmed with the list that follows it, behind white space or for want of anything else. -/
def ReadsAsOrder (predicate : String) (order : OrderBy) : Prop :=
  order.seek = "" ∧
    if order.list = "" then startsWithOrderBy predicate = true
    else Text.skipBlanks predicate.toList = [] ∨
      startsWithOrderBy (.ofList (Text.skipBlanks predicate.toList)) = true

instance (predicate : String) (order : OrderBy) : Decidable (ReadsAsOrder predicate order) :=
  inferInstanceAs (Decidable (_ ∧ ite ..))

lemma join_of_ne_empty {fragment : String} (h : fragment ≠ "") :
    cfg.join fragment =
      if startsWithOrderBy fragment then cfg.base ++ " " ++ fragment else cfg.introduced fragment := by
  rw [join, if_neg (by simpa using h)]
  rfl

/-! ### The first letters of a fragment -/

lemma startsWithOrderBy_paren (s : String) : startsWithOrderBy ("(" ++ s) = false := by
  simp [startsWithOrderBy, Keyword.lower]

lemma getElem?_of_startsWithOrderBy {cs : List Char} (h : startsWithOrderBy (.ofList cs) = true) {i : Nat}
    (hi : i < 8) : cs[i]?.map Char.toLower = "order by".toList[i]? := by
  rw [startsWithOrderBy, beq_iff_eq, String.toList_ofList] at h
  have he := congrArg (fun letters => letters[i]?) h
  rwa [List.getElem?_map, List.getElem?_take_of_lt hi] at he

/-- Only a text that stops within the words `order by` could be continued by what stands behind it. -/
lemma startsWithOrderBy_append_eq {cs ds : List Char}
    (h : cs.length < 8 → startsWithOrderBy (.ofList (cs ++ ds)) = false) :
    startsWithOrderBy (.ofList (cs ++ ds)) = startsWithOrderBy (.ofList cs) := by
  rcases Nat.lt_or_ge cs.length 8 with hl | hl
  · rw [h hl]
    apply Eq.symm
    rw [← Bool.not_eq_true]
    intro hw
    have hlast := getElem?_of_startsWithOrderBy hw (i := 7) (by decide)
    rw [List.getElem?_eq_none (by omega)] at hlast
    cases hlast
  · simp only [startsWithOrderBy, String.toList_ofList, List.take_append_of_le_length hl]

/-- It is not continued by a blank and another letter. -/
lemma startsWithOrderBy_append {d : Char} (hd : d.toLower ≠ 'b') (cs ds : List Char) :
    startsWithOrderBy (.ofList (cs ++ ' ' :: d :: ds)) = startsWithOrderBy (.ofList cs) := by
  refine startsWithOrderBy_append_eq fun hl => ?_
  rw [← Bool.not_eq_true]
  intro h
  -- the words have one blank, which is their sixth character, and a certain letter behind it
  have hfive : ∀ i < 8, "order by".toList[i]? = some ' ' → i = 5 := by decide
  have hblank := getElem?_of_startsWithOrderBy h (i := cs.length) (by omega)
  simp only [List.getElem?_append_right, Nat.le_refl, Nat.sub_self, List.getElem?_cons_zero] at hblank
  have hm := hfive cs.length (by omega) hblank.symm
  have hnext := getElem?_of_startsWithOrderBy h (i := cs.length + 1) (by omega)
  rw [List.getElem?_append_right (by omega), Nat.add_sub_cancel_left, hm] at hnext
  exact hd (Option.some.inj hnext)

/-- The keyword has no white space at its ends, and with anything behind it reads as an order. -/
lemma exists_orderBy (fmt : Format) : ∃ c cs d, (fmt.keyword .orderBy).toList = c :: (cs ++ [d]) ∧
    Text.isBlank c = false ∧ c.toLower ≠ 'b' ∧ Text.isBlank d = false ∧
    ∀ ds, startsWithOrderBy (.ofList (c :: (cs ++ d :: ds))) = true := by
  unfold Format.keyword
  split
  · refine ⟨'o', "rder b".toList, 'y', rfl, by decide, by decide, by decide, fun ds => ?_⟩
    simp [startsWithOrderBy, Keyword.lower]
  · refine ⟨'O', "RDER B".toList, 'Y', rfl, by decide, by decide, by decide, fun ds => ?_⟩
    simp [startsWithOrderBy, Keyword.lower]

/-- Trimming brings the list's own clause to the front if the predicate is blank, and the predicate if it is
not; it does not take anything away between them. -/
lemma startsWithOrderBy_trim_iff (predicate list : String) :
    startsWithOrderBy (Text.trim (predicate ++ " " ++ cfg.ordering list)) = true ↔
      Text.skipBlanks predicate.toList = [] ∨
        startsWithOrderBy (.ofList (Text.skipBlanks predicate.toList)) = true := by
  obtain ⟨c, cs, d, hk, hc, hb, hd, hw⟩ := exists_orderBy cfg.format
  have hl : (predicate ++ " " ++ cfg.ordering list).toList =
      predicate.toList ++ ' ' :: (c :: cs ++ d :: (' ' :: list.toList)) := by
    simp [ordering, hk]
  rw [Text.trim, hl, Text.trimChars, Text.skipBlanks, List.dropWhile_append]
  split
  · rename_i he
    have hs : (' ' :: (c :: cs ++ d :: (' ' :: list.toList))).dropWhile Text.isBlank =
        c :: cs ++ d :: (' ' :: list.toList) := by
      rw [List.dropWhile_cons_of_pos (by decide), List.cons_append,
        List.dropWhile_cons_of_neg (by simp [hc])]
    rw [hs, Text.dropTrailing_append_cons hd]
    exact iff_of_true (hw _) (.inl (List.isEmpty_iff.mp he))
  · rename_i he
    have ha : predicate.toList.dropWhile Text.isBlank ++ ' ' :: (c :: cs ++ d :: (' ' :: list.toList)) =
        (predicate.toList.dropWhile Text.isBlank ++ ' ' :: c :: cs) ++ d :: (' ' :: list.toList) := by
      simp
    have hn : predicate.toList.dropWhile Text.isBlank ≠ [] := fun h => he (List.isEmpty_iff.mpr h)
    rw [ha, Text.dropTrailing_append_cons hd, List.append_assoc, List.cons_append, List.cons_append,
      startsWithOrderBy_append hb]
    exact (or_iff_right hn).symm

/-! ### Fragments -/

/-- The condition of a cursor stands in parentheses. -/
lemma seek_orderAfter (cfg : Config) (n : Nat) (keys : List SortKey) (cursor : Option String) :
    (cfg.orderAfter n keys cursor).seek = "" ∨ ∃ s, (cfg.orderAfter n keys cursor).seek = "(" ++ s := by
  unfold orderAfter
  split
  · cases keys with
    | nil => exact .inl rfl
    | cons k ks =>
      right
      simp only [seekAfter_cons, rowComparison, String.append_assoc]
      exact ⟨_, rfl⟩
  · exact .inl rfl

lemma seek_of_orderBy {keys : List SortKey} {cursor : Option String} {p q : Params} {order : OrderBy}
    (h : cfg.orderBy keys cursor p = .ok order q) : order.seek = "" ∨ ∃ s, order.seek = "(" ++ s := by
  obtain ⟨-, -, -, rfl⟩ := (orderBy_computes cfg keys cursor).of_eq_ok h
  exact seek_orderAfter cfg p.size keys cursor

lemma ne_empty_of_paren {s t : String} (h : s = "(" ++ t) : s ≠ "" := by
  rw [h]
  intro he
  simpa using congrArg String.toList he

lemma trim_paren (s : String) :
    Text.trim ("(" ++ s) = "(" ++ .ofList (Text.dropTrailing Text.isBlank s.toList) := by
  have hl : ("(" ++ s).toList = '(' :: s.toList := by simp
  rw [Text.trim, hl, Text.trimChars_cons (by decide)]
  simp

/-- With a seek, a fragment starts with the parenthesis around its predicate, or with that of the seek. -/
lemma combine_of_seek (cfg : Config) (predicate : String) {order : OrderBy} {s : String}
    (hs : order.seek = "(" ++ s) :
    ∃ t, cfg.combine predicate order = "(" ++ t := by
  have hn := ne_empty_of_paren hs
  by_cases he : predicate = ""
  · simp [combine, OrderBy.isEmpty, he, hs, String.append_assoc, trim_paren]
  · simp [combine, OrderBy.isEmpty, he, hn, String.append_assoc, trim_paren]

lemma combine_list {predicate : String} {order : OrderBy} (hs : order.seek = "") (hl : order.list ≠ "") :
    cfg.combine predicate order = Text.trim (predicate ++ " " ++ cfg.ordering order.list) := by
  simp [combine, OrderBy.isEmpty, hs, hl, ordering, String.append_assoc]

/-- What is taken for an order is one, but for the predicates that pass for it. -/
theorem startsWithOrderBy_combine_iff {predicate : String} {order : OrderBy}
    (hs : order.seek = "" ∨ ∃ s, order.seek = "(" ++ s) :
    startsWithOrderBy (cfg.combine predicate order) = true ↔ ReadsAsOrder predicate order := by
  unfold ReadsAsOrder
  rcases hs with hs | ⟨s, hs⟩
  · by_cases hl : order.list = ""
    · simp [combine, OrderBy.isEmpty, hs, hl]
    · rw [combine_list hs hl, startsWithOrderBy_trim_iff, if_neg hl, and_iff_right hs]
  · obtain ⟨t, ht⟩ := combine_of_seek cfg predicate hs
    rw [ht, startsWithOrderBy_paren]
    exact iff_of_false (by decide) fun h => ne_empty_of_paren hs h.1

lemma combine_ne_empty {predicate : String} {order : OrderBy}
    (hs : order.seek = "" ∨ ∃ s, order.seek = "(" ++ s)
    (h : predicate ≠ "" ∨ order.seek ≠ "" ∨ order.list ≠ "") : cfg.combine predicate order ≠ "" := by
  rcases hs with hs | ⟨s, hs⟩
  · by_cases hl : order.list = ""
    · simpa [combine, OrderBy.isEmpty, hs, hl] using h
    · rw [combine_list hs hl]
      obtain ⟨c, cs, d, hk, hc, -⟩ := exists_orderBy cfg.format
      exact Text.trim_ne_empty (c := c) (by simp [ordering, hk]) hc
  · obtain ⟨t, ht⟩ := combine_of_seek cfg predicate hs
    exact ne_empty_of_paren ht

/-! ### Predicates that pass for an order -/

lemma not_readsAsOrder_of_first {predicate : String} {order : OrderBy} {c : Char}
    (hf : predicate.toList.head? = some c) (hb : Text.isBlank c = false) (ho : c.toLower ≠ 'o') :
    ¬ ReadsAsOrder predicate order := by
  obtain ⟨cs, hl⟩ := List.head?_eq_some_iff.mp hf
  have hs : startsWithOrderBy predicate = false := by simp [startsWithOrderBy, Keyword.lower, hl, ho]
  have hk : Text.skipBlanks predicate.toList = predicate.toList := by
    rw [hl, Text.skipBlanks, List.dropWhile_cons_of_neg (by simp [hb])]
  rintro ⟨-, h⟩
  rw [hk, String.ofList_toList, hl, hs] at h
  simp at h

/-- A group starts with a parenthesis or with a negation. -/
lemma not_readsAsOrder_wrap (fmt : Format) (k : Connective) (parts : List String) (order : OrderBy) :
    ¬ ReadsAsOrder (k.wrap fmt parts) order := by
  cases k with
  | and | or =>
    exact not_readsAsOrder_of_first (c := '(') (by simp [Connective.wrap]) (by decide) (by decide)
  | not =>
    obtain ⟨lower, detached⟩ := fmt
    cases lower with
    | false =>
      exact not_readsAsOrder_of_first (c := 'N') (by simp [Connective.wrap, Format.keyword, Keyword.upper])
        (by decide) (by decide)
    | true =>
      exact not_readsAsOrder_of_first (c := 'n') (by simp [Connective.wrap, Format.keyword, Keyword.lower])
        (by decide) (by decide)

/-- What passes for an order comes from a filter of one comparison. -/
lemma exists_comparison_of_readsAsOrder {filter : Option Filter} {p q : Params} {predicate : String}
    {order : OrderBy} (h : cfg.predicate filter p = .ok predicate q) (hn : predicate ≠ "")
    (hr : ReadsAsOrder predicate order) : ∃ c, filter = some (.comparison c) := by
  match filter with
  | none =>
    cases h
    exact absurd rfl hn
  | some (.comparison c) => exact ⟨c, rfl⟩
  | some (.group k os) =>
    have hw : ∃ parts, predicate = k.wrap cfg.format parts := by
      rcases of_compile_group_eq_ok (of_predicate_eq_ok h).2 with
        ⟨parts, -, -, hs⟩ | ⟨-, t, -, -, -, -, hs⟩
      · exact ⟨parts, hs⟩
      · exact ⟨[t], hs⟩
    obtain ⟨parts, rfl⟩ := hw
    exact absurd hr (not_readsAsOrder_wrap _ _ _ _)

/-- Without anything to add, the query is the base. An order alone stands behind a blank. Conditions stand
behind the keyword of the strategy unless their text reads as an order, which that of a group never does. -/
theorem query_joined {r : Request} {p w : Params} {s : String} (h : cfg.query r p = .ok s w) :
    ∃ predicate order v, cfg.predicate r.filter p = .ok predicate v ∧
      cfg.orderBy r.sort r.cursor v = .ok order w ∧
      (predicate = "" → order.seek = "" → order.list = "" → s = cfg.base) ∧
      (predicate = "" → order.seek = "" → order.list ≠ "" →
        s = cfg.base ++ " " ++ Text.trim (cfg.ordering order.list)) ∧
      (predicate ≠ "" ∨ order.seek ≠ "" → s =
        if ReadsAsOrder predicate order then cfg.base ++ " " ++ cfg.combine predicate order
        else cfg.introduced (cfg.combine predicate order)) ∧
      (predicate ≠ "" → ReadsAsOrder predicate order → ∃ c, r.filter = some (.comparison c)) := by
  obtain ⟨fragment, v, hf, hq⟩ := Binding.of_bind_eq_ok h
  cases hq
  obtain ⟨predicate, order, u, hp, ho, rfl⟩ := of_fragment_eq_ok hf
  have hs := seek_of_orderBy ho
  refine ⟨predicate, order, u, hp, ho, fun he hn hl => ?_, fun he hn hl => ?_, fun hc => ?_,
    exists_comparison_of_readsAsOrder hp⟩
  · simp [combine, OrderBy.isEmpty, he, hn, hl, join]
  · have ht : cfg.combine predicate order = Text.trim (cfg.ordering order.list) := by
      rw [combine_list hn hl, he, String.empty_append, Text.trim_blank_append]
    have hr : ReadsAsOrder predicate order := ⟨hn, by rw [if_neg hl, he]; exact .inl rfl⟩
    rw [join_of_ne_empty (combine_ne_empty hs (.inr (.inr hl))),
      if_pos ((startsWithOrderBy_combine_iff hs).mpr hr), ht]
  · rw [join_of_ne_empty (combine_ne_empty hs (hc.imp_right .inl))]
    simp only [startsWithOrderBy_combine_iff hs]

/-- A field without a selector, whose text reads as an order: the comparison, which is to leave orders out,
only sorts them. -/
theorem query_sorts_by_predicate :
    let cfg : Config := { base := "select * from orders o where o.tenant = 7", strategy := .and, lax := true }
    let f : Filter := .comparison ⟨"order by id", "==", ["1"]⟩
    let q : Params := ⟨[.text "1"]⟩
    let s := "select * from orders o where o.tenant = 7 order by id=$1"
    cfg.predicate (some f) ⟨[]⟩ = .ok "order by id=$1" q ∧ cfg.orderBy [] none q = .ok {} q ∧
      cfg.query ⟨some f, [], none⟩ ⟨[]⟩ = .ok s q ∧ s ≠ cfg.introduced (cfg.combine "order by id=$1" {}) := by
  intro cfg f q s
  dsimp only [cfg, f, q, s]
  exact ⟨rfl, rfl, rfl, by decide⟩

/-- Users with few points, in the order of their names. -/
theorem query_joined_users :
    let r : Request := ⟨some (.comparison ⟨"points", "<", ["10"]⟩), [⟨"name", .asc⟩], none⟩
    let order : OrderBy := { list := "u.name" }
    let q : Params := ⟨[.number (.int 10)]⟩
    let s := "select * from users u WHERE points<$1 ORDER BY u.name"
    users.query r ⟨[]⟩ = .ok s q ∧ users.predicate r.filter ⟨[]⟩ = .ok "points<$1" q ∧
      users.orderBy r.sort r.cursor q = .ok order q ∧ ¬ ReadsAsOrder "points<$1" order ∧
      s = users.introduced (users.combine "points<$1" order) := by
  intro r order q s
  have h : users.query r ⟨[]⟩ = .ok s q := by
    dsimp only [r, s, q]
    rfl
  have hp : users.predicate r.filter ⟨[]⟩ = .ok "points<$1" q := rfl
  have ho : users.orderBy r.sort r.cursor q = .ok order q := rfl
  have hn : ¬ ReadsAsOrder "points<$1" order := by
    dsimp only [order]
    decide +kernel
  obtain ⟨t, o, v, ht, hv, -, -, hj, -⟩ := query_joined h
  cases hp.symm.trans ht
  cases ho.symm.trans hv
  refine ⟨h, hp, ho, hn, ?_⟩
  rw [hj (.inl (by decide)), if_neg hn]

end Config
end Listing
