import Listing.Proofs.Frame
import Listing.Proofs.Joining
import Listing.Proofs.Squeezing

/-! How SQL is spelled does not matter. Formats change the case of keywords and the space around symbols;
they change neither whether a request is refused, nor why, nor what it binds, nor any letter of its text.
The one place where text is looked at is where a fragment is joined to the base query. It decides alike
under all formats, as what follows a column can neither begin an order nor go on with one. -/
namespace Listing
open Text (folded squeezed)

/-! ### Words and symbols -/

@[simp] lemma Format.folded_keyword (fmt : Format) (k : Keyword) :
    folded (fmt.keyword k) = k.lower.toList := by
  unfold keyword
  split <;> cases k <;> decide +kernel

@[simp] lemma Format.squeezed_keyword (fmt : Format) (k : Keyword) :
    squeezed (fmt.keyword k) = k.lower.toList.filter (· ≠ ' ') := by
  rw [squeezed, folded_keyword]

@[simp] lemma Format.squeezed_symbol (fmt : Format) (s : String) : squeezed (fmt.symbol s) = squeezed s := by
  have hb : squeezed " " = [] := rfl
  unfold symbol
  split <;> simp [hb]

lemma Operator.squeezed_sign (op : Operator) (fmt fmt' : Format) (wildcard : Bool) :
    squeezed (op.sign fmt wildcard) = squeezed (op.sign fmt' wildcard) := by
  cases op with
  | eq | ne => cases wildcard <;> simp [sign]
  | _ => simp [sign]

lemma Plugin.Stock.squeezed_text (s : Stock) {c d : Call} (hc : c.column = d.column)
    (ho : c.comparison = d.comparison) (n : Nat) : squeezed (s.text c n) = squeezed (s.text d n) := by
  cases s with
  | anyOf | noneOf => simp [text, hc]
  | isNull =>
    simp only [text, nullTest, hc, ho]
    split <;> simp
  | isEmpty => simp only [text, emptyTest, hc, ho]
  | isNullOrEmpty =>
    simp only [text, nullOrEmptyTest, nullTest, emptyTest, hc, ho]
    split <;> simp

lemma Connective.squeezed_wrap (k : Connective) (fmt fmt' : Format) {parts parts' : List String}
    (h : parts.map squeezed = parts'.map squeezed) :
    squeezed (k.wrap fmt parts) = squeezed (k.wrap fmt' parts') := by
  cases k <;> simp [wrap, Text.squeezed_intercalate, Text.squeezed_join, h]

namespace Phrasing
variable {φ ψ : Phrasing} {fmt fmt' : Format}

mutual

theorem squeezed_render (hv : φ.values = ψ.values) (ht : ∀ n c, squeezed (φ.text n c) = squeezed (ψ.text n c))
    (n : Nat) : (f : Filter) → squeezed (φ.render fmt n f) = squeezed (ψ.render fmt' n f)
  | .comparison c => ht n c
  | .group k os => k.squeezed_wrap fmt fmt' (squeezed_renderAll hv ht n os)

theorem squeezed_renderAll (hv : φ.values = ψ.values)
    (ht : ∀ n c, squeezed (φ.text n c) = squeezed (ψ.text n c)) (n : Nat) : (os : List Operand) →
    (φ.renderAll fmt n os).map squeezed = (ψ.renderAll fmt' n os).map squeezed
  | [] => rfl
  | .stray _ :: os => squeezed_renderAll hv ht n os
  | .filter f :: os => by
    have hw : φ.valuesOf f = ψ.valuesOf f := by rw [valuesOf, valuesOf, hv]
    simp only [renderAll, List.map_cons, hw]
    rw [squeezed_render hv ht n f, squeezed_renderAll hv ht _ os]

end

end Phrasing

namespace Config
variable {cfg : Config} {fmt : Format}

def withFormat (cfg : Config) (fmt : Format) : Config := { cfg with format := fmt }

/-! ### What a request binds, or why it is refused -/

lemma validate_withFormat (f : Filter) : (cfg.withFormat fmt).validate f = cfg.validate f :=
  validate_congr fun _ _ => rfl

lemma inspect_withFormat (f : Filter) : (cfg.withFormat fmt).inspect f = cfg.inspect f := by
  induction f using Filter.induction with
  | comparison c => rfl
  | group k os ih =>
    cases k with
    | and | or =>
      simp only [inspect, inspectAll_eq_checkAll]
      exact Operand.checkAll_congr ih
    | not =>
      rcases os with _ | ⟨o, _ | ⟨o₂, os⟩⟩
      · rfl
      · cases o with
        | stray s => rfl
        | filter f => simp only [inspect, validate_withFormat, ih f (.head _)]
      · simp [inspect]

lemma values_withFormat : (cfg.withFormat fmt).phrasing.values = cfg.phrasing.values := rfl

lemma width_withFormat (f : Option Filter) : (cfg.withFormat fmt).width f = cfg.width f := rfl

lemma requestValues_withFormat (r : Request) :
    (cfg.withFormat fmt).requestValues r = cfg.requestValues r := by
  have hf : (cfg.withFormat fmt).filterValues r.filter = cfg.filterValues r.filter := by
    cases r.filter with
    | none => rfl
    | some f =>
      simp only [filterValues, validate_withFormat, inspect_withFormat]
      rfl
  simp only [requestValues, hf]
  rfl

/-! ### Parts of the text -/

lemma squeezed_text (n : Nat) (c : Comparison) :
    squeezed ((cfg.withFormat fmt).phrasing.text n c) = squeezed (cfg.phrasing.text n c) := by
  have hs : (cfg.withFormat fmt).stock? c = cfg.stock? c := rfl
  simp only [phrasing, hs]
  cases cfg.stock? c with
  | some s => exact s.squeezed_text (c := (cfg.withFormat fmt).call c) (d := cfg.call c) rfl rfl n
  | none =>
    simp only [builtIn, builtInText]
    cases Operator.parse? c.operator with
    | none => rfl
    | some op =>
      simp only [Option.map_some, Option.getD_some, Text.squeezed_append,
        op.squeezed_sign (cfg.withFormat fmt).format cfg.format]
      rfl

lemma squeezed_predicateAfter (n : Nat) (f : Option Filter) :
    squeezed ((cfg.withFormat fmt).predicateAfter n f) = squeezed (cfg.predicateAfter n f) := by
  cases f with
  | none => rfl
  | some f => exact Phrasing.squeezed_render values_withFormat squeezed_text n f

lemma folded_sortList (keys : List SortKey) :
    folded ((cfg.withFormat fmt).sortList keys) = folded (cfg.sortList keys) := by
  have hk (k : SortKey) : folded ((cfg.withFormat fmt).sortText k) = folded (cfg.sortText k) := by
    unfold sortText
    cases k.direction with
    | asc => rfl
    | desc =>
      simp only [Text.folded_append, Format.folded_keyword]
      rfl
  simp only [sortList, Text.folded_intercalate, List.map_map, Function.comp_def, hk]

lemma squeezed_seekAfter (n : Nat) (keys : List SortKey) :
    squeezed ((cfg.withFormat fmt).seekAfter n keys) = squeezed (cfg.seekAfter n keys) := by
  cases keys with
  | nil => rfl
  | cons k ks =>
    simp only [seekAfter, seekText, Text.squeezed_append, Format.squeezed_symbol]
    rfl

/-- Two orders that differ by their format only. -/
structure Respelled (order order' : OrderBy) : Prop where
  list : folded order.list = folded order'.list
  seek : squeezed order.seek = squeezed order'.seek
  left : order.seek = "" ∨ ∃ s, order.seek = "(" ++ s
  right : order'.seek = "" ∨ ∃ s, order'.seek = "(" ++ s

lemma orderAfter_respelled (cfg : Config) (fmt : Format) (n : Nat) (keys : List SortKey)
    (cursor : Option String) :
    Respelled ((cfg.withFormat fmt).orderAfter n keys cursor) (cfg.orderAfter n keys cursor) where
  list := folded_sortList keys
  seek := by
    simp only [orderAfter]
    split
    · exact squeezed_seekAfter n keys
    · rfl
  left := seek_orderAfter (cfg.withFormat fmt) n keys cursor
  right := seek_orderAfter cfg n keys cursor

namespace Respelled
variable {order order' : OrderBy}

lemma list_eq_empty_iff (h : Respelled order order') : order.list = "" ↔ order'.list = "" :=
  Text.eq_empty_iff_of_folded h.list

lemma seek_eq_empty_iff (h : Respelled order order') : order.seek = "" ↔ order'.seek = "" := by
  have hn {s : String} (hp : s = "" ∨ ∃ t, s = "(" ++ t) : s = "" ↔ squeezed s = [] := by
    rcases hp with rfl | ⟨t, rfl⟩
    · exact iff_of_true rfl rfl
    · refine iff_of_false (ne_empty_of_paren rfl) ?_
      rw [Text.squeezed_append]
      exact fun h => nomatch (List.append_eq_nil_iff.mp h).1
  rw [hn h.left, hn h.right, h.seek]

end Respelled

/-! ### Where a text breaks off -/

/-- A character that is no white space, and that is not in the words of an order. -/
def isForeign (d : Char) : Bool := !Text.isBlank d && !"order by".toList.contains d.toLower

/-- A text that starts no order, and that goes on with none: its first character, or the one behind a
space, is foreign to orders. -/
def breaksOff (s : String) : Bool :=
  match s.toList with
  | ' ' :: d :: _ => isForeign d
  | d :: _ => isForeign d
  | [] => false

/-- Two texts that are the same up to where both break off. -/
def BeginAlike (s t : String) : Prop :=
  ∃ lead u v, s = lead ++ u ∧ t = lead ++ v ∧ breaksOff u = true ∧ breaksOff v = true

lemma isForeign_iff {d : Char} :
    isForeign d = true ↔ Text.isBlank d = false ∧ d.toLower ∉ "order by".toList := by
  simp only [isForeign, Bool.and_eq_true, Bool.not_eq_true', List.contains_eq_mem, decide_eq_false_iff_not]

lemma breaksOff_iff {s : String} :
    breaksOff s = true ↔ ∃ d ds, isForeign d = true ∧ (s.toList = d :: ds ∨ s.toList = ' ' :: d :: ds) := by
  unfold breaksOff
  constructor
  · intro h
    split at h
    · rename_i d ds hs
      exact ⟨d, ds, h, .inr hs⟩
    · rename_i d ds _ hs
      exact ⟨d, ds, h, .inl hs⟩
    · nomatch h
  · rintro ⟨d, ds, hd, hs | hs⟩
    · rw [hs]
      split
      · rename_i he
        cases he
        nomatch hd
      · rename_i he
        cases he
        exact hd
      · rename_i he
        nomatch he
    · rw [hs]
      exact hd

lemma breaksOff_append {s : String} (h : breaksOff s = true) (t : String) : breaksOff (s ++ t) = true := by
  obtain ⟨d, ds, hd, hs⟩ := breaksOff_iff.mp h
  refine breaksOff_iff.mpr ⟨d, ds ++ t.toList, hd, ?_⟩
  rcases hs with hs | hs
  · exact .inl (by simp [hs])
  · exact .inr (by simp [hs])

lemma startsWithOrderBy_append_foreign {d : Char} (hd : isForeign d = true) (cs ds : List Char) :
    startsWithOrderBy (.ofList (cs ++ d :: ds)) = startsWithOrderBy (.ofList cs) := by
  refine startsWithOrderBy_append_eq fun hl => ?_
  rw [← Bool.not_eq_true]
  intro h
  have hm := getElem?_of_startsWithOrderBy h hl
  rw [List.getElem?_append_right (by omega), Nat.sub_self] at hm
  exact (isForeign_iff.mp hd).2 (List.mem_of_getElem? hm.symm)

lemma startsWithOrderBy_append_of_breaksOff {t : String} (ht : breaksOff t = true) (cs : List Char) :
    startsWithOrderBy (.ofList (cs ++ t.toList)) = startsWithOrderBy (.ofList cs) := by
  obtain ⟨d, ds, hd, hs | hs⟩ := breaksOff_iff.mp ht
  · rw [hs, startsWithOrderBy_append_foreign hd]
  · rw [hs, startsWithOrderBy_append fun he => (isForeign_iff.mp hd).2 (he ▸ by decide)]

/-- An order that the whole text could read as stands before the point where it breaks off. -/
lemma readsAsOrder_append_iff {lead t : String} {order : OrderBy} (ht : breaksOff t = true) :
    ReadsAsOrder (lead ++ t) order ↔ order.seek = "" ∧ startsWithOrderBy
      (if order.list = "" then lead else .ofList (Text.skipBlanks lead.toList)) = true := by
  obtain ⟨d, ds, hd, hs⟩ := breaksOff_iff.mp ht
  obtain ⟨hb, -⟩ := isForeign_iff.mp hd
  have hc := startsWithOrderBy_append_of_breaksOff ht
  have hk : Text.skipBlanks t.toList = d :: ds := by
    rcases hs with hs | hs
    · rw [hs, Text.skipBlanks, List.dropWhile_cons_of_neg (by simp [hb])]
    · rw [hs, Text.skipBlanks, List.dropWhile_cons_of_pos (by decide),
        List.dropWhile_cons_of_neg (by simp [hb])]
  have hl : (lead ++ t).toList = lead.toList ++ t.toList := by simp
  refine and_congr_right fun _ => ?_
  split
  · rw [← String.ofList_toList (s := lead ++ t), hl, hc, String.ofList_toList]
  · rw [hl, Text.skipBlanks, List.dropWhile_append]
    split
    · -- nothing stands before it, and the character where it breaks off starts no order
      rename_i he
      have hf := startsWithOrderBy_append_foreign hd [] ds
      rw [Text.skipBlanks] at hk
      rw [Text.skipBlanks, hk, List.isEmpty_iff.mp he, or_iff_right (List.cons_ne_nil d ds), ← hf]
      rfl
    · rename_i he
      have hn : lead.toList.dropWhile Text.isBlank ++ t.toList ≠ [] := fun h =>
        he (List.isEmpty_iff.mpr (List.append_eq_nil_iff.mp h).1)
      rw [or_iff_right hn, hc]
      rfl

namespace BeginAlike
variable {s t : String}

lemma of_breaksOff (hs : breaksOff s = true) (ht : breaksOff t = true) : BeginAlike s t :=
  ⟨"", s, t, by simp, by simp, hs, ht⟩

lemma ne_empty (h : BeginAlike s t) : s ≠ "" ∧ t ≠ "" := by
  obtain ⟨lead, u, v, rfl, rfl, hu, hv⟩ := h
  have hn {w : String} (hw : breaksOff w = true) : lead ++ w ≠ "" := by
    intro he
    rw [(String.append_eq_empty_iff.mp he).2] at hw
    nomatch hw
  exact ⟨hn hu, hn hv⟩

lemma readsAsOrder_iff {order order' : OrderBy} (h : BeginAlike s t) (ho : Respelled order order') :
    ReadsAsOrder s order ↔ ReadsAsOrder t order' := by
  obtain ⟨lead, u, v, rfl, rfl, hu, hv⟩ := h
  simp only [readsAsOrder_append_iff hu, readsAsOrder_append_iff hv, ho.seek_eq_empty_iff,
    ho.list_eq_empty_iff]

end BeginAlike

lemma breaksOff_sign (op : Operator) (fmt : Format) (wildcard : Bool) :
    breaksOff (op.sign fmt wildcard) = true := by
  cases op <;> simp only [Operator.sign, Format.keyword, Format.symbol] <;> split_ifs <;> decide +kernel

lemma breaksOff_not (fmt : Format) : breaksOff (fmt.keyword .not) = true := by
  unfold Format.keyword
  split <;> decide +kernel

lemma breaksOff_is (fmt : Format) (s : String) : breaksOff (" " ++ (fmt.keyword .is ++ s)) = true := by
  rw [← String.append_assoc]
  apply breaksOff_append
  unfold Format.keyword
  split <;> decide +kernel

/-- The tests of stock plugins stand behind the column, or have the column inside. -/
lemma beginAlike_stockText (s : Plugin.Stock) {c d : Plugin.Call} (hc : c.column = d.column)
    (ho : c.comparison = d.comparison) (n : Nat) : BeginAlike (s.text c n) (s.text d n) := by
  have hl {u v : String} (hu : breaksOff u = true) (hv : breaksOff v = true) :
      BeginAlike (c.column ++ u) (d.column ++ v) := ⟨c.column, u, v, rfl, by rw [hc], hu, hv⟩
  cases s with
  | anyOf | noneOf =>
    simp only [Plugin.Stock.text, String.append_assoc]
    exact hl (breaksOff_append (by decide) _) (breaksOff_append (by decide) _)
  | isNull =>
    simp only [Plugin.Stock.text, Plugin.nullTest, ho]
    split <;>
    · simp only [String.append_assoc]
      exact hl (breaksOff_is _ _) (breaksOff_is _ _)
  | isEmpty =>
    simp only [Plugin.Stock.text, Plugin.emptyTest, ho]
    split <;> exact hl (by decide) (by decide)
  | isNullOrEmpty =>
    simp only [Plugin.Stock.text, Plugin.nullOrEmptyTest, ho, String.append_assoc]
    split
    · exact .of_breaksOff (breaksOff_append (breaksOff_not _) _) (breaksOff_append (breaksOff_not _) _)
    · exact .of_breaksOff (breaksOff_append (by decide) _) (breaksOff_append (by decide) _)

lemma beginAlike_text (n : Nat) (c : Comparison) :
    BeginAlike ((cfg.withFormat fmt).phrasing.text n c) (cfg.phrasing.text n c) := by
  have hs : (cfg.withFormat fmt).stock? c = cfg.stock? c := rfl
  simp only [phrasing, hs]
  cases cfg.stock? c with
  | some s =>
    exact beginAlike_stockText s (c := (cfg.withFormat fmt).call c) (d := cfg.call c) rfl rfl n
  | none =>
    simp only [builtIn, builtInText, String.append_assoc]
    refine ⟨cfg.resolve c.selector, _, _, rfl, rfl, ?_, ?_⟩ <;>
    cases Operator.parse? c.operator with
    | none =>
      rw [Option.map_none, Option.getD_none, String.empty_append]
      exact breaksOff_append (s := "$") (by decide) _
    | some op => exact breaksOff_append (breaksOff_sign op _ _) _

lemma beginAlike_wrap (k : Connective) (fmt fmt' : Format) (parts parts' : List String) :
    BeginAlike (k.wrap fmt parts) (k.wrap fmt' parts') := by
  cases k with
  | and | or =>
    simp only [Connective.wrap, String.append_assoc]
    exact .of_breaksOff (breaksOff_append (by decide) _) (breaksOff_append (by decide) _)
  | not =>
    simp only [Connective.wrap, String.append_assoc]
    exact .of_breaksOff (breaksOff_append (breaksOff_not _) _) (breaksOff_append (breaksOff_not _) _)

lemma beginAlike_predicateAfter (cfg : Config) (fmt : Format) (n : Nat) (f : Filter) :
    BeginAlike ((cfg.withFormat fmt).predicateAfter n (some f)) (cfg.predicateAfter n (some f)) := by
  cases f with
  | comparison c => exact beginAlike_text n c
  | group k os =>
    simp only [predicateAfter, Phrasing.render]
    exact beginAlike_wrap k _ _ _ _

/-! ### The whole text -/

lemma predicateAfter_eq_empty_iff (cfg : Config) (fmt : Format) (n : Nat) (f : Option Filter) :
    (cfg.withFormat fmt).predicateAfter n f = "" ↔ cfg.predicateAfter n f = "" := by
  cases f with
  | none => rfl
  | some f =>
    obtain ⟨hs, ht⟩ := (beginAlike_predicateAfter cfg fmt n f).ne_empty
    exact iff_of_false hs ht

section Fragment
variable {n : Nat} {f : Option Filter} {order order' : OrderBy} {s t : String}

lemma readsAsOrder_predicateAfter_iff (ho : Respelled order order') :
    ReadsAsOrder ((cfg.withFormat fmt).predicateAfter n f) order ↔
      ReadsAsOrder (cfg.predicateAfter n f) order' := by
  cases f with
  | none => simp only [predicateAfter, ReadsAsOrder, ho.seek_eq_empty_iff, ho.list_eq_empty_iff]
  | some f => exact (beginAlike_predicateAfter cfg fmt n f).readsAsOrder_iff ho

/-- The same parts are missing, and the same is trimmed away. -/
lemma squeezed_combine (hs : squeezed s = squeezed t) (he : s = "" ↔ t = "") (ho : Respelled order order') :
    squeezed ((cfg.withFormat fmt).combine s order) = squeezed (cfg.combine t order') := by
  simp only [combine, OrderBy.isEmpty, String.isEmpty_iff, Bool.and_eq_true, Bool.not_eq_true',
    ← Bool.not_eq_true, he, ho.list_eq_empty_iff, ho.seek_eq_empty_iff]
  split
  · exact hs
  · simp only [Text.squeezed_trim]
    split <;> split <;> simp [hs, ho.seek, Text.squeezed_of_folded ho.list]

lemma combine_eq_empty_iff (cfg : Config) (ho : order.seek = "" ∨ ∃ t, order.seek = "(" ++ t) :
    cfg.combine s order = "" ↔ s = "" ∧ order.seek = "" ∧ order.list = "" := by
  constructor
  · intro h
    by_contra hn
    simp only [not_and_or] at hn
    exact combine_ne_empty ho hn h
  · rintro ⟨hs, hk, hl⟩
    simp [combine, OrderBy.isEmpty, hs, hk, hl]

/-- Fragments of which both are empty or neither, and both are orders or neither, are joined alike. -/
lemma squeezed_join (hs : squeezed s = squeezed t) (he : s = "" ↔ t = "")
    (hw : startsWithOrderBy s = true ↔ startsWithOrderBy t = true) :
    squeezed ((cfg.withFormat fmt).join s) = squeezed (cfg.join t) := by
  simp only [join, String.isEmpty_iff, he, hw]
  split
  · rfl
  · split <;>
    · simp only [Text.squeezed_append, hs, Format.squeezed_keyword]
      rfl

end Fragment

lemma squeezed_query (cfg : Config) (fmt : Format) (n : Nat) (r : Request) :
    squeezed ((cfg.withFormat fmt).join ((cfg.withFormat fmt).fragmentAfter n r)) =
      squeezed (cfg.join (cfg.fragmentAfter n r)) := by
  have ho := orderAfter_respelled cfg fmt (n + cfg.width r.filter) r.sort r.cursor
  have he := predicateAfter_eq_empty_iff cfg fmt n r.filter
  simp only [fragmentAfter, width_withFormat]
  refine squeezed_join (squeezed_combine (squeezed_predicateAfter n r.filter) he ho) ?_ ?_
  · rw [combine_eq_empty_iff _ ho.left, combine_eq_empty_iff _ ho.right, he, ho.seek_eq_empty_iff,
      ho.list_eq_empty_iff]
  · rw [startsWithOrderBy_combine_iff ho.left, startsWithOrderBy_combine_iff ho.right,
      readsAsOrder_predicateAfter_iff ho]

/-- Under another format, a request is refused for the same reason, or binds the same values and has the
same text but for the case of letters and for spaces. -/
theorem query_respelled (hs : cfg.StockOnly) (fmt : Format) (r : Request) (p : Params) :
    Binding.Related (fun s t => squeezed s = squeezed t) ((cfg.withFormat fmt).query r p) (cfg.query r p) := by
  have hf : (cfg.withFormat fmt).StockOnly := hs
  have hq := query_computes hf r
  rw [requestValues_withFormat] at hq
  refine hq.related (query_computes hs r) (fun n => ?_) p
  exact squeezed_query cfg fmt n r

/-- The users in capitals, and again in small letters with spaces around symbols. -/
theorem query_respelled_users :
    let cfg := { users with plugins := ⟨[Plugin.Stock.anyOf.plugin, Plugin.Stock.isNull.plugin]⟩ }
    let r : Request := ⟨some (.or [.comparison ⟨"tier", "=in=", ["TIN"]⟩,
      .not (.comparison ⟨"points", ">", ["10"]⟩)]), [⟨"name", .desc⟩], none⟩
    let s := "select * from users u WHERE (u.tier = ANY($1) OR NOT(points>$2)) ORDER BY u.name DESC"
    let t := "select * from users u where (u.tier = any($1) or not(points > $2)) order by u.name desc"
    let q : Params := ⟨[.texts ["TIN"], .number (.int 10)]⟩
    cfg.StockOnly ∧ cfg.query r ⟨[]⟩ = .ok s q ∧ (cfg.withFormat ⟨true, true⟩).query r ⟨[]⟩ = .ok t q ∧
      squeezed t = squeezed s := by
  intro cfg r s t q
  have hs : cfg.StockOnly := by
    intro p hp
    simp only [cfg, List.mem_cons, List.not_mem_nil, or_false] at hp
    rcases hp with rfl | rfl
    · exact ⟨.anyOf, rfl⟩
    · exact ⟨.isNull, rfl⟩
  have hq : cfg.query r ⟨[]⟩ = .ok s q := by
    dsimp only [cfg, r, s, q]
    rfl
  have ht : (cfg.withFormat ⟨true, true⟩).query r ⟨[]⟩ = .ok t q := by
    dsimp only [cfg, r, t, q]
    rfl
  have h := query_respelled hs ⟨true, true⟩ r ⟨[]⟩
  rw [hq, ht] at h
  have he : squeezed t = squeezed s := h.of_ok
  exact ⟨hs, hq, ht, he⟩

end Config
end Listing
