import Listing.Plugin.Registry
import Listing.Proofs.Stock
import Mathlib.Data.List.Pairwise

/-! Registration of plugins. A registry grows only by plugins whose tokens are well formed and taken by
no other, so that at most one plugin handles an operator, whatever was registered or refused in between.
What it finds for an operator does not depend on the order of registration either. -/
namespace Listing

namespace Text

lemma sameIgnoringCase_iff {a b : String} :
    sameIgnoringCase a b = true ↔ a.toList.map Char.toLower = b.toList.map Char.toLower := beq_iff_eq

lemma sameIgnoringCase_comm (a b : String) : sameIgnoringCase a b = sameIgnoringCase b a := by
  rw [Bool.eq_iff_iff, sameIgnoringCase_iff, sameIgnoringCase_iff]
  exact eq_comm

/-- Two texts that are the same as a third are the same. -/
lemma sameIgnoringCase_of_same {a b c : String} (ha : sameIgnoringCase a c = true)
    (hb : sameIgnoringCase b c = true) : sameIgnoringCase a b = true := by
  rw [sameIgnoringCase_iff] at *
  exact ha.trans hb.symm

end Text

namespace Operator

/-- The tokens that a plugin may have: those of the built-in operators, in their own case, and texts of
three bytes at least with an equality sign at either end. -/
def IsToken (token : String) : Prop :=
  (∃ op : Operator, token ∈ op.spellings) ∨
    3 ≤ token.utf8ByteSize ∧ token.toList.head? = some '=' ∧ token.toList.getLast? = some '='

end Operator

namespace Registry

/-- The condition for a plugin with this token to be registered. -/
structure Admits (r : Registry) (token : String) : Prop where
  isToken : Operator.IsToken token
  free : ∀ t ∈ r.tokens, Text.sameIgnoringCase t token = false

/-- The tokens are such as plugins may have, and no two are the same but for their case. -/
structure Valid (r : Registry) : Prop where
  isToken : ∀ t ∈ r.tokens, Operator.IsToken t
  apart : r.tokens.Pairwise fun s t => Text.sameIgnoringCase s t = false

/-- What is wrong with a token that is not admitted. -/
def refusal (token : String) : Error :=
  if isWellFormed token then .duplicatePlugin token else .invalidPluginOperator token

/-- The registry that a registration leaves, be the plugin taken or refused. -/
def step (r : Registry) (p : Plugin) : Registry :=
  match add p r with
  | .ok _ s => s
  | .error _ s => s

/-- The registry after registrations one after another, some of which may have been refused. -/
def after (ps : List Plugin) : Registry := ps.foldl step ∅

variable {r s : Registry} {p : Plugin} {ps qs : List Plugin} {token : String}

lemma isWellFormed_iff : isWellFormed token = true ↔ Operator.IsToken token := by
  simp [isWellFormed, isEnclosed, Operator.IsToken, Operator.isKnown_iff, and_assoc]

lemma handles_iff : r.handles token = true ↔ ∃ t ∈ r.tokens, Text.sameIgnoringCase t token = true := by
  simp [handles, find?, tokens, Plugin.handles]

/-! ### One registration -/

lemma add_run (p : Plugin) (r : Registry) : add p r =
    if !isWellFormed p.token then .error (.invalidPluginOperator p.token) r
    else if r.handles p.token then .error (.duplicatePlugin p.token) r
    else .ok () ⟨r.plugins ++ [p]⟩ := by
  unfold add
  cases isWellFormed p.token with
  | false => rfl
  | true =>
    change (if r.handles p.token = true then _ else _ : EStateM Error Registry Unit) r = _
    cases r.handles p.token <;> rfl

/-- All that a registration can do: take the plugin, or tell what is wrong with its token. -/
theorem add_cases (p : Plugin) (r : Registry) :
    r.Admits p.token ∧ add p r = .ok () ⟨r.plugins ++ [p]⟩ ∨
      ¬ r.Admits p.token ∧ add p r = .error (refusal p.token) r := by
  cases hw : isWellFormed p.token with
  | false =>
    have ht : ¬ Operator.IsToken p.token := by simp [← isWellFormed_iff, hw]
    exact .inr ⟨fun ha => ht ha.isToken, by simp [add_run, refusal, hw]⟩
  | true =>
    cases hh : r.handles p.token with
    | false =>
      have hf := (not_congr handles_iff).mp (Bool.eq_false_iff.mp hh)
      exact .inl ⟨⟨isWellFormed_iff.mp hw, by simpa using hf⟩, by simp [add_run, hw, hh]⟩
    | true =>
      obtain ⟨t, hm, hs⟩ := handles_iff.mp hh
      refine .inr ⟨fun ha => ?_, by simp [add_run, refusal, hw, hh]⟩
      simpa [hs] using ha.free t hm

lemma step_cases (r : Registry) (p : Plugin) :
    r.Admits p.token ∧ r.step p = ⟨r.plugins ++ [p]⟩ ∨ ¬ r.Admits p.token ∧ r.step p = r :=
  (add_cases p r).imp (.imp_right fun h => by simp [step, h]) (.imp_right fun h => by simp [step, h])

lemma add_eq_ok_iff : add p r = .ok () s ↔ r.Admits p.token ∧ s = ⟨r.plugins ++ [p]⟩ := by
  rcases add_cases p r with ⟨ha, h⟩ | ⟨hn, h⟩
  · simp [h, ha, eq_comm]
  · simp [h, hn]

lemma eq_of_add_eq_error {e : Error} (h : add p r = .error e s) : s = r := by
  rcases add_cases p r with ⟨-, ha⟩ | ⟨-, ha⟩
  · nomatch ha.symm.trans h
  · cases ha.symm.trans h
    rfl

lemma register_eq_ok_iff : r.register p = .ok s ↔ r.Admits p.token ∧ s = ⟨r.plugins ++ [p]⟩ := by
  rcases add_cases p r with ⟨ha, h⟩ | ⟨hn, h⟩
  · simp [register, h, ha, eq_comm]
  · simp [register, h, hn]

lemma step_of_register (h : r.register p = .ok s) : r.step p = s := by
  obtain ⟨ha, rfl⟩ := register_eq_ok_iff.mp h
  rcases step_cases r p with ⟨-, hs⟩ | ⟨hn, -⟩
  · exact hs
  · exact absurd ha hn

/-! ### Registrations one after another -/

lemma valid_append_singleton_iff :
    (⟨ps ++ [p]⟩ : Registry).Valid ↔ (⟨ps⟩ : Registry).Valid ∧ (⟨ps⟩ : Registry).Admits p.token := by
  constructor
  · rintro ⟨ht, ha⟩
    simp only [tokens, List.map_append, List.pairwise_append] at ha
    exact ⟨⟨fun t hm => ht t (by simp_all [tokens]), ha.1⟩,
      ⟨ht _ (by simp [tokens]), fun t hm => ha.2.2 t hm _ (.head _)⟩⟩
  · rintro ⟨⟨ht, ha⟩, hp, hf⟩
    refine ⟨fun t hm => ?_, ?_⟩
    · simp only [tokens, List.map_append, List.mem_append] at hm
      rcases hm with hm | hm
      · exact ht t hm
      · simp only [List.map_cons, List.map_nil, List.mem_singleton] at hm
        exact hm ▸ hp
    · simp only [tokens, List.map_append, List.pairwise_append]
      exact ⟨ha, List.pairwise_singleton _ _, fun t hm u hu => by
        cases List.mem_singleton.mp hu
        exact hf t hm⟩

lemma Valid.of_append (h : (⟨ps ++ qs⟩ : Registry).Valid) : (⟨ps⟩ : Registry).Valid where
  isToken t hm := h.isToken t (by simp_all [tokens])
  apart := h.apart.sublist ((List.sublist_append_left ps qs).map _)

lemma Valid.perm (h : (⟨ps⟩ : Registry).Valid) (hp : ps.Perm qs) : (⟨qs⟩ : Registry).Valid where
  isToken t hm := h.isToken t ((hp.map _).mem_iff.mpr hm)
  apart := by
    refine ((hp.map Plugin.token).pairwise_iff fun {s t} hs => ?_).mp h.apart
    rw [Text.sameIgnoringCase_comm, hs]

theorem Valid.step (h : r.Valid) (p : Plugin) : (r.step p).Valid := by
  rcases step_cases r p with ⟨ha, hs⟩ | ⟨-, hs⟩
  · rw [hs]
    exact valid_append_singleton_iff.mpr ⟨h, ha⟩
  · rwa [hs]

lemma valid_empty : (∅ : Registry).Valid := ⟨fun _ hm => (nomatch hm), .nil⟩

theorem valid_after (ps : List Plugin) : (after ps).Valid := by
  have hrun : ∀ r : Registry, r.Valid → (ps.foldl Registry.step r).Valid := by
    induction ps with
    | nil => exact fun r h => h
    | cons p ps ih => exact fun r h => ih _ (h.step p)
  exact hrun ∅ valid_empty

/-- Plugins that register one after another without a refusal are those with apart tokens. -/
theorem foldlM_register_eq_ok_iff (h : r.Valid) :
    ps.foldlM register r = .ok s ↔ s = ⟨r.plugins ++ ps⟩ ∧ s.Valid := by
  induction ps generalizing r with
  | nil =>
    simp only [List.foldlM_nil, pure, Except.pure, Except.ok.injEq, List.append_nil]
    exact ⟨fun hs => ⟨hs.symm, hs ▸ h⟩, fun hs => hs.1.symm⟩
  | cons p ps ih =>
    rw [List.foldlM_cons]
    cases hr : r.register p with
    | ok t =>
      obtain ⟨ha, rfl⟩ := register_eq_ok_iff.mp hr
      have hb := ih (valid_append_singleton_iff.mpr ⟨h, ha⟩)
      simpa [bind, Except.bind] using hb
    | error e =>
      refine iff_of_false (fun hs => nomatch hs) ?_
      rintro ⟨rfl, hv⟩
      rw [List.append_cons] at hv
      have ha := (valid_append_singleton_iff.mp hv.of_append).2
      rw [register_eq_ok_iff.mpr ⟨ha, rfl⟩] at hr
      nomatch hr

lemma ofList_eq_ok_iff : ofList ps = .ok s ↔ s = ⟨ps⟩ ∧ s.Valid :=
  foldlM_register_eq_ok_iff valid_empty

/-- Registrations that all succeed are what registrations one after another come to. -/
lemma after_of_ofList (h : ofList ps = .ok s) : after ps = s := by
  have hrun : ∀ r : Registry, ps.foldlM register r = .ok s → ps.foldl Registry.step r = s := by
    clear h
    induction ps with
    | nil => exact fun r h => Except.ok.inj h
    | cons p ps ih =>
      intro r h
      cases ha : r.register p with
      | ok t =>
        simp only [List.foldlM_cons, ha, bind, Except.bind] at h
        rw [List.foldl_cons, step_of_register ha]
        exact ih t h
      | error e =>
        rw [List.foldlM_cons, ha] at h
        nomatch h
  exact hrun ∅ h

/-! ### What is found -/

/-- No other plugin handles an operator than the one that is found for it. -/
theorem Valid.filter_handles (h : r.Valid) (hf : r.find? token = some p) :
    r.plugins.filter (·.handles token) = [p] := by
  have hh : (r.plugins.filter (·.handles token)).head? = some p := by rw [List.head?_filter]; exact hf
  have ha : (r.plugins.filter (·.handles token)).Pairwise fun p q =>
      Text.sameIgnoringCase p.token q.token = false := (List.pairwise_map.mp h.apart).filter _
  cases hl : r.plugins.filter (·.handles token) with
  | nil => simp [hl] at hh
  | cons q qs =>
    cases qs with
    | nil => simpa [hl] using hh
    | cons u us =>
      have hm (p : Plugin) (hp : p ∈ q :: u :: us) : p.handles token = true := by
        rw [← hl] at hp
        exact (List.mem_filter.mp hp).2
      rw [hl] at ha
      have hn := (List.pairwise_cons.mp ha).1 u (.head _)
      rw [Text.sameIgnoringCase_of_same (hm q (.head _)) (hm u (.tail _ (.head _)))] at hn
      nomatch hn

lemma Valid.find?_eq_some_iff (h : r.Valid) :
    r.find? token = some p ↔ p ∈ r.plugins ∧ p.handles token = true := by
  refine ⟨handles_of_find?_eq_some, fun ⟨hm, hh⟩ => ?_⟩
  obtain ⟨q, hq⟩ : ∃ q, r.find? token = some q :=
    Option.isSome_iff_exists.mp (List.find?_isSome.mpr ⟨p, hm, hh⟩)
  have hp : p ∈ r.plugins.filter (·.handles token) := List.mem_filter.mpr ⟨hm, hh⟩
  rw [h.filter_handles hq] at hp
  rw [List.mem_singleton.mp hp]
  exact hq

lemma Valid.find?_perm (h : (⟨ps⟩ : Registry).Valid) (hp : ps.Perm qs) (token : String) :
    find? ⟨qs⟩ token = find? ⟨ps⟩ token := by
  ext p
  rw [h.find?_eq_some_iff, (h.perm hp).find?_eq_some_iff, hp.mem_iff]

lemma exists_find?_iff : (∃ p, r.find? token = some p) ↔
    ∃ t ∈ r.tokens, Text.sameIgnoringCase t token = true := by
  rw [← handles_iff, handles, Option.isSome_iff_exists]

/-- After any registrations, some of which may have been refused, the tokens are well formed and apart. The
next plugin is taken exactly if its token is so too, and refused without a trace if not. An operator is
handled exactly if its token is there, and then by one plugin alone. If all plugins were taken, then all
are in any other order, and the same one is found for each operator. -/
theorem handled_once (ps : List Plugin) :
    let r := after ps
    r.Valid ∧
      (∀ p, ((∃ s, add p r = .ok () s) ↔ r.Admits p.token) ∧
        (∀ s, add p r = .ok () s → s = ⟨r.plugins ++ [p]⟩) ∧ ∀ e s, add p r = .error e s → s = r) ∧
      (∀ token, ((∃ p, r.find? token = some p) ↔ ∃ t ∈ r.tokens, Text.sameIgnoringCase t token = true) ∧
        ∀ p, r.find? token = some p → r.plugins.filter (·.handles token) = [p]) ∧
      ∀ s, ofList ps = .ok s → s = r ∧ ∀ qs, ps.Perm qs →
        ∃ t, ofList qs = .ok t ∧ ∀ token, t.find? token = s.find? token := by
  intro r
  have hv := valid_after ps
  refine ⟨hv, fun p => ⟨by simp [add_eq_ok_iff], fun s hs => (add_eq_ok_iff.mp hs).2,
    fun e s => eq_of_add_eq_error⟩, fun token => ⟨exists_find?_iff, fun p => hv.filter_handles⟩,
    fun s hs => ⟨(after_of_ofList hs).symm, fun qs hp => ?_⟩⟩
  obtain ⟨rfl, hs⟩ := ofList_eq_ok_iff.mp hs
  exact ⟨⟨qs⟩, ofList_eq_ok_iff.mpr ⟨rfl, hs.perm hp⟩, hs.find?_perm hp⟩

/-- Three plugins, the last of which asks for the token of the first in capital letters. -/
theorem handled_once_stock :
    let shared : Plugin := ⟨"<", false, fun _ => .ok (), fun c => pure c.column⟩
    let shouting : Plugin := ⟨"=IN=", false, fun _ => .ok (), fun c => pure c.column⟩
    let r := after [Plugin.Stock.anyOf.plugin, shared, shouting]
    r.tokens = ["=in=", "<"] ∧ (¬ ∃ s, add shouting r = .ok () s) ∧
      (∃ s, add Plugin.Stock.isNull.plugin r = .ok () s) ∧
      (∃ p, r.find? "=In=" = some p ∧ r.plugins.filter (·.handles "=In=") = [p]) ∧
      ∃ s t, ofList [Plugin.Stock.anyOf.plugin, shared] = .ok s ∧
        ofList [shared, Plugin.Stock.anyOf.plugin] = .ok t ∧ ∀ token, t.find? token = s.find? token := by
  intro shared shouting r
  obtain ⟨-, ha, hf, -⟩ := handled_once [Plugin.Stock.anyOf.plugin, shared, shouting]
  obtain ⟨-, -, -, ho⟩ := handled_once [Plugin.Stock.anyOf.plugin, shared]
  have hr : r.tokens = ["=in=", "<"] := by
    dsimp only [r, shared, shouting]
    rfl
  have hm : "=in=" ∈ r.tokens := hr ▸ .head _
  refine ⟨hr, fun h => ?_, (ha _).1.mpr ⟨.inr (by decide), ?_⟩, ?_, ?_⟩
  · have hs := ((ha shouting).1.mp h).free "=in=" hm
    revert hs
    decide
  · rw [hr]
    decide
  · obtain ⟨p, hp⟩ := (hf "=In=").1.mpr ⟨"=in=", hm, by decide⟩
    exact ⟨p, hp, (hf "=In=").2 p hp⟩
  · have hs : ofList [Plugin.Stock.anyOf.plugin, shared] = .ok ⟨[Plugin.Stock.anyOf.plugin, shared]⟩ := by
      dsimp only [shared]
      rfl
    obtain ⟨t, ht, he⟩ := (ho _ hs).2 [shared, Plugin.Stock.anyOf.plugin] (.swap ..)
    exact ⟨_, t, hs, ht, he⟩

end Registry
end Listing
