/-! Finite maps from texts, listed in the order of their keys. -/
namespace Listing

/-- Replaces the value at a key, or adds the key in its place. -/
def putEntry {α : Type} (k : String) (a : α) : List (String × α) → List (String × α)
  | [] => [(k, a)]
  | e :: es =>
    if k < e.1 then (k, a) :: e :: es
    else if k = e.1 then (k, a) :: es
    else e :: putEntry k a es

def Ascending {α : Type} (es : List (String × α)) : Prop := es.Pairwise fun a b => a.1 < b.1

theorem mem_putEntry {α : Type} {k : String} {a : α} {es : List (String × α)} {e : String × α}
    (h : e ∈ putEntry k a es) : e = (k, a) ∨ e ∈ es := by
  induction es with
  | nil => simpa [putEntry] using h
  | cons d ds ih =>
    unfold putEntry at h
    split at h
    · simpa using h
    · split at h
      · simp only [List.mem_cons] at h ⊢
        exact h.imp_right .inr
      · simp only [List.mem_cons] at h ⊢
        rcases h with h | h
        · exact .inr (.inl h)
        · exact (ih h).imp_right .inr

theorem Ascending.putEntry {α : Type} {es : List (String × α)} (h : Ascending es) (k : String) (a : α) :
    Ascending (putEntry k a es) := by
  induction es with
  | nil => simp [Ascending, Listing.putEntry]
  | cons d ds ih =>
    obtain ⟨hd, hds⟩ := List.pairwise_cons.1 h
    unfold Listing.putEntry
    split
    · rename_i hk
      refine List.pairwise_cons.2 ⟨fun e he => ?_, h⟩
      rcases List.mem_cons.1 he with rfl | he
      · exact hk
      · exact String.lt_trans hk (hd e he)
    · rename_i hk
      split
      · rename_i he
        exact List.pairwise_cons.2 ⟨fun e hm => by rw [he]; exact hd e hm, hds⟩
      · rename_i he
        refine List.pairwise_cons.2 ⟨fun e hm => ?_, ih hds⟩
        rcases mem_putEntry hm with rfl | hm
        · rcases Std.lt_trichotomy d.1 k with hlt | heq | hgt
          · exact hlt
          · exact absurd heq.symm he
          · exact absurd hgt hk
        · exact hd e hm

theorem lookup_cons_eq {α : Type} (l : String) (e : String × α) (es : List (String × α)) :
    (e :: es).lookup l = if l = e.1 then some e.2 else es.lookup l := by
  obtain ⟨k, a⟩ := e
  by_cases h : l = k
  · simp [h]
  · have hb : (l == k) = false := by simpa using h
    simp [List.lookup_cons, hb, h]

theorem lookup_map {α β : Type} (f : α → β) (es : List (String × α)) (k : String) :
    (es.map fun e => (e.1, f e.2)).lookup k = (es.lookup k).map f := by
  induction es with
  | nil => rfl
  | cons e es ih =>
    rw [List.map_cons, lookup_cons_eq, lookup_cons_eq, ih]
    split <;> rfl

theorem lookup_putEntry {α : Type} (k : String) (a : α) (es : List (String × α)) (l : String) :
    (putEntry k a es).lookup l = if l = k then some a else es.lookup l := by
  induction es with
  | nil => rw [putEntry, lookup_cons_eq]
  | cons e es ih =>
    unfold putEntry
    split
    · rw [lookup_cons_eq]
    · split
      · rename_i hk
        rw [lookup_cons_eq, lookup_cons_eq, ← hk]
        split <;> rfl
      · rename_i hk
        rw [lookup_cons_eq, lookup_cons_eq, ih]
        by_cases h : l = e.1
        · rw [if_pos h, if_neg (fun hl => hk (hl.symm.trans h)), if_pos h]
        · rw [if_neg h, if_neg h]

/-- Where no key has two entries, looking up a key finds its entry. -/
theorem lookup_eq_some_iff_mem {α : Type} {es : List (String × α)} (h : (es.map Prod.fst).Nodup)
    {k : String} {a : α} : es.lookup k = some a ↔ (k, a) ∈ es := by
  induction es with
  | nil => simp
  | cons e es ih =>
    obtain ⟨l, b⟩ := e
    obtain ⟨hl, hes⟩ := List.nodup_cons.1 h
    rw [lookup_cons_eq, List.mem_cons]
    by_cases hk : k = l
    · subst hk
      have hm : (k, a) ∉ es := fun hm => hl (List.mem_map.2 ⟨_, hm, rfl⟩)
      simp [hm, eq_comm]
    · simp [hk, ih hes]

theorem Ascending.nodup_keys {α : Type} {es : List (String × α)} (h : Ascending es) :
    (es.map Prod.fst).Nodup :=
  List.pairwise_map.2 (h.imp String.ne_of_lt)

/-- All entries, each key after the keys below it and the last value given for it. -/
def sortEntries {α : Type} (es : List (String × α)) : List (String × α) :=
  es.foldl (fun acc e => putEntry e.1 e.2 acc) []

theorem Ascending.foldl_putEntry {α : Type} (es : List (String × α)) {acc : List (String × α)}
    (h : Ascending acc) : Ascending (es.foldl (fun acc e => Listing.putEntry e.1 e.2 acc) acc) := by
  induction es generalizing acc with
  | nil => exact h
  | cons e es ih => exact ih (h.putEntry e.1 e.2)

theorem lookup_foldl_putEntry {α : Type} {es : List (String × α)} (h : (es.map Prod.fst).Nodup)
    (acc : List (String × α)) (k : String) :
    (es.foldl (fun acc e => putEntry e.1 e.2 acc) acc).lookup k = (es.lookup k).or (acc.lookup k) := by
  induction es generalizing acc with
  | nil => rfl
  | cons e es ih =>
    obtain ⟨l, a⟩ := e
    obtain ⟨hl, hes⟩ := List.nodup_cons.1 h
    rw [List.foldl_cons, ih hes, lookup_putEntry, lookup_cons_eq]
    by_cases hk : k = l
    · subst hk
      have hn : es.lookup k = none := by
        rw [List.lookup_eq_none_iff]
        intro e he
        exact bne_iff_ne.2 fun hk => hl (List.mem_map.2 ⟨e, he, hk.symm⟩)
      simp [hn]
    · simp [hk]

theorem ascending_sortEntries {α : Type} (es : List (String × α)) : Ascending (sortEntries es) :=
  Ascending.foldl_putEntry es List.Pairwise.nil

structure Dictionary (α : Type) where
  entries : List (String × α)
  ascending : Ascending entries

namespace Dictionary
variable {α : Type}

theorem ext_entries {d e : Dictionary α} (h : d.entries = e.entries) : d = e := by
  cases d; cases e; cases h; rfl

instance [DecidableEq α] : DecidableEq (Dictionary α) := fun d e =>
  decidable_of_iff (d.entries = e.entries) ⟨ext_entries, fun h => by rw [h]⟩

def empty : Dictionary α := ⟨[], List.Pairwise.nil⟩

instance : EmptyCollection (Dictionary α) := ⟨empty⟩
instance : Inhabited (Dictionary α) := ⟨empty⟩

def get? (d : Dictionary α) (k : String) : Option α := d.entries.lookup k

def contains (d : Dictionary α) (k : String) : Bool := (d.get? k).isSome

def insert (d : Dictionary α) (k : String) (a : α) : Dictionary α :=
  ⟨putEntry k a d.entries, d.ascending.putEntry k a⟩

def ofList (es : List (String × α)) : Dictionary α := ⟨sortEntries es, ascending_sortEntries es⟩

/-- A dictionary is what its look-ups are. -/
theorem ext_get? {d e : Dictionary α} (h : ∀ k, d.get? k = e.get? k) : d = e := by
  apply ext_entries
  have nodup (c : Dictionary α) : c.entries.Nodup :=
    c.ascending.imp fun hlt he => String.ne_of_lt hlt (congrArg Prod.fst he)
  have hp : d.entries.Perm e.entries := by
    refine (List.perm_ext_iff_of_nodup (nodup d) (nodup e)).2 fun m => ?_
    rw [← lookup_eq_some_iff_mem d.ascending.nodup_keys, ← lookup_eq_some_iff_mem e.ascending.nodup_keys]
    exact iff_of_eq (congrArg (· = some m.2) (h m.1))
  exact hp.eq_of_pairwise (fun _ _ _ _ hab hba => absurd hab (String.lt_asymm hba)) d.ascending e.ascending

theorem get?_ofList {es : List (String × α)} (h : (es.map Prod.fst).Nodup) (k : String) :
    (ofList es).get? k = es.lookup k := by
  change (sortEntries es).lookup k = _
  rw [sortEntries, lookup_foldl_putEntry h]
  exact Option.or_none

/-- A list that has all entries of a dictionary, each key once, makes this dictionary in any order. -/
theorem ofList_eq {es : List (String × α)} {d : Dictionary α} (h : (es.map Prod.fst).Nodup)
    (hes : ∀ e ∈ es, d.get? e.1 = some e.2) (hd : ∀ k, (d.get? k).isSome → k ∈ es.map Prod.fst) :
    ofList es = d := by
  refine ext_get? fun k => Option.ext fun a => ?_
  rw [get?_ofList h, lookup_eq_some_iff_mem h]
  constructor
  · intro he
    exact hes _ he
  · intro hk
    obtain ⟨e, he, rfl⟩ := List.mem_map.1 (hd k (by simp [hk]))
    cases hk.symm.trans (hes e he)
    exact he

theorem get?_insert (d : Dictionary α) (k : String) (a : α) (l : String) :
    (d.insert k a).get? l = if l = k then some a else d.get? l := lookup_putEntry k a d.entries l

def size (d : Dictionary α) : Nat := d.entries.length

def isEmpty (d : Dictionary α) : Bool := d.entries.isEmpty

end Dictionary
end Listing
