import Listing.Proofs.Placeholders
import Mathlib.Data.List.Forall2
import Mathlib.Order.Lattice

/-! Row values in SQL: comparisons of columns with placeholders, and lists of columns to order rows by. Both
are read from their texts. A column may be any expression, so its text is taken as given; the rest of a text
can then be read in one way only. -/
namespace Listing.Sql
universe u

inductive Sign where
  | less | greater
  deriving DecidableEq, Repr

def Sign.text : Sign → String
  | less => "<"
  | greater => ">"

/-- Columns compared with placeholders, all at once. -/
structure RowComparison where
  columns : List String
  sign : Sign
  places : List Placeholder
  deriving DecidableEq, Repr

/-- A column to order by. -/
structure OrderTerm where
  column : String
  descending : Bool
  deriving DecidableEq, Repr

/-! ### Texts -/

/-- The text says this comparison, with or without blanks around the sign. -/
def RowComparison.Reads (x : RowComparison) (s : String) : Prop :=
  ∃ blank ∈ ["", " "], s = "(" ++ String.intercalate "," x.columns ++ ")"
    ++ (blank ++ x.sign.text ++ blank) ++ "(" ++ String.intercalate "," (x.places.map Placeholder.text) ++ ")"

/-- What may stand behind a column in a list to order by. -/
def endings (descending : Bool) : List String := if descending then [" DESC", " desc"] else [""]

/-- The text says these terms, in their order. -/
def OrderTerm.Reads (ts : List OrderTerm) (s : String) : Prop :=
  ∃ parts, List.Forall₂ (fun t part => ∃ e ∈ endings t.descending, part = t.column ++ e) ts parts ∧
    s = String.intercalate "," parts

lemma places_eq_of_text {ps qs : List Placeholder} (h : String.intercalate "," (ps.map Placeholder.text) =
    String.intercalate "," (qs.map Placeholder.text)) : ps = qs := by
  have hn : ps.map Placeholder.position = qs.map Placeholder.position := by
    rw [← Text.numbers_places, ← Text.numbers_places, h]
  exact List.map_injective_iff.mpr (fun ⟨_⟩ ⟨_⟩ h => congrArg Placeholder.mk h) hn

/-- What stands between two row values is known from the text behind the first. -/
lemma sign_eq_of_text {a b : Sign} {blank blank' x y : String} (hb : blank ∈ ["", " "])
    (hb' : blank' ∈ ["", " "])
    (h : (blank ++ a.text ++ blank) ++ ("(" ++ x) = (blank' ++ b.text ++ blank') ++ ("(" ++ y)) :
    a = b ∧ x = y := by
  have hl := congrArg String.toList h
  simp only [List.mem_cons, List.not_mem_nil, or_false] at hb hb'
  rcases hb with rfl | rfl <;> rcases hb' with rfl | rfl <;> cases a <;> cases b <;>
    simp [Sign.text, String.toList_inj] at hl ⊢ <;> exact hl

/-- With its columns given, a comparison is known from its text. -/
lemma RowComparison.Reads.eq {x y : RowComparison} {s : String} (hx : x.Reads s) (hy : y.Reads s)
    (hc : x.columns = y.columns) : x = y := by
  obtain ⟨blank, hb, rfl⟩ := hx
  obtain ⟨blank', hb', he⟩ := hy
  rw [hc] at he
  simp only [String.append_assoc, String.append_right_inj] at he
  obtain ⟨hs, hp⟩ := sign_eq_of_text (x := String.intercalate "," (x.places.map Placeholder.text) ++ ")")
    hb hb' (by simpa only [String.append_assoc] using he)
  rw [String.append_left_inj] at hp
  obtain ⟨columns, sign, places⟩ := x
  obtain ⟨columns', sign', places'⟩ := y
  cases hc
  cases hs
  cases places_eq_of_text hp
  rfl

/-- A direction ends where what follows does not start with a blank. -/
lemma descending_eq_of_text {a b : Bool} {e e' x y : String} (he : e ∈ endings a) (he' : e' ∈ endings b)
    (hx : x.toList.head? ≠ some ' ') (hy : y.toList.head? ≠ some ' ') (h : e ++ x = e' ++ y) :
    a = b ∧ x = y := by
  have hl := congrArg String.toList h
  cases a <;> cases b <;> simp [endings] at he he' ⊢
  · simpa [he, he'] using h
  · rcases he' with rfl | rfl <;> simp [he] at hl <;> simp [hl] at hx
  · rcases he with rfl | rfl <;> simp [he'] at hl <;> simp [← hl] at hy
  · rcases he with rfl | rfl <;> rcases he' with rfl | rfl <;> simp [String.toList_inj] at hl <;> exact hl

/-- What stands behind the first part. -/
def behind (parts : List String) : String := if parts.isEmpty then "" else "," ++ String.intercalate "," parts

lemma intercalate_cons_eq (part : String) (parts : List String) :
    String.intercalate "," (part :: parts) = part ++ behind parts := by
  cases parts with
  | nil => simp [behind]
  | cons q parts => simp [behind, String.intercalate_cons_cons, String.append_assoc]

lemma intercalate_eq_of_behind {ps qs : List String} (hl : ps.length = qs.length)
    (h : behind ps = behind qs) : String.intercalate "," ps = String.intercalate "," qs := by
  cases ps with
  | nil =>
    cases qs with
    | nil => rfl
    | cons q qs => nomatch hl
  | cons p ps =>
    cases qs with
    | nil => nomatch hl
    | cons q qs => simpa [behind] using h

lemma head?_behind (parts : List String) : (behind parts).toList.head? ≠ some ' ' := by
  cases parts <;> simp [behind]

/-- With its columns given, a list to order by is known from its text. -/
lemma OrderTerm.Reads.eq {ts us : List OrderTerm} {s : String} (ht : Reads ts s) (hu : Reads us s)
    (hc : ts.map column = us.map column) : ts = us := by
  obtain ⟨ps, hp, rfl⟩ := ht
  obtain ⟨qs, hq, he⟩ := hu
  induction hp generalizing us qs with
  | nil => exact (List.map_eq_nil_iff.mp hc.symm).symm
  | @cons t p ts ps h hps ih =>
    obtain ⟨e, hte, rfl⟩ := h
    cases hq with
    | nil => nomatch hc
    | @cons u q us qs h hqs =>
      obtain ⟨e', hue, rfl⟩ := h
      obtain ⟨hcolumn, hcolumns⟩ := List.cons_eq_cons.mp hc
      rw [intercalate_cons_eq, intercalate_cons_eq, hcolumn, String.append_assoc, String.append_assoc,
        String.append_right_inj] at he
      obtain ⟨hd, hb⟩ := descending_eq_of_text hte hue (head?_behind ps) (head?_behind qs) he
      have hl : ps.length = qs.length := by
        rw [← hps.length_eq, ← hqs.length_eq, ← List.length_map OrderTerm.column, hcolumns, List.length_map]
      rw [ih hcolumns _ hqs (intercalate_eq_of_behind hl hb)]
      obtain ⟨column, descending⟩ := t
      cases hcolumn
      cases hd
      rfl

/-! ### Meaning -/

/-- A row of a table, with a value in each column. -/
abbrev Tuple (V : String → Type u) := ∀ column, V column

variable {V : String → Type u} [∀ column, LinearOrder (V column)]

def Sign.Holds {α : Type u} [LinearOrder α] (a b : α) : Sign → Prop
  | less => a < b
  | greater => b < a

/-- The value bound to a placeholder, read as one of the column. -/
def boundValue? (read : ∀ column, String → V column) (bound : Params) (column : String) :
    Placeholder → Option (V column)
  | ⟨0⟩ => none
  | ⟨n + 1⟩ => (bound.values[n]?.bind Value.asText?).map (read column)

/-- Row values are compared column by column: the first in which they differ decides. -/
def Compares (read : ∀ column, String → V column) (bound : Params) (sign : Sign) (r : Tuple V) :
    List String → List Placeholder → Prop
  | column :: columns, place :: places =>
    ∃ v, boundValue? read bound column place = some v ∧
      (sign.Holds (r column) v ∨ r column = v ∧ Compares read bound sign r columns places)
  | _, _ => False

/-- The comparison is true of a row. -/
def RowComparison.Holds (x : RowComparison) (read : ∀ column, String → V column) (bound : Params)
    (r : Tuple V) : Prop := Compares read bound x.sign r x.columns x.places

/-- In this column, the row `r` comes after the row `c`. -/
def OrderTerm.Later (t : OrderTerm) (r c : Tuple V) : Prop :=
  if t.descending then r t.column < c t.column else c t.column < r t.column

/-- In the order of the terms, `r` comes strictly after `c`: it does in the first column in which they
differ. -/
def Follows (r c : Tuple V) : List OrderTerm → Prop
  | [] => False
  | t :: ts => t.Later r c ∨ r t.column = c t.column ∧ Follows r c ts

end Listing.Sql
