/-! Sets of characters, given by ranges of code points. -/
namespace Listing.Text

/-- Each pair is the first and the last code point of a range. -/
abbrev Ranges := List (Nat × Nat)

def Ranges.has (r : Ranges) (c : Char) : Bool :=
  r.any fun p => p.1 ≤ c.toNat && c.toNat ≤ p.2

/-- No range of the one set reaches into a range of the other. -/
def Ranges.apart (r s : Ranges) : Bool := r.all fun p => s.all fun q => p.2 < q.1 || q.2 < p.1

theorem Ranges.has_eq_false_of_apart {r s : Ranges} {c : Char} (h : r.apart s = true) (hc : r.has c = true) :
    s.has c = false := by
  obtain ⟨p, hp, hc⟩ := List.any_eq_true.mp hc
  refine List.any_eq_false.mpr fun q hq => ?_
  have hpq := List.all_eq_true.mp (List.all_eq_true.mp h p hp) q hq
  simp only [Bool.and_eq_true, Bool.or_eq_true, decide_eq_true_eq] at hc hpq ⊢
  omega

end Listing.Text
