import Listing.Json.Parser
import Listing.Json.Printer
import Mathlib.Tactic.Lemma

/-! JSON strings, and lists of them. Whatever a string holds, its escaped text ends where the reader sees the closing
quote. -/
namespace Listing.Json
namespace Parser

/-- The two digits in which a control character is written. -/
lemma unit?_control {n : Nat} (h : n < 32) :
    unit? ['0', '0', Nat.digitChar (n / 16), Nat.digitChar (n % 16)] = some n := by
  revert n
  decide

lemma stringBody_quote (rest : List Char) : stringBody ('"' :: rest) = some ([], rest) := by
  rw [stringBody.eq_def]
  simp

lemma stringBody_plain {c : Char} (hq : c ≠ '"') (hb : c ≠ '\\') (hc : ¬ c.toNat < 32) (rest : List Char) :
    stringBody (c :: rest) = (stringBody rest).map fun p => (c :: p.1, p.2) := by
  rw [stringBody.eq_def]
  simp [hq, hb, hc]

/-- A reader that is at a written character takes this character, and goes on behind it. -/
lemma stringBody_escape (c : Char) (rest : List Char) :
    stringBody (escape c ++ rest) = (stringBody rest).map fun p => (c :: p.1, p.2) := by
  by_cases hs : c ∈ ['"', '\\', '\x08', '\t', '\n', '\x0c', '\r']
  · simp only [List.mem_cons, List.not_mem_nil, or_false] at hs
    rcases hs with rfl | rfl | rfl | rfl | rfl | rfl | rfl <;> simp [escape, stringBody, simpleEscape?]
  · simp only [List.mem_cons, List.not_mem_nil, or_false, not_or] at hs
    obtain ⟨h₁, h₂, h₃, h₄, h₅, h₆, h₇⟩ := hs
    by_cases hc : c.toNat < 32
    · have ht : isTrailing c.toNat = false := by simp [isTrailing]; omega
      have hl : isLeading c.toNat = false := by simp [isLeading]; omega
      simp [escape, h₁, h₂, h₃, h₄, h₅, h₆, h₇, hc, stringBody, unit?_control hc, ht, hl]
    · simp [escape, h₁, h₂, h₃, h₄, h₅, h₆, h₇, hc, stringBody_plain h₁ h₂ hc]

lemma stringBody_quotedBody (cs rest : List Char) :
    stringBody (quotedBody cs ++ rest) = some (cs, rest) := by
  induction cs with
  | nil => simp [quotedBody, stringBody_quote]
  | cons c cs ih =>
    have hq : quotedBody (c :: cs) ++ rest = escape c ++ (quotedBody cs ++ rest) := by
      simp [quotedBody]
    rw [hq, stringBody_escape, ih]
    rfl

lemma value_string (fuel depth : Nat) (s : String) (rest : List Char) :
    value (fuel + 1) depth ((string s).chars ++ rest) = some (string s, rest) := by
  have hb := stringBody_quotedBody s.toList rest
  simp [value, chars, quoted, skip, isSpace, hb]

end Parser

lemma eq_map_string_of_mapM {js : List Json} {ss : List String} (h : js.mapM asString? = some ss) :
    js = ss.map string := by
  induction js generalizing ss with
  | nil =>
    cases h
    rfl
  | cons j js ih =>
    rw [List.mapM_cons] at h
    obtain ⟨s, hj, h⟩ := Option.bind_eq_some_iff.mp h
    obtain ⟨rest, hr, h⟩ := Option.bind_eq_some_iff.mp h
    cases h
    cases j with
    | string t =>
      cases hj
      rw [ih hr, List.map_cons]
    | _ => nomatch hj

lemma asStrings?_eq_some_iff {j : Json} {ss : List String} : j.asStrings? = some ss ↔ j = ofStrings ss := by
  constructor
  · intro h
    obtain ⟨items, hj, hm⟩ := Option.bind_eq_some_iff.mp h
    cases j with
    | array js =>
      cases hj
      exact congrArg array (eq_map_string_of_mapM hm)
    | _ => nomatch hj
  · rintro rfl
    exact asStrings?_ofStrings ss

end Listing.Json
