import Listing.Proofs.JsonTexts
import Listing.Value.Json

/-! Bound values read back from their JSON. A value bears no mark of its kind there: five kinds are tried one after
another, and the two kinds of lists are told by their elements. Where there are none, a list of texts is read as one
of numbers; all else is read as what it was. -/
namespace Listing

/-- No number in the value is a floating-point one. -/
def Value.IsIntegral : Value → Prop
  | .number n => ∃ i, n = .int i
  | .numbers ns => ∀ n ∈ ns, ∃ i, n = .int i
  | _ => True

lemma mapM_map_eq_some {α β γ : Type} {f : β → Option γ} {g : α → β} {h : α → γ} {as : List α}
    (hf : ∀ a ∈ as, f (g a) = some (h a)) : (as.map g).mapM f = some (as.map h) := by
  induction as with
  | nil => rfl
  | cons a as ih =>
    obtain ⟨ha, has⟩ := List.forall_mem_cons.mp hf
    simp [ha, ih has]

namespace Number

lemma ofJson?_int (i : Int64) : ofJson? (int i).toJson = some (int i) := by
  have hf : fits i.toInt = true := by
    have := i.le_toInt
    have := i.toInt_lt
    simp only [fits, Bool.and_eq_true, decide_eq_true_eq]
    omega
  simp [toJson, ofJson?, ofInt, hf]

lemma reads_int (depth : Nat) (i : Int64) : Json.Parser.Reads depth (int i).toJson := by
  have hl := i.le_toInt
  have hu := i.toInt_lt
  refine Json.Parser.reads_integer depth (by omega) ?_
  rw [Json.Parser.largestWord]
  omega

end Number

namespace Value
variable {v : Value}

lemma reads_toJson (depth : Nat) (h : v.IsIntegral) : Json.Parser.Reads (depth + 1) v.toJson := by
  cases v with
  | bool b => exact Json.Parser.reads_bool _ b
  | text s => exact Json.Parser.reads_string _ s
  | texts ss => exact Json.Parser.reads_ofStrings depth ss
  | number n =>
    obtain ⟨i, rfl⟩ := h
    exact Number.reads_int _ i
  | numbers ns =>
    refine Json.Parser.reads_array fun j hj => ?_
    obtain ⟨n, hn, rfl⟩ := List.mem_map.mp hj
    obtain ⟨i, rfl⟩ := h n hn
    exact Number.reads_int depth i

/-- A text is no number, so the first text of a list tells what the list is. -/
lemma ofJson?_texts (s : String) (ss : List String) : ofJson? (texts (s :: ss)).toJson = some (texts (s :: ss)) := by
  have hs : (s :: ss).map Json.string = .string s :: ss.map .string := rfl
  have hn : ((s :: ss).map Json.string).mapM Number.ofJson? = none := by simp [hs, Number.ofJson?]
  have ht : ((s :: ss).map Json.string).mapM Json.asString? = some ((s :: ss).map id) :=
    mapM_map_eq_some fun _ _ => rfl
  rw [List.map_id] at ht
  simp only [toJson, Json.ofStrings, ofJson?, hn, ht, Option.map_some]

lemma ofJson?_toJson (h : v.IsIntegral) :
    ofJson? v.toJson = some (if v = .texts [] then .numbers [] else v) := by
  cases v with
  | bool b => rfl
  | text s => rfl
  | texts ss =>
    cases ss with
    | nil => rfl
    | cons s ss => simpa using ofJson?_texts s ss
  | number n =>
    obtain ⟨i, rfl⟩ := h
    have hi := Number.ofJson?_int i
    simp only [Number.toJson] at hi
    simp [toJson, Number.toJson, ofJson?, hi]
  | numbers ns =>
    have hn : (ns.map Number.toJson).mapM Number.ofJson? = some (ns.map id) := by
      refine mapM_map_eq_some fun n hn => ?_
      obtain ⟨i, rfl⟩ := h n hn
      exact Number.ofJson?_int i
    rw [List.map_id] at hn
    simp [toJson, ofJson?, hn]

end Value

namespace Params

/-- If all numbers of a list of values are integers, then what is read back from its JSON, and from the text of this
JSON, is a list of the same length. Each value is there again in its place, but for lists of texts without any, which
have become lists of numbers. -/
theorem values_read_back {p : Params} (h : ∀ v ∈ p.values, v.IsIntegral) :
    Json.parse? p.toJson.text = some p.toJson ∧ ∃ q, ofJson? p.toJson = some q ∧ q.size = p.size ∧
      ∀ (i : Nat) (v : Value), p.values[i]? = some v →
        q.values[i]? = some (if v = .texts [] then .numbers [] else v) := by
  have hr : Json.Parser.Reads Json.Parser.deepest p.toJson := by
    refine Json.Parser.reads_array fun j hj => ?_
    obtain ⟨v, hv, rfl⟩ := List.mem_map.mp hj
    exact Value.reads_toJson 125 (h v hv)
  have hq := mapM_map_eq_some fun v hv => Value.ofJson?_toJson (h v hv)
  refine ⟨Json.parse?_text hr, ⟨p.values.map fun v => if v = .texts [] then .numbers [] else v⟩, ?_, ?_, ?_⟩
  · simp only [ofJson?, toJson, Json.asArray?, Option.bind_some, hq, Option.map_some]
  · simp [size]
  · intro i v hi
    rw [List.getElem?_map, hi, Option.map_some]

/-- Truth values, the least and the greatest integer, texts that look like others and need escapes, and lists of both
kinds, with elements and without. -/
theorem values_read_back_mixed :
    let p : Params := ⟨[.bool true, .number (.int (-9223372036854775808)), .text "1\n\"[", .texts [],
      .numbers [.int 0, .int 9223372036854775807], .numbers [], .texts ["1", ""]]⟩
    (∀ v ∈ p.values, v.IsIntegral) ∧
      p.toJson.text = "[true,-9223372036854775808,\"1\\n\\\"[\",[],[0,9223372036854775807],[],[\"1\",\"\"]]" ∧
      ∃ q, (Json.parse? p.toJson.text).bind ofJson? = some q ∧ q.size = 7 ∧
        q.values[1]? = some (.number (.int (-9223372036854775808))) ∧ q.values[3]? = some (.numbers []) ∧
        q.values[6]? = some (.texts ["1", ""]) := by
  intro p
  have h : ∀ v ∈ p.values, v.IsIntegral := by
    simp [p, Value.IsIntegral]
  obtain ⟨ht, q, hq, hs, hv⟩ := values_read_back h
  refine ⟨h, by decide +kernel, q, ?_, hs, hv 1 _ rfl, hv 3 _ rfl, hv 6 _ rfl⟩
  rw [ht, Option.bind_some, hq]

end Params
end Listing
