import Listing.Proofs.Rendering

/-! Comparisons by built-in operators, described without the compiler: a column, the text of the operator
and one placeholder, behind which one value is bound. -/
namespace Listing

/-- The first operand starts or ends with a wildcard. -/
def Comparison.hasWildcard (c : Comparison) : Bool :=
  (Wildcards.of c.firstOperand).leading || (Wildcards.of c.firstOperand).trailing

/-- What stands between the column and the placeholder. Only equality looks at the operand, and only
for a wildcard at its ends. -/
def Operator.sign (fmt : Format) (wildcard : Bool) : Operator → String
  | .eq => if wildcard then " " ++ fmt.keyword .ilike ++ " " else fmt.symbol "="
  | .ne => if wildcard then " " ++ fmt.keyword .notIlike ++ " " else fmt.symbol "<>"
  | .lt => fmt.symbol "<"
  | .le => fmt.symbol "<="
  | .gt => fmt.symbol ">"
  | .ge => fmt.symbol ">="
  | .in_ => " " ++ fmt.keyword .in_ ++ " "
  | .out => " " ++ fmt.keyword .notIn ++ " "

/-- The tokens of an operator: a symbol, and for orderings a name as well. -/
def Operator.spellings : Operator → List String
  | eq => ["=="]
  | ne => ["!="]
  | lt => ["<", "=lt="]
  | le => ["<=", "=le="]
  | gt => [">", "=gt="]
  | ge => [">=", "=ge="]
  | in_ => ["=in="]
  | out => ["=out="]

lemma Operator.mem_spellings_of_parse? {token : String} {op : Operator} (h : parse? token = some op) :
    token ∈ op.spellings := by
  unfold parse? at h
  repeat' split at h
  all_goals cases h
  all_goals simp_all [spellings]

lemma Operator.isKnown_iff {token : String} : isKnown token = true ↔ ∃ op : Operator, token ∈ op.spellings := by
  constructor
  · intro h
    obtain ⟨op, ho⟩ := Option.isSome_iff_exists.mp h
    exact ⟨op, mem_spellings_of_parse? ho⟩
  · rintro ⟨op, ho⟩
    have hk : ∀ token ∈ op.spellings, isKnown token = true := by cases op <;> decide
    exact hk token ho

/-- The value that a comparison binds under a built-in operator. -/
def Selectors.bound (ss : Selectors) (c : Comparison) : Value :=
  match Operator.parse? c.operator with
  | some .eq | some .ne =>
    if c.hasWildcard then .text (Wildcards.pattern c.firstOperand) else ss.coerce c false
  | some .in_ | some .out => ss.coerce c true
  | _ => ss.coerce c false

namespace Config
variable {cfg : Config} {c : Comparison} {p q : Params} {s : String}

/-- The text of a comparison whose placeholder has the number `n`. -/
def builtInText (cfg : Config) (n : Nat) (c : Comparison) : String :=
  let sign := ((Operator.parse? c.operator).map (·.sign cfg.format c.hasWildcard)).getD ""
  cfg.resolve c.selector ++ sign ++ Placeholder.text ⟨n⟩

/-- Every comparison under its built-in operator: one value, and the next number. -/
def builtIn (cfg : Config) : Phrasing where
  values c := [cfg.selectors.bound c]
  text n c := cfg.builtInText (n + 1) c

lemma clause_eq {op : Operator} (h : Operator.parse? c.operator = some op) :
    cfg.clause c op =
      ⟨cfg.resolve c.selector ++ op.sign cfg.format c.hasWildcard, cfg.selectors.bound c⟩ := by
  have hw : (Wildcards.of c.firstOperand).isNone = !c.hasWildcard := by
    simp [Wildcards.isNone, Comparison.hasWildcard]
  cases op <;> simp only [clause, Selectors.bound, h, Operator.sign, Operator.isList, Operator.sql]
  case eq | ne => cases hc : c.hasWildcard <;> simp [equality, hw, hc, String.append_assoc]
  case in_ | out => simp [String.append_assoc]
  all_goals rfl

lemma of_compileComparison_builtIn (hp : cfg.plugins.find? c.operator = none)
    (h : cfg.compileComparison c p = .ok s q) :
    s = cfg.builtInText (p.size + 1) c ∧ q = p.append [cfg.selectors.bound c] := by
  unfold compileComparison at h
  rw [hp] at h
  cases ho : Operator.parse? c.operator with
  | none =>
    rw [ho] at h
    cases h
  | some op =>
    rw [ho] at h
    simp only [clause_eq ho] at h
    cases h
    exact ⟨by simp [builtInText, ho, Params.next], rfl⟩

lemma builtIn_describes (hp : cfg.plugins = ∅) : cfg.builtIn.Describes cfg := by
  intro c p q s h
  exact of_compileComparison_builtIn (by rw [hp]; rfl) h

lemma valuesOf_builtIn (f : Filter) :
    cfg.builtIn.valuesOf f = f.comparisons.map cfg.selectors.bound := List.map_eq_flatMap.symm

/-- Without plugins, compilation is a rendering without state. The comparisons, taken in reading order
through all groups, bind one value each, which depends on the comparison and the selectors alone; and
the text is that of the filter in which each comparison has the number of its value. -/
theorem predicate_eq_render (hp : cfg.plugins = ∅) {f : Filter}
    (h : cfg.predicate (some f) p = .ok s q) :
    q = p.append (f.comparisons.map cfg.selectors.bound) ∧
      s = cfg.builtIn.render cfg.format p.size f := by
  obtain ⟨-, hc⟩ := of_predicate_eq_ok h
  obtain ⟨hs, hq⟩ := Phrasing.compile_eq_render (builtIn_describes hp) f hc
  refine ⟨?_, hs⟩
  rw [hq, List.map_eq_flatMap]
  rfl

/-- A listing of users. -/
def users : Config where
  base := "select * from users u"
  selectors := .ofList [("name", .bare "u.name"), ("points", .record { domain := .type .integer }),
    ("tier", .record { sql := some "u.tier", domain := .oneOf ["GOLD", "TIN"] })]

theorem predicate_eq_render_users :
    let f : Filter := .and [.comparison ⟨"name", "==", ["*ice"]⟩,
      .not (.or [.comparison ⟨"tier", "=in=", ["TIN", "IRON"]⟩, .comparison ⟨"points", "=gt=", ["10"]⟩])]
    let s := "(u.name ILIKE $2 AND NOT((u.tier IN $3 OR points>$4)))"
    let p : Params := ⟨[.text "base"]⟩
    let q : Params := ⟨[.text "base", .text "%ice", .texts ["TIN"], .number (.int 10)]⟩
    users.plugins = ∅ ∧ users.predicate (some f) p = .ok s q ∧
      q = p.append (f.comparisons.map users.selectors.bound) ∧
      s = users.builtIn.render users.format p.size f :=
  ⟨rfl, rfl, predicate_eq_render rfl rfl⟩

end Config
end Listing
