import Mathlib.Data.List.Infix
import OlapSynthesis.Proofs.Formula.Engine

namespace OlapSynthesis

namespace Formula

/-- What an operand begins with. -/
def opening : List Char :=
  "aggregatedValue[".toList

/-- The operands of a text: after every opening, all up to the next closing bracket. -/
def operands : List Char → List String
  | [] => []
  | c :: rest =>
    if opening.isPrefixOf (c :: rest) then
      String.ofList (((c :: rest).drop opening.length).takeWhile (· ≠ ']')) :: operands rest
    else operands rest

/-- A name that neither closes the operand it stands in nor opens one. -/
structure IsPlain (name : String) : Prop where
  closing : ']' ∉ name.toList
  opening : ¬ Formula.opening <:+: name.toList

variable {gap rest : List Char} {stop : Char}

theorem opening_not_prefix_of_notMem (hgap : ¬ opening <:+: gap) (hstop : stop ∉ opening)
    (rest : List Char) : ¬ opening <+: gap ++ stop :: rest := by
  intro h
  rcases List.prefix_or_prefix_of_prefix h (List.prefix_append gap (stop :: rest)) with
    hshort | ⟨tail, hlong⟩
  · exact hgap hshort.isInfix
  · rw [← hlong, List.prefix_append_right_inj] at h
    cases tail with
    | nil =>
      rw [List.append_nil] at hlong
      exact hgap (hlong ▸ List.infix_rfl)
    | cons c tail =>
      obtain ⟨rfl, -⟩ := List.cons_prefix_cons.mp h
      exact hstop (hlong ▸ List.mem_append_right _ List.mem_cons_self)

theorem operands_cons_of_no_opening {c : Char} (h : ¬ opening <+: c :: rest) :
    operands (c :: rest) = operands rest := by
  rw [operands, if_neg]
  rwa [List.isPrefixOf_iff_prefix]

theorem operands_gap (hgap : ¬ opening <:+: gap) (hstop : stop ∉ opening) (rest : List Char) :
    operands (gap ++ stop :: rest) = operands rest := by
  induction gap with
  | nil => exact operands_cons_of_no_opening (opening_not_prefix_of_notMem hgap hstop rest)
  | cons c gap ih =>
    have hskip : operands (c :: gap ++ stop :: rest) = operands (gap ++ stop :: rest) :=
      operands_cons_of_no_opening (opening_not_prefix_of_notMem hgap hstop rest)
    rw [hskip]
    exact ih fun h => hgap (List.infix_cons h)

theorem not_opening_infix (hgap : ¬ opening <:+: gap) (hstop : stop ∉ opening)
    (hrest : ¬ opening <:+: rest) : ¬ opening <:+: gap ++ stop :: rest := by
  induction gap with
  | nil =>
    intro h
    rcases List.infix_cons_iff.mp h with hprefix | hlater
    · exact opening_not_prefix_of_notMem hgap hstop rest hprefix
    · exact hrest hlater
  | cons c gap ih =>
    intro h
    rcases List.infix_cons_iff.mp h with hprefix | hlater
    · exact opening_not_prefix_of_notMem hgap hstop rest hprefix
    · exact ih (fun h => hgap (List.infix_cons h)) hlater

theorem IsPlain.append {field key : String} (hfield : IsPlain field) (hkey : IsPlain key) :
    IsPlain (field ++ "." ++ key) := by
  have hlist : (field ++ "." ++ key).toList = field.toList ++ '.' :: key.toList := by
    simp [String.toList_append]
  constructor
  · rw [hlist, List.mem_append, List.mem_cons]
    rintro (h | h | h)
    · exact hfield.closing h
    · cases h
    · exact hkey.closing h
  · rw [hlist]
    exact not_opening_infix hfield.opening (by decide) hkey.opening

theorem operands_aggregatedValue {measure : String} (h : IsPlain measure) (rest : List Char) :
    operands ((aggregatedValue measure).toList ++ rest) = measure :: operands rest := by
  have hopen (tail : List Char) : operands ("aggregatedValue[".toList ++ tail) =
      String.ofList (tail.takeWhile (· ≠ ']')) :: operands tail := rfl
  have hclose : (measure.toList ++ ']' :: rest).takeWhile (· ≠ ']') = measure.toList := by
    rw [List.takeWhile_append_of_pos]
    · simp
    · intro c hc
      exact decide_eq_true fun heq => h.closing (heq ▸ hc)
  rw [toList_aggregatedValue, List.append_assoc, List.append_assoc]
  change operands ("aggregatedValue[".toList ++ (measure.toList ++ ']' :: rest)) = _
  rw [hopen, hclose, String.ofList_toList, operands_gap h.opening (by decide)]

theorem operands_countOperand (rest : List Char) :
    operands (Measure.countOperand.toList ++ rest) = NativeKind.count.id :: operands rest :=
  operands_aggregatedValue ⟨by decide, by decide⟩ rest

theorem operands_comma (rest : List Char) : operands (", ".toList ++ rest) = operands rest := rfl

variable {column : String}

theorem operands_meanExpression (h : IsPlain column) :
    operands (Measure.meanExpression column).toList =
      [Aggregation.sum.measureName column, NativeKind.count.id] := by
  have hsum : IsPlain (Aggregation.sum.measureName column) := h.append ⟨by decide, by decide⟩
  have hend : operands ", /".toList = [] := rfl
  rw [Measure.meanExpression]
  simp only [String.toList_append, List.append_assoc]
  rw [operands_aggregatedValue hsum, operands_comma, operands_countOperand, hend]

theorem operands_deviationExpression (h : IsPlain column) :
    operands (Measure.deviationExpression column).toList =
      [Aggregation.squareSum.measureName column, NativeKind.count.id, column ++ ".avg",
        column ++ ".avg"] := by
  have hsquares : IsPlain (Aggregation.squareSum.measureName column) :=
    h.append ⟨by decide, by decide⟩
  have hmean : IsPlain (column ++ ".avg") := by
    have havg : IsPlain (column ++ "." ++ "avg") := h.append ⟨by decide, by decide⟩
    rwa [String.append_assoc] at havg
  have hopen (rest : List Char) : operands ("(".toList ++ rest) = operands rest := rfl
  have hgroup (rest : List Char) : operands (", /), (".toList ++ rest) = operands rest := rfl
  have hend : operands ", *), -, SQRT".toList = [] := rfl
  rw [Measure.deviationExpression]
  simp only [String.toList_append, List.append_assoc]
  rw [hopen, operands_aggregatedValue hsquares, operands_comma, operands_countOperand, hgroup,
    operands_aggregatedValue hmean, operands_comma, operands_aggregatedValue hmean, hend]

end Formula

namespace Measure

def operands (measure : Measure) : List String :=
  match measure.derived?.bind (·.expression?) with
  | some text => Formula.operands text.toList
  | none => []

/-- Each measure of a list, if its folder has a plain name, refers only to names that are given and to
measures before it. -/
def RefersBack (given : List String) : List Measure → Prop
  | [] => True
  | measure :: rest =>
    ((∀ folder ∈ measure.folder, Formula.IsPlain folder) → measure.operands ⊆ given) ∧
      RefersBack (measure.name :: given) rest

namespace RefersBack

variable {given more : List String} {front back measures : List Measure} {measure : Measure}

theorem mono (h : RefersBack given measures) (hmore : given ⊆ more) :
    RefersBack more measures := by
  induction measures generalizing given more with
  | nil => trivial
  | cons measure measures ih =>
    obtain ⟨hoperands, hlater⟩ := h
    exact ⟨fun hplain => List.Subset.trans (hoperands hplain) hmore,
      ih hlater (List.cons_subset_cons _ hmore)⟩

theorem append (hfront : RefersBack given front)
    (hback : RefersBack (front.map name ++ given) back) : RefersBack given (front ++ back) := by
  induction front generalizing given with
  | nil => exact hback
  | cons measure front ih =>
    obtain ⟨hoperands, hlater⟩ := hfront
    refine ⟨hoperands, ih hlater (hback.mono ?_)⟩
    intro text htext
    simp only [List.map_cons, List.cons_append, List.mem_cons, List.mem_append] at htext ⊢
    tauto

theorem of_operands_eq_nil (h : ∀ measure ∈ measures, measure.operands = []) :
    RefersBack given measures := by
  induction measures generalizing given with
  | nil => trivial
  | cons measure measures ih =>
    obtain ⟨hmeasure, hlater⟩ := List.forall_mem_cons.mp h
    refine ⟨fun _ => ?_, ih hlater⟩
    rw [hmeasure]
    exact List.nil_subset _

theorem mem_take (h : RefersBack given measures) {place : Nat}
    (hmeasure : measures[place]? = some measure)
    (hplain : ∀ folder ∈ measure.folder, Formula.IsPlain folder) {operand : String}
    (hoperand : operand ∈ measure.operands) :
    operand ∈ given ∨ ∃ earlier ∈ measures.take place, earlier.name = operand := by
  induction measures generalizing given place with
  | nil => cases hmeasure
  | cons first measures ih =>
    obtain ⟨hoperands, hlater⟩ := h
    cases place with
    | zero =>
      obtain rfl := Option.some.inj hmeasure
      exact .inl (hoperands hplain hoperand)
    | succ place =>
      rcases ih hlater hmeasure with hgiven | ⟨earlier, hearlier, hname⟩
      · rcases List.mem_cons.mp hgiven with rfl | hgiven
        · exact .inr ⟨first, List.mem_cons_self, rfl⟩
        · exact .inl hgiven
      · exact .inr ⟨earlier, List.mem_cons_of_mem _ hearlier, hname⟩

end RefersBack

variable {given : List String}

theorem operands_ofFormula (column : Column) (suffix text : String) :
    (ofFormula column suffix text).operands = Formula.operands text.toList := rfl

/-- The formulas of a number refer to its aggregates before them and to the number of records. -/
theorem refersBack_ofNumber (column : Column) (hcount : NativeKind.count.id ∈ given) :
    RefersBack given (ofNumber column) := by
  rw [ofNumber]
  cases column.isMeasureCandidate with
  | false => trivial
  | true =>
    apply RefersBack.append
    · refine ⟨fun _ => List.nil_subset _, fun _ => List.nil_subset _, fun _ => List.nil_subset _,
        fun hplain => ?_, trivial⟩
      rw [operands_ofFormula, Formula.operands_meanExpression (hplain column.name rfl)]
      intro operand hoperand
      rcases List.mem_pair.mp hoperand with rfl | rfl
      · exact List.mem_cons_of_mem _ (List.mem_cons_of_mem _ List.mem_cons_self)
      · simp [hcount]
    · cases column.type.isDecimal with
      | false => trivial
      | true =>
        refine ⟨fun _ => List.nil_subset _, fun hplain => ?_, trivial⟩
        rw [operands_ofFormula, Formula.operands_deviationExpression (hplain column.name rfl)]
        have hmean : column.name ++ ".avg" ∈ [ofAggregation column .sum true,
            ofAggregation column .min true, ofAggregation column .max true,
            ofFormula column ".avg" (meanExpression column.name)].map name := by
          simp [ofFormula, DerivedMeasure.ofFormula, DerivedMeasure.ofCalculation, name]
        intro operand hoperand
        simp only [List.mem_cons, List.not_mem_nil, or_false] at hoperand
        rcases hoperand with rfl | rfl | rfl | rfl
        · exact List.mem_cons_self
        · exact List.mem_cons_of_mem _ (List.mem_append_right _ hcount)
        · exact List.mem_cons_of_mem _ (List.mem_append_left _ hmean)
        · exact List.mem_cons_of_mem _ (List.mem_append_left _ hmean)

theorem refersBack_ofNumbers (columns : List Column) (hcount : NativeKind.count.id ∈ given) :
    RefersBack given (columns.flatMap ofNumber) := by
  induction columns generalizing given with
  | nil => trivial
  | cons column columns ih =>
    rw [List.flatMap_cons]
    exact (refersBack_ofNumber column hcount).append (ih (List.mem_append_right _ hcount))

theorem operands_of_mem_natives {measure : Measure} (h : measure ∈ natives) :
    measure.operands = [] := by
  rcases List.mem_pair.mp h with rfl | rfl <;> rfl

theorem operands_of_distinctCount? {column : Column} {measure : Measure}
    (h : distinctCount? column = some measure) : measure.operands = [] := by
  obtain ⟨-, hderived⟩ := Option.ite_none_left_eq_some.mp h
  obtain rfl := Option.some.inj hderived
  rfl

theorem refersBack_ofColumns (columns : List Column) : RefersBack [] (ofColumns columns) := by
  have hnatives : RefersBack [] natives := .of_operands_eq_nil fun _ => operands_of_mem_natives
  have hcounts (given : List String) : RefersBack given (columns.filterMap distinctCount?) := by
    apply RefersBack.of_operands_eq_nil
    intro measure hmeasure
    obtain ⟨column, -, hcolumn⟩ := List.mem_filterMap.mp hmeasure
    exact operands_of_distinctCount? hcolumn
  refine (hnatives.append (refersBack_ofNumbers columns ?_)).append (hcounts _)
  exact List.mem_cons_self

/-- Every operand of a formula is the name of a measure before it, if the name of the formula's column
neither opens nor closes an operand. -/
theorem operands_defined_earlier {columns : List Column} {place : Nat} {measure : Measure}
    (hmeasure : (ofColumns columns)[place]? = some measure)
    (hplain : ∀ folder ∈ measure.folder, Formula.IsPlain folder) :
    ∀ operand ∈ measure.operands, ∃ earlier ∈ (ofColumns columns).take place,
      earlier.name = operand := by
  intro operand hoperand
  rcases (refersBack_ofColumns columns).mem_take hmeasure hplain hoperand with hgiven | hearlier
  · cases hgiven
  · exact hearlier

/-- The deviation of one column beside another whose name closes operands. -/
theorem operands_defined_earlier_beside_bracket :
    let measures := ofColumns [⟨"a]b", .double⟩, ⟨"price", .double⟩]
    ∃ measure, measures[13]? = some measure ∧ measure.name = "price.STD" ∧
      (∀ folder ∈ measure.folder, Formula.IsPlain folder) ∧
      measure.operands = ["price.SQ_SUM", "contributors.COUNT", "price.avg", "price.avg"] ∧
      ∀ operand ∈ measure.operands, ∃ earlier ∈ measures.take 13, earlier.name = operand := by
  intro measures
  let deviation := ofFormula ⟨"price", .double⟩ ".STD" (deviationExpression "price")
  have hmeasure : measures[13]? = some deviation := rfl
  have hplain : ∀ folder ∈ deviation.folder, Formula.IsPlain folder := by
    intro folder hfolder
    obtain rfl : "price" = folder := Option.some.inj hfolder
    exact ⟨by decide, by decide⟩
  have hoperands := Formula.operands_deviationExpression (hplain "price" rfl)
  exact ⟨deviation, hmeasure, rfl, hplain, hoperands, operands_defined_earlier hmeasure hplain⟩

/-- A column may have a bracket in its name. Its average then refers to something that is no measure
at all. -/
theorem operand_undefined : ∃ builder : StoreSpec.Builder,
    (StoreSpec.builder "trades").addTagged "a]b" "double" = .ok builder ∧
      ∃ measure, (ofColumns builder.columns)[5]? = some measure ∧ "a" ∈ measure.operands ∧
        ∀ other ∈ ofColumns builder.columns, other.name ≠ "a" := by
  refine ⟨_, rfl, ofFormula ⟨"a]b", .double⟩ ".avg" (meanExpression "a]b"), rfl, ?_, by decide⟩
  exact List.mem_cons_self

end Measure

end OlapSynthesis
