import OlapSynthesis.JsonSchema
import OlapSynthesis.Proofs.Codec.Basic

namespace OlapSynthesis

open Codec

namespace JsonSchema

attribute [simp] violations propertyViolations matching

def Conforms (schema : JsonSchema) (value : Json) : Prop :=
  schema.violations value = []

/-- The members that are there conform to the schemas of the properties, in the same order. -/
inductive Fits : List (String × JsonSchema) → Slots → Prop
  | nil : Fits [] []
  | cons {key : String} {schema : JsonSchema} {value : Option Json}
      {properties : List (String × JsonSchema)} {slots : Slots}
      (conforms : ∀ v ∈ value, schema.Conforms v) (rest : Fits properties slots) :
      Fits ((key, schema) :: properties) ((key, value) :: slots)

/-- Only objects with a certain constant under a key conform. -/
def AsksFor (schema : JsonSchema) (key tag : String) : Prop :=
  ∀ value, schema.Conforms value → value.member? key = some (.text tag)

def branches : JsonSchema → List JsonSchema
  | .oneOf branches => branches
  | .described _ schema => schema.branches
  | _ => []

@[simp] theorem violationUnless_eq_nil_iff {holds : Bool} :
    violationUnless holds = [] ↔ holds = true := by
  cases holds <;> simp [violationUnless]

@[simp] theorem within_eq_nil_iff {key : String} {violations : List JsonPath} :
    within key violations = [] ↔ violations = [] :=
  List.map_eq_nil_iff

theorem inMember_eq_nil_iff {key : String} {violations : Json → List JsonPath} {value : Json} :
    inMember key violations value = [] ↔
      ∀ member, value.member? key = some member → violations member = [] := by
  rw [inMember]
  cases value.member? key <;> simp

section

variable {α : Type} {arrange : Json → Json} (harrange : Json.Arranges arrange)

include harrange

theorem conforms_text (s : String) : text.Conforms (arrange (.text s)) := by
  simp [Conforms, harrange.text, isText]

theorem conforms_constant (s : String) : (constant s).Conforms (arrange (.text s)) := by
  simp [Conforms, harrange.text, isText, isTextAmong]

theorem conforms_textOrNull (s : String) : textOrNull.Conforms (arrange (.text s)) := by
  simp [Conforms, harrange.text, isText]

theorem conforms_character (c : Char) : character.Conforms (arrange (.text c.toString)) := by
  simp [Conforms, harrange.text, isText, hasLength]

theorem conforms_boolean (b : Bool) : boolean.Conforms (arrange (.bool b)) := by
  simp [Conforms, harrange.bool, isBoolean]

theorem conforms_word32 (n : Nat) : word32.Conforms (arrange (.nat n)) := by
  rw [harrange.nat]
  rfl

theorem conforms_array {schema : JsonSchema} {encode : α → Json} {values : List α}
    (h : ∀ a ∈ values, schema.Conforms (arrange (encode a))) :
    (array schema).Conforms (arrange (.array (values.map encode))) := by
  rw [harrange.array, Conforms, violations, List.append_eq_nil_iff]
  refine ⟨rfl, ?_⟩
  rw [inItems, List.flatMap_eq_nil_iff]
  intro item hitem
  have hmem : item.1 ∈ (values.map encode).map arrange := List.fst_mem_of_mem_zipIdx hitem
  rw [List.map_map] at hmem
  obtain ⟨a, ha, heq⟩ := List.mem_map.mp hmem
  rw [within_eq_nil_iff, ← heq]
  exact h a ha

theorem conforms_texts (values : List String) :
    (array text).Conforms (arrange (.texts values)) :=
  conforms_array harrange fun s _ => conforms_text harrange s

theorem conforms_dictionary {schema : JsonSchema} {encode : α → Json} {d : Dictionary α}
    (h : ∀ a ∈ d.values, schema.Conforms (arrange (encode a))) :
    (dictionary schema).Conforms (arrange (encodeDictionary encode d)) := by
  obtain ⟨members, hmembers, hperm⟩ := exists_members_dictionary harrange encode d
  rw [hmembers, Conforms, violations, List.append_eq_nil_iff]
  refine ⟨rfl, ?_⟩
  rw [inMembers, List.flatMap_eq_nil_iff]
  intro member hmember
  obtain ⟨entry, hentry, rfl⟩ := List.mem_map.mp (hperm.subset hmember)
  rw [within_eq_nil_iff]
  exact h entry.2 (List.mem_map_of_mem hentry)

end

theorem Conforms.described {schema : JsonSchema} {value : Json} (h : schema.Conforms value)
    (description : String) : (described description schema).Conforms value :=
  h

theorem Conforms.reference {schema : JsonSchema} {value : Json} (h : schema.Conforms value)
    (name : String) : (reference name schema).Conforms value :=
  h

theorem Conforms.withDefault {schema : JsonSchema} {value : Json} (h : schema.Conforms value)
    (default : Json) : (withDefault default schema).Conforms value :=
  h

theorem Conforms.orNull {schema : JsonSchema} {value : Json} (h : schema.Conforms value) :
    schema.orNull.Conforms value := by
  have hempty : (schema.violations value).isEmpty = true := by
    rw [h]
    rfl
  rw [Conforms, violations, hempty, Bool.or_true]
  rfl

section

variable {j : Json} {slots : Slots} {properties : List (String × JsonSchema)}

theorem Fits.some {key : String} {schema : JsonSchema} {value : Json}
    (h : schema.Conforms value) (rest : Fits properties slots) :
    Fits ((key, schema) :: properties) ((key, some value) :: slots) :=
  .cons (fun _ hv => Option.some.inj hv ▸ h) rest

theorem Fits.map {α : Type} {encode : α → Json} {arrange : Json → Json} {key : String}
    {schema : JsonSchema} {o : Option α} (h : ∀ a ∈ o, schema.Conforms (arrange (encode a)))
    (rest : Fits properties slots) :
    Fits ((key, schema) :: properties) ((key, (o.map encode).map arrange) :: slots) := by
  refine .cons (fun v hv => ?_) rest
  rw [Option.map_map] at hv
  obtain ⟨a, ha, rfl⟩ := Option.map_eq_some_iff.mp hv
  exact h a ha

theorem Fits.filled {α : Type} {encode : α → Json} {arrange : Json → Json}
    (harrange : Json.Arranges arrange) {key : String} {schema : JsonSchema} {values : List α}
    (h : ∀ a ∈ values, schema.Conforms (arrange (encode a))) (rest : Fits properties slots) :
    Fits ((key, .array schema) :: properties)
      ((key, (Codec.filled encode values).map arrange) :: slots) := by
  cases values with
  | nil => exact .cons (fun v hv => by cases hv) rest
  | cons a values => exact .some (conforms_array harrange h) rest

theorem Fits.entered {α : Type} {encode : α → Json} {arrange : Json → Json}
    (harrange : Json.Arranges arrange) {key : String} {schema : JsonSchema} {d : Dictionary α}
    (h : ∀ a ∈ d.values, schema.Conforms (arrange (encode a))) (rest : Fits properties slots) :
    Fits ((key, .dictionary schema) :: properties)
      ((key, (Codec.entered encode d).map arrange) :: slots) := by
  rw [Codec.entered]
  split
  · exact .cons (fun v hv => by cases hv) rest
  · exact .some (conforms_dictionary harrange h) rest

theorem Fits.propertyViolations (h : Fits properties slots)
    (hshown : ∀ slot ∈ slots, j.member? slot.1 = slot.2) : propertyViolations properties j = [] := by
  induction h with
  | nil => rfl
  | cons hconforms _ ih =>
    obtain ⟨hslot, hslots⟩ := List.forall_mem_cons.mp hshown
    rw [JsonSchema.propertyViolations, List.append_eq_nil_iff, inMember_eq_nil_iff]
    refine ⟨fun member hmember => ?_, ih hslots⟩
    exact hconforms member (hslot.symm.trans hmember)

theorem member?_of_shows (h : Shows j slots) : ∀ slot ∈ slots, j.member? slot.1 = slot.2 := by
  obtain ⟨entries, rfl, -, hlookup⟩ := h
  exact hlookup

theorem isObject_of_shows (h : Shows j slots) : isObject j = true := by
  obtain ⟨entries, rfl, -, -⟩ := h
  rfl

theorem any_eq_isSome_lookup (key : String) (entries : List (String × Json)) :
    entries.any (·.1 == key) = (entries.lookup key).isSome := by
  induction entries with
  | nil => rfl
  | cons entry entries ih =>
    rw [List.any_cons, ih, Dictionary.lookup_cons_eq_ite]
    by_cases h : key = entry.1
    · rw [if_pos h, beq_iff_eq.mpr h.symm]
      rfl
    · rw [if_neg h, beq_eq_false_iff_ne.mpr (Ne.symm h), Bool.false_or]

theorem lacking_eq_nil_iff {required : List String} {entries : List (String × Json)} :
    lacking required (.object entries) = [] ↔
      ∀ key ∈ required, ∃ value, entries.lookup key = some value := by
  rw [lacking, List.filter_eq_nil_iff]
  refine forall₂_congr fun key _ => ?_
  rw [any_eq_isSome_lookup, Bool.not_eq_true, Bool.not_eq_false', Option.isSome_iff_exists]

theorem lacking_of_shows (h : Shows j slots) {required : List String}
    (hrequired : ∀ key ∈ required, ∃ value, (key, some value) ∈ slots) :
    lacking required j = [] := by
  obtain ⟨entries, rfl, -, hlookup⟩ := h
  rw [lacking_eq_nil_iff]
  intro key hkey
  obtain ⟨value, hvalue⟩ := hrequired key hkey
  exact ⟨value, hlookup _ hvalue⟩

theorem conforms_record (h : Shows j slots) (hfits : Fits properties slots)
    {required : List String} (hrequired : ∀ key ∈ required, ∃ value, (key, some value) ∈ slots) :
    (record properties required).Conforms j := by
  rw [Conforms, violations, isObject_of_shows h, lacking_of_shows h hrequired,
    hfits.propertyViolations (member?_of_shows h)]
  rfl

theorem conforms_tagged {arrange : Json → Json} (harrange : Json.Arranges arrange)
    {key tag : String} (h : Shows j (arranged arrange ((key, some (.text tag)) :: slots)))
    {name : String} {target : JsonSchema} (htarget : target.Conforms j) :
    (tagged key tag name target).Conforms j := by
  rw [arranged_cons, Option.map_some, harrange.text] at h
  have htag := member?_of_shows h _ List.mem_cons_self
  have hlacking : lacking [key] j = [] :=
    lacking_of_shows h (List.forall_mem_singleton.mpr ⟨_, List.mem_cons_self⟩)
  rw [Conforms, violations, htarget, isObject_of_shows h, hlacking, inMember, htag]
  simp [violationUnless, isText, isTextAmong, within]

end

section

variable {schema : JsonSchema} {value : Json} {key tag : String}

theorem isTextAmong_singleton {wanted : String} :
    isTextAmong [wanted] value = true ↔ value = .text wanted := by
  cases value <;> simp [isTextAmong]

theorem AsksFor.described (h : schema.AsksFor key tag) (description : String) :
    (described description schema).AsksFor key tag :=
  h

theorem asksFor_tagged {name : String} {target : JsonSchema} :
    (tagged key tag name target).AsksFor key tag := by
  intro value h
  rw [Conforms, violations] at h
  simp only [List.append_eq_nil_iff, violationUnless_eq_nil_iff, List.map_eq_nil_iff,
    inMember_eq_nil_iff, isTextAmong_singleton] at h
  obtain ⟨⟨⟨-, hobject⟩, hlacking⟩, htag⟩ := h
  cases value with
  | object entries =>
    obtain ⟨member, hmember⟩ := lacking_eq_nil_iff.mp hlacking key List.mem_cons_self
    obtain ⟨-, rfl⟩ := htag member hmember
    exact hmember
  | _ => cases hobject

theorem asksFor_record {properties : List (String × JsonSchema)} {required : List String}
    (hproperty : (key, constant tag) ∈ properties) (hrequired : key ∈ required) :
    (record properties required).AsksFor key tag := by
  intro value h
  rw [Conforms, violations] at h
  simp only [List.append_eq_nil_iff, violationUnless_eq_nil_iff, List.map_eq_nil_iff] at h
  obtain ⟨⟨hobject, hlacking⟩, hproperties⟩ := h
  have hconstant : ∀ member, value.member? key = some member → (constant tag).Conforms member := by
    clear hobject hlacking
    induction properties with
    | nil => cases hproperty
    | cons property properties ih =>
      obtain ⟨other, schema⟩ := property
      rw [propertyViolations, List.append_eq_nil_iff, inMember_eq_nil_iff] at hproperties
      rcases List.mem_cons.mp hproperty with heq | hlater
      · cases heq
        exact hproperties.1
      · exact ih hlater hproperties.2
  cases value with
  | object entries =>
    obtain ⟨member, hmember⟩ := lacking_eq_nil_iff.mp hlacking key hrequired
    have hmemberConforms := hconstant member hmember
    rw [Conforms, violations] at hmemberConforms
    simp only [List.append_eq_nil_iff, violationUnless_eq_nil_iff, isTextAmong_singleton]
      at hmemberConforms
    obtain ⟨-, rfl⟩ := hmemberConforms
    exact hmember
  | _ => cases hobject

theorem not_conforms_of_asksFor (h : schema.AsksFor key tag) {other : String}
    (hvalue : value.member? key = some (.text other)) (hne : other ≠ tag) :
    ¬ schema.Conforms value := by
  intro hconforms
  have hsame := hvalue.symm.trans (h value hconforms)
  exact hne (by simpa using hsame)

theorem matching_eq_zero {branches : List JsonSchema}
    (h : ∀ branch ∈ branches, ¬ branch.Conforms value) : matching branches value = 0 := by
  induction branches with
  | nil => rfl
  | cons branch branches ih =>
    obtain ⟨hbranch, hbranches⟩ := List.forall_mem_cons.mp h
    rw [matching, ih hbranches, if_neg]
    exact fun hempty => hbranch (List.isEmpty_iff.mp hempty)

theorem matching_eq_one {choices : List JsonSchema} {tags : List String}
    (hasks : List.Forall₂ (fun branch tag => branch.AsksFor key tag) choices tags)
    (distinct : tags.Nodup) {branch : JsonSchema} (hbranch : branch ∈ choices)
    (h : branch.Conforms value) : matching choices value = 1 := by
  induction hasks with
  | nil => cases hbranch
  | @cons first tag rest tags hfirst hrest ih =>
    obtain ⟨htag, hdistinct⟩ := List.nodup_cons.mp distinct
    rw [matching]
    rcases List.mem_cons.mp hbranch with rfl | hlater
    -- the first branch is met, and what it asks for is asked for by none of the others
    · have hothers : ∀ other ∈ rest, ¬ other.Conforms value := by
        intro other hother
        obtain ⟨otherTag, hmem, hasksOther⟩ := exists_of_forall₂ hrest hother
        refine not_conforms_of_asksFor hasksOther (hfirst value h) ?_
        rintro rfl
        exact htag hmem
      rw [if_pos (List.isEmpty_iff.mpr h), matching_eq_zero hothers]
    -- a later branch is met, which asks for something else than the first
    · obtain ⟨branchTag, hmem, hasksBranch⟩ := exists_of_forall₂ hrest hlater
      have hnot : ¬ first.Conforms value := by
        refine not_conforms_of_asksFor hfirst (hasksBranch value h) ?_
        rintro rfl
        exact htag hmem
      rw [if_neg fun hempty => hnot (List.isEmpty_iff.mp hempty), ih hdistinct hlater]

/-- Where every branch asks for another constant, a value conforms to the choice as soon as it conforms
to a branch. -/
theorem conforms_of_branch {branch : JsonSchema} {tags : List String}
    (hasks : List.Forall₂ (fun branch tag => branch.AsksFor key tag) schema.branches tags)
    (distinct : tags.Nodup) (hbranch : branch ∈ schema.branches) (h : branch.Conforms value) :
    schema.Conforms value := by
  induction schema using branches.induct with
  | case1 choices =>
    have hone : matching choices value = 1 := matching_eq_one hasks distinct hbranch h
    rw [Conforms, violations, hone]
    rfl
  | case2 description schema ih => exact ih hasks hbranch
  | case3 schema hnotChoice hnotDescribed =>
    rw [branches] at hbranch
    · cases hbranch
    · exact hnotChoice
    · exact hnotDescribed

end

end JsonSchema

end OlapSynthesis
