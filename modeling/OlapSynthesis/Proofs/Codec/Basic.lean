import Mathlib.Data.List.Perm.Basic
import OlapSynthesis.Codec.Basic
import OlapSynthesis.Proofs.Except
import OlapSynthesis.Proofs.Json.Arrangement

namespace OlapSynthesis.Codec

/-- Some members of an object, each with its value unless it is left out. -/
abbrev Slots := List (String × Option Json)

def written (slots : Slots) : List (String × Json) :=
  slots.filterMap fun slot => slot.2.map (slot.1, ·)

/-- The array of some values, unless there are none. -/
def filled (encode : α → Json) (values : List α) : Option Json :=
  if values.isEmpty then none else some (.array (values.map encode))

/-- The object of a dictionary, unless that is empty. -/
def entered (encode : α → Json) (d : Dictionary α) : Option Json :=
  if d.isEmpty then none else some (encodeDictionary encode d)

def arranged (arrange : Json → Json) (slots : Slots) : Slots :=
  slots.map fun slot => (slot.1, slot.2.map arrange)

/-- An object has certain members and lacks certain others. It may have more. -/
def Shows (j : Json) (slots : Slots) : Prop :=
  ∃ entries, j = .object entries ∧ (entries.map (·.1)).Nodup ∧
    ∀ slot ∈ slots, entries.lookup slot.1 = slot.2

/-- What a value is encoded to is decoded to it, as it is written and with its keys in order; and so is
the encoding of whatever was decoded, however that had been written. -/
structure RoundTrips (valid : α → Prop) (encode : α → Json) (decode : Json → Decoded α) : Prop where
  back (a : α) : valid a → decode (encode a) = .ok a ∧ decode (encode a).canonical = .ok a
  again (j : Json) (a : α) :
    decode j = .ok a → decode (encode a) = .ok a ∧ decode (encode a).canonical = .ok a

section

variable {slots : Slots} {arrange : Json → Json}

theorem written_cons (slot : String × Option Json) (slots : Slots) :
    written (slot :: slots) = (slot.2.map (slot.1, ·)).toList ++ written slots := by
  obtain ⟨key, value⟩ := slot
  cases value <;> rfl

theorem written_nil : written [] = [] :=
  rfl

theorem whenSome_eq (key : String) (encode : α → Json) (o : Option α) :
    whenSome key encode o = ((o.map encode).map (key, ·)).toList := by
  cases o <;> rfl

theorem whenFilled_eq (key : String) (encode : α → Json) (values : List α) :
    whenFilled key encode values = ((filled encode values).map (key, ·)).toList := by
  cases values <;> rfl

theorem whenEntries_eq (key : String) (encode : α → Json) (d : Dictionary α) :
    whenEntries key encode d = ((entered encode d).map (key, ·)).toList := by
  rw [whenEntries, entered]
  cases d.isEmpty <;> rfl

theorem keys_written_sublist (slots : Slots) :
    ((written slots).map (·.1)).Sublist (slots.map (·.1)) := by
  induction slots with
  | nil => exact .slnil
  | cons slot slots ih =>
    obtain ⟨key, value⟩ := slot
    cases value with
    | none => exact ih.cons key
    | some value => exact ih.cons_cons key

theorem lookup_written (distinct : (slots.map (·.1)).Nodup) {slot : String × Option Json}
    (hslot : slot ∈ slots) : (written slots).lookup slot.1 = slot.2 := by
  have hwritten := distinct.sublist (keys_written_sublist slots)
  obtain ⟨key, value⟩ := slot
  cases value with
  | some value =>
    rw [Dictionary.lookup_eq_some_iff_mem hwritten]
    exact List.mem_filterMap.mpr ⟨_, hslot, rfl⟩
  | none =>
    rw [List.lookup_eq_none_iff]
    intro entry hentry
    rw [bne_iff_ne]
    rintro rfl
    obtain ⟨other, hother, hvalue⟩ := List.mem_filterMap.mp hentry
    obtain ⟨value, hsome, rfl⟩ := Option.map_eq_some_iff.mp hvalue
    have hsame := List.inj_on_of_nodup_map distinct hslot hother rfl
    rw [← hsame] at hsome
    cases hsome

/-- What is written is found again, however it is arranged. -/
theorem shows_arrange (harrange : Json.Arranges arrange) {j : Json}
    (h : j = .object (written slots)) (distinct : (slots.map (·.1)).Nodup) :
    Shows (arrange j) (arranged arrange slots) := by
  have hwritten := distinct.sublist (keys_written_sublist slots)
  obtain ⟨entries, hentries, hperm⟩ := harrange.object _ hwritten
  have hkeys : ((written slots).map (Prod.map id arrange)).map (·.1) = (written slots).map (·.1) := by
    rw [List.map_map]
    rfl
  have hnodup : (entries.map (·.1)).Nodup := by
    rwa [(hperm.map _).nodup_iff, hkeys]
  rw [h]
  refine ⟨entries, hentries, hnodup, ?_⟩
  intro slot hslot
  obtain ⟨original, horiginal, rfl⟩ := List.mem_map.mp hslot
  rw [Dictionary.lookup_eq_of_perm hperm hnodup, Dictionary.lookup_map]
  exact congrArg (Option.map arrange) (lookup_written distinct horiginal)

end

theorem arranged_cons (arrange : Json → Json) (slot : String × Option Json) (slots : Slots) :
    arranged arrange (slot :: slots) = (slot.1, slot.2.map arrange) :: arranged arrange slots :=
  rfl

theorem arranged_nil (arrange : Json → Json) : arranged arrange [] = [] :=
  rfl

section

variable {j : Json} {slots : Slots}

theorem hasTwice_eq_false {entries : List (String × Json)} (distinct : (entries.map (·.1)).Nodup)
    (key : String) : hasTwice key entries = false := by
  have hcount : (entries.filter (·.1 == key)).length = (entries.map (·.1)).count key := by
    rw [List.count_eq_countP, List.countP_map, List.countP_eq_length_filter]
    rfl
  rw [hasTwice, decide_eq_false_iff_not, Nat.not_lt, hcount]
  exact List.nodup_iff_count_le_one.mp distinct key

theorem Shows.tail {slot : String × Option Json} (h : Shows j (slot :: slots)) : Shows j slots := by
  obtain ⟨entries, heq, distinct, hlookup⟩ := h
  exact ⟨entries, heq, distinct, (List.forall_mem_cons.mp hlookup).2⟩

/-- The members of a record are read one by one. -/
theorem Shows.members (h : Shows j slots) (keys : List String) :
    ∃ m : Members, members keys j = .ok m ∧ m.surplus = false ∧
      ∀ slot ∈ slots, ∀ {α : Type} (decode : Json → Decoded α),
        m.read slot.1 decode = slot.2.map decode := by
  obtain ⟨entries, rfl, distinct, hlookup⟩ := h
  have htwice : keys.any (hasTwice · entries) = false := by
    rw [List.any_eq_false]
    intro key _
    rw [hasTwice_eq_false distinct key]
    exact Bool.false_ne_true
  refine ⟨⟨entries, false⟩, ?_, rfl, ?_⟩
  · rw [Codec.members, htwice]
    rfl
  · intro slot hslot α decode
    exact congrArg (Option.map decode) (hlookup slot hslot)

theorem settle_eq_ok {m : Members} (hsurplus : m.surplus = false)
    {errors : List (String × Option DecodeError)} (h : ∀ error ∈ errors, error.2 = none) :
    m.settle errors = .ok () := by
  have hnone : m.entries.findSome? (fun e => (errors.lookup e.1).join) = none := by
    rw [List.findSome?_eq_none_iff]
    intro entry _
    cases hlookup : errors.lookup entry.1 with
    | none => rfl
    | some error =>
      obtain ⟨before, after, rfl, -⟩ := List.lookup_eq_some_iff.mp hlookup
      exact h (entry.1, error) (List.mem_append_right _ List.mem_cons_self)
  rw [Members.settle, hnone, hsurplus]
  rfl

theorem Shows.plainMembers (h : Shows j slots) (keys : List String) :
    ∃ m : Members, plainMembers keys j = .ok m ∧
      ∀ slot ∈ slots, ∀ {α : Type} (decode : Json → Decoded α),
        m.read slot.1 decode = slot.2.map decode := by
  obtain ⟨m, hmembers, hsurplus, hread⟩ := h.members keys
  refine ⟨m, ?_, hread⟩
  rw [Codec.plainMembers, hmembers]
  change (m.settle [] >>= _) = _
  rw [settle_eq_ok hsurplus (List.forall_mem_nil _)]
  rfl

/-- The tag of a tagged value stands apart from its other members. -/
theorem Shows.tagged {arrange : Json → Json} (harrange : Json.Arranges arrange) {key tag : String}
    (h : Shows j (arranged arrange ((key, some (.text tag)) :: slots)))
    (hkey : key ∉ slots.map (·.1)) :
    ∃ rest, tagged key j = .ok (.text tag, rest) ∧ Shows rest (arranged arrange slots) := by
  obtain ⟨entries, rfl, distinct, hlookup⟩ := h
  rw [arranged_cons] at hlookup
  obtain ⟨htag, hslots⟩ := List.forall_mem_cons.mp hlookup
  rw [Option.map_some, harrange.text] at htag
  have hrest : ((entries.filter (·.1 != key)).map (·.1)).Nodup :=
    distinct.sublist (List.filter_sublist.map _)
  refine ⟨.object (entries.filter (·.1 != key)), ?_, _, rfl, hrest, ?_⟩
  · simp only [Codec.tagged, htag]
  · intro slot hslot
    have hne : slot.1 ≠ key := by
      rintro rfl
      obtain ⟨original, horiginal, rfl⟩ := List.mem_map.mp hslot
      exact hkey (List.mem_map.mpr ⟨original, horiginal, rfl⟩)
    rw [← hslots slot hslot]
    refine Option.ext fun value => ?_
    rw [Dictionary.lookup_eq_some_iff_mem distinct, Dictionary.lookup_eq_some_iff_mem hrest,
      List.mem_filter, bne_iff_ne]
    exact and_iff_left hne

theorem exists_of_required {m : Members} {key : String} {decode : Json → Decoded α} {a : α}
    (h : required (m.read key decode) = .ok a) : ∃ j, decode j = .ok a := by
  rw [Members.read] at h
  cases hlookup : m.entries.lookup key with
  | none => rw [hlookup] at h; cases h
  | some j => exact ⟨j, by rwa [hlookup] at h⟩

theorem exists_of_list {decode : Json → Decoded α} {values : List α}
    (h : list decode j = .ok values) {a : α} (ha : a ∈ values) : ∃ item, decode item = .ok a := by
  cases j with
  | array items =>
    rw [list] at h
    obtain ⟨item, -, hitem⟩ := exists_of_mapM_eq_ok h ha
    exact ⟨item, hitem⟩
  | _ => cases h

end

theorem RoundTrips.of_arrange {α : Type} {valid : α → Prop} {encode : α → Json}
    {decode : Json → Decoded α}
    (h : ∀ {arrange}, Json.Arranges arrange → ∀ {a}, valid a → decode (arrange (encode a)) = .ok a)
    (hdecode : ∀ {j a}, decode j = .ok a → valid a) : RoundTrips valid encode decode where
  back _ ha := ⟨h Json.arranges_id ha, h Json.arranges_canonical ha⟩
  again _ _ hj := ⟨h Json.arranges_id (hdecode hj), h Json.arranges_canonical (hdecode hj)⟩

theorem RoundTrips.of_all {α : Type} {encode : α → Json} {decode : Json → Decoded α}
    (h : ∀ {arrange}, Json.Arranges arrange → ∀ a, decode (arrange (encode a)) = .ok a) :
    RoundTrips (fun _ => True) encode decode :=
  .of_arrange (fun harrange a _ => h harrange a) fun _ => trivial

section

variable {α : Type} {encode : α → Json} {decode : Json → Decoded α} {arrange : Json → Json}

@[simp] theorem required_some (result : Decoded α) : required (some result) = result :=
  rfl

@[simp] theorem orElse_some (a : α) (result : Decoded α) : orElse a (some result) = result :=
  rfl

@[simp] theorem fault_some_ok (a : α) : fault (some (Except.ok a : Decoded α)) = none :=
  rfl

theorem fault_eq_none {a b : α} {result : Option (Decoded α)} (h : orElse a result = .ok b) :
    fault result = none := by
  cases result with
  | none => rfl
  | some result =>
    rw [orElse_some] at h
    rw [h, fault_some_ok]

@[simp] theorem text_text (s : String) : text (.text s) = .ok s :=
  rfl

@[simp] theorem bool_bool (b : Bool) : bool (.bool b) = .ok b :=
  rfl

@[simp] theorem char_singleton (c : Char) : char (.text (String.singleton c)) = .ok c := by
  rw [char, String.toList_singleton]

theorem natBelow_nat {n bound : Nat} (h : n < bound) : natBelow bound (.nat n) = .ok n :=
  if_pos h

@[simp] theorem word32_nat (w : UInt32) : word32 (.nat w.toNat) = .ok w := by
  rw [word32, natBelow_nat w.toNat_lt]
  exact congrArg Except.ok (UInt32.ofNat_toNat)

@[simp] theorem word64_nat (w : UInt64) : word64 (.nat w.toNat) = .ok w := by
  rw [word64, natBelow_nat w.toNat_lt]
  exact congrArg Except.ok (UInt64.ofNat_toNat)

theorem nullable_eq_ok {a : α} {j : Json} (hnull : decode .null = .error .shape)
    (h : decode j = .ok a) : nullable decode j = .ok (some a) := by
  cases j with
  | null => rw [hnull] at h; cases h
  | _ =>
    rw [nullable, h]
    · rfl
    · exact fun heq => by cases heq

theorem orElse_nullable {o : Option α} (hnull : decode .null = .error .shape)
    (h : ∀ a ∈ o, decode (arrange (encode a)) = .ok a) :
    orElse none (o.map (nullable decode ∘ arrange ∘ encode)) = .ok o := by
  cases o with
  | none => rfl
  | some a => exact nullable_eq_ok hnull (h a rfl)

variable (harrange : Json.Arranges arrange)

include harrange

theorem list_arrange {values : List α} (h : ∀ a ∈ values, decode (arrange (encode a)) = .ok a) :
    list decode (arrange (.array (values.map encode))) = .ok values := by
  rw [harrange.array, List.map_map, list, mapM_eq_ok_iff, List.forall₂_map_left_iff,
    List.forall₂_same]
  exact h

/-- The members of a dictionary are its entries, in some order. -/
theorem exists_members_dictionary (encode : α → Json) (d : Dictionary α) :
    ∃ members, arrange (encodeDictionary encode d) = .object members ∧
      members.Perm (d.entries.map fun entry => (entry.1, arrange (encode entry.2))) := by
  have hkeys : (d.entries.map fun entry => (entry.1, encode entry.2)).map (·.1) = d.keys := by
    rw [List.map_map]
    rfl
  obtain ⟨members, hmembers, hperm⟩ := harrange.object
    (d.entries.map fun entry => (entry.1, encode entry.2)) (hkeys ▸ d.nodup_keys)
  rw [List.map_map] at hperm
  exact ⟨members, hmembers, hperm⟩

theorem dictionary_arrange {d : Dictionary α}
    (h : ∀ a ∈ d.values, decode (arrange (encode a)) = .ok a) :
    dictionary decode (arrange (encodeDictionary encode d)) = .ok d := by
  obtain ⟨members, hmembers, hperm⟩ := exists_members_dictionary harrange encode d
  -- a member is read where it stands now, so the entries come in the order of the members
  have hread : List.Forall₂ (fun member entry =>
      (decode member.2 >>= fun value => .ok (member.1, value)) = .ok entry)
      (d.entries.map fun entry => (entry.1, arrange (encode entry.2))) d.entries := by
    rw [List.forall₂_map_left_iff, List.forall₂_same]
    intro entry hentry
    have hvalue : decode (arrange (encode entry.2)) = .ok entry.2 :=
      h entry.2 (List.mem_map_of_mem hentry)
    rw [hvalue]
    rfl
  obtain ⟨entries, hentries, hentriesPerm⟩ := List.perm_comp_forall₂ hperm hread
  have hmapM := mapM_eq_ok_iff.mpr hentries
  rw [hmembers, dictionary, ← Dictionary.ofList_of_perm hentriesPerm]
  exact congrArg (· >>= fun entries => .ok (Dictionary.ofList entries)) hmapM

theorem orElse_nullable_text (o : Option String) :
    orElse none (o.map (nullable text ∘ arrange ∘ Json.text)) = .ok o :=
  orElse_nullable rfl fun s _ => by rw [harrange.text, text_text]

theorem nullable_arrange_orNull {o : Option α} (hnull : decode .null = .error .shape)
    (h : ∀ a ∈ o, decode (arrange (encode a)) = .ok a) :
    nullable decode (arrange (orNull encode o)) = .ok o := by
  cases o with
  | none => rw [orNull, harrange.null, nullable]
  | some a => exact nullable_eq_ok hnull (h a rfl)

theorem orElse_filled_arrange {values : List α}
    (h : ∀ a ∈ values, decode (arrange (encode a)) = .ok a) :
    orElse [] ((filled encode values).map (list decode ∘ arrange)) = .ok values := by
  cases values with
  | nil => rfl
  | cons a values => exact list_arrange harrange h

theorem orElse_entered_arrange {d : Dictionary α}
    (h : ∀ a ∈ d.values, decode (arrange (encode a)) = .ok a) :
    orElse ∅ ((entered encode d).map (dictionary decode ∘ arrange)) = .ok d := by
  rw [entered]
  split
  next hempty =>
    have heq : d = ∅ := Dictionary.ext_get? (Dictionary.isEmpty_iff_get?_eq_none.mp hempty)
    rw [heq]
    rfl
  next => exact dictionary_arrange harrange h

theorem list_texts (values : List String) :
    list text (arrange (.texts values)) = .ok values :=
  list_arrange harrange fun s _ => by rw [harrange.text, text_text]

theorem orElse_filled_text (values : List String) :
    orElse [] ((filled Json.text values).map (list text ∘ arrange)) = .ok values :=
  orElse_filled_arrange harrange fun s _ => by rw [harrange.text, text_text]

theorem orElse_entered_text (d : Dictionary String) :
    orElse ∅ ((entered Json.text d).map (dictionary text ∘ arrange)) = .ok d :=
  orElse_entered_arrange harrange fun s _ => by rw [harrange.text, text_text]

end

end OlapSynthesis.Codec
