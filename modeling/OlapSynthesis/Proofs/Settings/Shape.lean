import OlapSynthesis.Proofs.Settings.Overlay

namespace OlapSynthesis

/-- What is expected of a setting. -/
inductive Shape
  /-- Nobody asks for the setting. -/
  | anything
  /-- No table. -/
  | value (accepts : Setting → Prop)
  | table (members : String → Shape)

namespace Shape

def record (fields : List (String × Shape)) : Shape :=
  .table fun key => (fields.lookup key).getD .anything

/-- A table whose keys are names. -/
def dictionary (entry : Shape) : Shape :=
  .table fun _ => entry

def under : Shape → List String → Shape
  | shape, [] => shape
  | .table members, key :: path => (members key).under path
  | _, _ :: _ => .anything

def Fits : Shape → Setting → Prop
  | .anything, _ => True
  | .value accepts, setting => accepts setting ∧ setting.entries? = none
  | .table members, setting => ∃ entries, setting = .table entries ∧
      ∀ key value, entries.lookup key = some value → (members key).Fits value

theorem under_nil (shape : Shape) : shape.under [] = shape := by
  cases shape <;> rfl

variable {shape : Shape} {low high setting : Setting}

theorem Fits.of_mem {members : String → Shape} {entries : List (String × Setting)}
    (h : ∀ entry ∈ entries, (members entry.1).Fits entry.2) :
    (table members).Fits (.table entries) := by
  refine ⟨entries, rfl, ?_⟩
  intro key value hvalue
  obtain ⟨before, after, rfl, -⟩ := List.lookup_eq_some_iff.mp hvalue
  exact h (key, value) (List.mem_append_right _ List.mem_cons_self)

theorem Fits.nested_cons {members : String → Shape} {key : String} {path : List String}
    (h : (members key).Fits (.nested path setting)) :
    (table members).Fits (.nested (key :: path) setting) := by
  apply Fits.of_mem
  intro entry hentry
  cases List.mem_singleton.mp hentry
  exact h

/-- What is under a path fits what is expected there. -/
theorem Fits.at? (h : shape.Fits setting) {path : List String} {found : Setting}
    (hfound : setting.at? path = some found) : (shape.under path).Fits found := by
  induction path generalizing shape setting with
  | nil =>
    cases hfound
    rw [under_nil]
    exact h
  | cons key path ih =>
    cases shape with
    | anything | value => trivial
    | table members =>
      obtain ⟨entries, rfl, hmembers⟩ := h
      obtain ⟨value, hvalue, hrest⟩ := Option.bind_eq_some_iff.mp hfound
      exact ih (hmembers key value hvalue) hrest

/-- Settings of a shape have that shape when they are put together. -/
theorem Fits.overlay (hlow : shape.Fits low) (hhigh : shape.Fits high) (ordered : high.Ordered) :
    shape.Fits (.overlay low high) := by
  induction shape generalizing low high with
  | anything => trivial
  | value accepts =>
    rw [Setting.overlay_of_leaf hhigh.2]
    exact hhigh
  | table members ih =>
    obtain ⟨lowEntries, rfl, hlowMembers⟩ := hlow
    obtain ⟨highEntries, rfl, hhighMembers⟩ := hhigh
    refine ⟨_, Setting.overlay_table _ _, ?_⟩
    intro key value hvalue
    rw [Setting.lookup_overlayEntries ordered.keys] at hvalue
    cases hl : lowEntries.lookup key with
    | none =>
      rw [hl, Option.merge_none_left] at hvalue
      exact hhighMembers key value hvalue
    | some lowValue =>
      cases hh : highEntries.lookup key with
      | none =>
        rw [hl, hh, Option.merge_none_right] at hvalue
        cases hvalue
        exact hlowMembers key _ hl
      | some highValue =>
        rw [hl, hh] at hvalue
        cases hvalue
        exact ih key (hlowMembers key lowValue hl) (hhighMembers key highValue hh)
          (ordered.of_lookup hh)

/-- What stands under a path after settings of a shape are put together. -/
theorem at?_overlay (hlow : shape.Fits low) (hhigh : shape.Fits high) (ordered : high.Ordered)
    {path : List String} (known : shape.under path ≠ .anything) :
    (Setting.overlay low high).at? path =
      Option.merge .overlay (low.at? path) (high.at? path) := by
  induction path generalizing shape low high with
  | nil => rfl
  | cons key path ih =>
    cases shape with
    | anything | value => exact absurd rfl known
    | table members =>
      obtain ⟨lowEntries, rfl, hlowMembers⟩ := hlow
      obtain ⟨highEntries, rfl, hhighMembers⟩ := hhigh
      rw [Setting.overlay_table]
      simp only [Setting.at?, Setting.lookup_overlayEntries ordered.keys]
      cases hl : lowEntries.lookup key with
      | none => cases highEntries.lookup key <;> simp
      | some lowValue =>
        cases hh : highEntries.lookup key with
        | none => simp
        | some highValue =>
          exact ih (hlowMembers key lowValue hl) (hhighMembers key highValue hh)
            (ordered.of_lookup hh) known

end Shape

namespace Setting

/-- What the highest of some layers that has something under a path has there. The lowest layer
stands first. -/
def highest? (layers : List Setting) (path : List String) : Option Setting :=
  layers.reverse.findSome? (at? path)

theorem highest?_append (low high : List Setting) (path : List String) :
    highest? (low ++ high) path = (highest? high path).or (highest? low path) := by
  rw [highest?, List.reverse_append, List.findSome?_append]
  rfl

/-- What some layers of a shape come to. -/
structure Merges (shape : Shape) (layers : List Setting) (merged : Setting) : Prop where
  fits : shape.Fits merged
  ordered : merged.Ordered
  value : ∀ path accepts, shape.under path = .value accepts → merged.at? path = highest? layers path
  table : ∀ path members, path ≠ [] → shape.under path = .table members →
    ((merged.at? path).isSome ↔ ∃ layer ∈ layers, (layer.at? path).isSome)

namespace Merges

variable {shape : Shape} {layers highLayers : List Setting} {low high merged : Setting}

theorem empty (members : String → Shape) : Merges (.table members) [] emptyTable where
  fits := ⟨[], rfl, fun _ _ h => by cases h⟩
  ordered := .emptyTable
  value path accepts hpath := by
    cases path with
    | nil => cases hpath
    | cons key path => rfl
  table path _ hne _ := by
    cases path with
    | nil => exact absurd rfl hne
    | cons key path => simp [at?, emptyTable]

theorem single (fits : shape.Fits merged) (ordered : merged.Ordered) :
    Merges shape [merged] merged where
  fits := fits
  ordered := ordered
  value path _ _ := by simp [highest?]
  table path _ _ _ := by simp

theorem overlay (hlow : Merges shape layers low) (hhigh : Merges shape highLayers high) :
    Merges shape (layers ++ highLayers) (.overlay low high) where
  fits := hlow.fits.overlay hhigh.fits hhigh.ordered
  ordered := hlow.ordered.overlay hhigh.ordered
  value path accepts hpath := by
    have known : shape.under path ≠ .anything := by simp [hpath]
    rw [Shape.at?_overlay hlow.fits hhigh.fits hhigh.ordered known, highest?_append,
      ← hlow.value path accepts hpath, ← hhigh.value path accepts hpath]
    cases hh : high.at? path with
    | none => simp
    | some found =>
      have hleaf : found.entries? = none := by
        have hfound := hhigh.fits.at? hh
        rw [hpath] at hfound
        exact hfound.2
      cases low.at? path with
      | none => rfl
      | some lowFound => exact congrArg some (overlay_of_leaf hleaf lowFound)
  table path members hne hpath := by
    have known : shape.under path ≠ .anything := by simp [hpath]
    rw [Shape.at?_overlay hlow.fits hhigh.fits hhigh.ordered known]
    simp only [List.mem_append, or_and_right, exists_or, ← hlow.table path members hne hpath,
      ← hhigh.table path members hne hpath]
    cases low.at? path <;> cases high.at? path <;> simp

/-- One layer after the other is put on top. -/
theorem foldl_overlay (hlow : Merges shape layers low)
    (h : ∀ layer ∈ highLayers, shape.Fits layer ∧ layer.Ordered) :
    Merges shape (layers ++ highLayers) (highLayers.foldl Setting.overlay low) := by
  induction highLayers generalizing layers low with
  | nil =>
    rw [List.append_nil]
    exact hlow
  | cons layer later ih =>
    obtain ⟨⟨hfits, hordered⟩, hlater⟩ := List.forall_mem_cons.mp h
    rw [List.append_cons]
    exact ih (hlow.overlay (.single hfits hordered)) hlater

end Merges

end Setting

end OlapSynthesis
