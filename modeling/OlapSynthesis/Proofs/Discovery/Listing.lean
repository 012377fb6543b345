import Mathlib.Data.List.Forall2
import OlapSynthesis.Discovery
import OlapSynthesis.Proofs.Discovery.PathOrder

namespace OlapSynthesis

namespace Path

theorem join_of_isAbsolute {path : String} (h : isAbsolute path = true) (directory : String) :
    join directory path = path := by
  rw [join, if_pos h]

theorem join_empty (path : String) : join "" path = path := by
  unfold join
  split
  · rfl
  · exact String.empty_append

theorem isAbsolute_join {directory : String} (h : isAbsolute directory = true) (path : String) :
    isAbsolute (join directory path) = true := by
  have happend (rest : String) : isAbsolute (directory ++ rest) = true := by
    rw [isAbsolute_append _ rest, h]
    rintro rfl
    cases h
  unfold join
  split
  · assumption
  · split
    · exact happend path
    · rw [String.append_assoc]
      exact happend ("/" ++ path)

theorem isAbsolute_below {directory : String} (h : isAbsolute directory = true) (path : String) :
    isAbsolute (below directory path) = true := by
  unfold below
  split
  · exact h
  · exact isAbsolute_join h path

end Path

/-- A file holds a readable manifest of a layout, which is then called after the file. -/
inductive Files.Describes (files : Files) (path : String) : SourceLayout → Prop
  | intro {text : String} {manifest : Manifest} {layout : SourceLayout}
      (readable : files.readText? path = some text) (valid : Manifest.ofText? text = some manifest)
      (columns : SourceLayout.ofTags (Path.stem path) manifest.separator manifest.columns = .ok layout) :
      Files.Describes files path (layout.withOrigin path)

namespace Discovery

variable {discovery : Discovery} {directory pattern : String} {files : List String}

/-- Paths below a directory that was looked up are not looked up anywhere else. -/
def Settled (discovery : Discovery) (directory : String) : Prop :=
  ∀ base, discovery.base = some base →
    base = "" ∨ Path.isAbsolute base = true ∨ Path.isAbsolute directory = true

theorem mem_matching (h : discovery.matching directory pattern = .ok files) {file : String}
    (hfile : file ∈ files) : ∃ path, file = Path.below (discovery.resolve directory) path := by
  unfold matching at h
  split at h
  · cases h
  · split at h
    · cases h
    · dsimp only at h
      split at h
      · cases h
      next entries hwalk =>
        cases h
        obtain ⟨entry, hentry, rfl⟩ := List.mem_map.mp (List.mem_mergeSort.mp hfile)
        obtain ⟨hmem, hchosen⟩ := List.mem_filter.mp hentry
        unfold walk? at hwalk
        split at hwalk
        · cases hwalk
          cases List.mem_singleton.mp hmem
          cases hchosen
        · exact discovery.files.walk.within hwalk entry hmem

/-- A listed path is where it says. -/
theorem resolve_of_mem_matching (settled : discovery.Settled directory)
    (listed : discovery.matching directory pattern = .ok files) {file : String}
    (hfile : file ∈ files) : discovery.resolve file = file := by
  obtain ⟨path, rfl⟩ := mem_matching listed hfile
  unfold resolve
  cases hbase : discovery.base with
  | none => rfl
  | some base =>
    dsimp only
    rcases settled base hbase with rfl | habsolute | habsolute
    · exact Path.join_empty _
    · apply Path.join_of_isAbsolute
      apply Path.isAbsolute_below
      exact Path.isAbsolute_join habsolute directory
    · apply Path.join_of_isAbsolute
      apply Path.isAbsolute_below
      rw [Path.join_of_isAbsolute habsolute]
      exact habsolute

/-- What stands under a path is read if the path is where it says. -/
theorem read_of_describes {file : String} {layout : SourceLayout}
    (hfile : discovery.resolve file = file) (h : discovery.files.Describes file layout) :
    discovery.read file = .ok layout := by
  obtain ⟨readable, valid, columns⟩ := h
  simp only [read, hfile, readable, valid, columns]

theorem mapM_read_of_describes {layouts : List SourceLayout}
    (hfiles : ∀ file ∈ files, discovery.resolve file = file)
    (h : List.Forall₂ discovery.files.Describes files layouts) :
    files.mapM discovery.read = .ok layouts := by
  induction h with
  | nil => rfl
  | cons hdescribes _ ih =>
    obtain ⟨hfile, hrest⟩ := List.forall_mem_cons.mp hfiles
    rw [List.mapM_cons, read_of_describes hfile hdescribes, ih hrest]
    rfl

theorem template_of_location {name : String} {source : SourceSettings}
    (hlocation : source.location name = .ok (.directory directory pattern))
    (listed : discovery.matching directory pattern = .ok files) :
    discovery.template name source =
      files.head?.elim (.error (.noMatch (discovery.resolve directory) pattern)) .ok := by
  rw [template, hlocation]
  change (discovery.matching directory pattern >>= _) = _
  rw [listed]
  cases files <;> rfl

theorem layouts_of_location {name : String} {group : ReferenceSettings} {files : List String}
    (hlocation : group.location name = .ok (directory, pattern))
    (listed : discovery.matching directory pattern = .ok files) :
    discovery.layouts name group = files.mapM discovery.read := by
  have hmembers : discovery.members name group = .ok files := by
    rw [members, hlocation]
    exact listed
  rw [layouts, hmembers]
  rfl

/-- If the files that are listed hold readable manifests, then a source with the directory gets the
layout of the first of them, or is told that there is none, and a reference group gets all layouts,
in the order of the files; unless the directory is relative and the base directory is as well. -/
theorem reads_listed {layouts : List SourceLayout}
    (listed : discovery.matching directory pattern = .ok files)
    (described : List.Forall₂ discovery.files.Describes files layouts)
    (settled : discovery.Settled directory) :
    (∀ name source, source.location name = .ok (.directory directory pattern) →
      discovery.layout name source =
        layouts.head?.elim (.error (.noMatch (discovery.resolve directory) pattern)) .ok) ∧
    ∀ name group, group.location name = .ok (directory, pattern) →
      discovery.layouts name group = .ok layouts := by
  have hfiles : ∀ file ∈ files, discovery.resolve file = file := fun file =>
    resolve_of_mem_matching settled listed
  constructor
  · intro name source hlocation
    rw [layout, template_of_location hlocation listed]
    cases described with
    | nil => rfl
    | cons hfirst hrest => exact read_of_describes (hfiles _ List.mem_cons_self) hfirst
  · intro name group hlocation
    rw [layouts_of_location hlocation listed]
    exact mapM_read_of_describes hfiles described

end Discovery

instance decidableEqExcept [DecidableEq ε] [DecidableEq α] : DecidableEq (Except ε α)
  | .ok a, .ok b => decidable_of_iff (a = b) (by simp)
  | .error cause, .error other => decidable_of_iff (cause = other) (by simp)
  | .ok _, .error _ => isFalse (by simp)
  | .error _, .ok _ => isFalse (by simp)

/-- A relative directory below an absolute base directory. -/
theorem Discovery.reads_listed_absolute_base :
    let text := "\x7b\"columns\":[\x7b\"name\":\"ccy\",\"type\":\"string\"\x7d]\x7d"
    let tree : FileTree :=
      .directory [("b", .directory [("d", .directory [("a.json", .file text.toUTF8)])])]
    let discovery : Discovery := ⟨tree.files "/", some "/b"⟩
    let source : SourceSettings := { SourceSettings.default with directory := some "d" }
    discovery.matching "d" "**/*.json" = .ok ["/b/d/a.json"] ∧ discovery.Settled "d" ∧
      discovery.layout "trades" source =
        .ok ⟨"a", ',', [⟨"ccy", .string⟩], some "/b/d/a.json"⟩ := by
  intro text tree discovery source
  have listed : discovery.matching "d" "**/*.json" = .ok ["/b/d/a.json"] := by decide +kernel
  have readable : discovery.files.readText? "/b/d/a.json" = some text := by decide +kernel
  have valid : Manifest.ofText? text = some ⟨',', [("ccy", "string")]⟩ := by decide +kernel
  have columns : SourceLayout.ofTags (Path.stem "/b/d/a.json") ',' [("ccy", "string")] =
      .ok ⟨"a", ',', [⟨"ccy", .string⟩], none⟩ := by decide +kernel
  have settled : discovery.Settled "d" := by
    intro base hbase
    cases hbase
    exact .inr (.inl rfl)
  have described : List.Forall₂ discovery.files.Describes ["/b/d/a.json"] _ :=
    .cons (.intro readable valid columns) .nil
  have hlocation : source.location "trades" = .ok (.directory "d" "**/*.json") := by
    decide +kernel
  exact ⟨listed, settled, (reads_listed listed described settled).1 "trades" source hlocation⟩

/-- A relative directory below a relative base directory: the file is listed and holds a manifest, but
it is read from where it is not. -/
theorem Discovery.listed_not_read :
    let text := "\x7b\"columns\":[\x7b\"name\":\"ccy\",\"type\":\"string\"\x7d]\x7d"
    let tree : FileTree :=
      .directory [("b", .directory [("d", .directory [("a.json", .file text.toUTF8)])])]
    let discovery : Discovery := ⟨tree.files "/", some "b"⟩
    let source : SourceSettings := { SourceSettings.default with directory := some "d" }
    let group : ReferenceSettings := { ReferenceSettings.default with directory := some "d" }
    discovery.matching "d" "**/*.json" = .ok ["b/d/a.json"] ∧
      discovery.files.Describes "b/d/a.json"
        ⟨"a", ',', [⟨"ccy", .string⟩], some "b/d/a.json"⟩ ∧
      source.location "trades" = .ok (.directory "d" "**/*.json") ∧
      discovery.layout "trades" source = .error (.unreadable "b/b/d/a.json") ∧
      group.location "rates" = .ok ("d", "**/*.json") ∧
      discovery.layouts "rates" group = .error (.unreadable "b/b/d/a.json") := by
  intro text tree discovery source group
  have readable : discovery.files.readText? "b/d/a.json" = some text := by decide +kernel
  have valid : Manifest.ofText? text = some ⟨',', [("ccy", "string")]⟩ := by decide +kernel
  have columns : SourceLayout.ofTags (Path.stem "b/d/a.json") ',' [("ccy", "string")] =
      .ok ⟨"a", ',', [⟨"ccy", .string⟩], none⟩ := by decide +kernel
  refine ⟨by decide +kernel, .intro readable valid columns, by decide +kernel, by decide +kernel,
    by decide +kernel, by decide +kernel⟩

end OlapSynthesis
