import Mathlib.Data.String.Basic
import Mathlib.Order.Bounds.Basic
import OlapSynthesis.Proofs.Discovery.FileTree
import OlapSynthesis.Proofs.Discovery.Listing
import OlapSynthesis.Proofs.Except
import OlapSynthesis.Proofs.Generation.References

namespace OlapSynthesis

/-- A pattern that a matcher can be built for. -/
structure Glob.Usable (pattern : String) (glob : Glob) : Prop where
  understood : Glob.ofPattern? pattern = some glob
  shallow : glob.depth ≤ Glob.maxDepth

namespace FileTree

/-- The files of a tree that a glob accepts by their paths from the top. -/
def chosen (tree : FileTree) (glob : Glob) : Set (List String) :=
  {names | tree.HasEntry names .file ∧ glob.accepts (Path.ofNames names) = true}

/-- A list of the chosen files, each once, in the order of their names. -/
structure Selection (tree : FileTree) (glob : Glob) (selected : List (List String)) : Prop where
  complete : ∀ names, names ∈ selected ↔ names ∈ tree.chosen glob
  increasing : selected.Pairwise (· < ·)

variable {tree : FileTree} {glob : Glob} {selected : List (List String)} {names other : List String}

/-- The chosen files, in the order of the tree. -/
def choose (tree : FileTree) (glob : Glob) : List (List String) :=
  (tree.nodes.filter fun node => node.2 == .file && glob.accepts (Path.ofNames node.1)).map (·.1)

theorem mem_choose_iff : names ∈ tree.choose glob ↔ names ∈ tree.chosen glob := by
  simp only [choose, List.mem_map, List.mem_filter, Bool.and_eq_true, beq_iff_eq]
  constructor
  · rintro ⟨⟨names, _⟩, ⟨hnode, rfl, haccepted⟩, rfl⟩
    exact ⟨mem_nodes_iff.mp hnode, haccepted⟩
  · rintro ⟨hfile, haccepted⟩
    exact ⟨(names, .file), ⟨mem_nodes_iff.mpr hfile, rfl, haccepted⟩, rfl⟩

theorem exists_selection (hproper : tree.Proper) (glob : Glob) :
    ∃ selected, tree.Selection glob selected := by
  have hperm : ((tree.choose glob).mergeSort (decide <| · ≤ ·)).Perm (tree.choose glob) :=
    List.mergeSort_perm _ _
  refine ⟨(tree.choose glob).mergeSort (decide <| · ≤ ·), ?_, ?_⟩
  · intro names
    rw [hperm.mem_iff, mem_choose_iff]
  · have hordered : ((tree.choose glob).mergeSort (decide <| · ≤ ·)).Pairwise
        (decide <| · ≤ ·) := by
      apply List.pairwise_mergeSort
      · intro names middle later hle hlater
        rw [decide_eq_true_iff] at *
        exact le_trans hle hlater
      · intro names later
        simpa using le_total names later
    have hnodup : ((tree.choose glob).mergeSort (decide <| · ≤ ·)).Nodup :=
      hperm.nodup_iff.mpr ((List.filter_sublist.map _).nodup hproper.nodup_names)
    refine (hordered.and hnodup).imp ?_
    rintro names later ⟨hle, hne⟩
    exact lt_of_le_of_ne (of_decide_eq_true hle) hne

theorem Selection.isName (h : tree.Selection glob selected) (hproper : tree.Proper)
    (hnames : names ∈ selected) : ∀ name ∈ names, Path.IsName name :=
  ((h.complete names).mp hnames).1.isName hproper

theorem Selection.nodup_paths (h : tree.Selection glob selected) (hproper : tree.Proper)
    (directory : String) :
    (selected.map fun names => Path.below directory (Path.ofNames names)).Nodup := by
  apply List.Nodup.map_on
  · intro names hnames other hother
    exact Path.below_injective directory (h.isName hproper hnames) (h.isName hproper hother)
  · exact h.increasing.imp ne_of_lt

theorem chooses_iff {directory : String} {entry : Entry} (h : ∀ name ∈ names, Path.IsName name)
    (hpath : Path.below directory (Path.ofNames names) = entry.path) :
    Discovery.chooses glob directory entry = true ↔
      entry.kind = .file ∧ glob.accepts (Path.ofNames names) = true := by
  rw [Discovery.chooses, ← hpath, Path.strip?_below directory h, Option.getD_some, Bool.and_eq_true,
    Entry.isFile, beq_iff_eq]

/-- Of what a walk comes by, exactly the selected files are chosen. -/
theorem Selection.mem_chosen_iff (h : tree.Selection glob selected) (hproper : tree.Proper)
    {directory : String} {listed : List Entry} (hlisted : tree.Enumeration directory listed)
    (path : String) :
    path ∈ (listed.filter (Discovery.chooses glob directory)).map (·.path) ↔
      path ∈ selected.map fun names => Path.below directory (Path.ofNames names) := by
  rw [List.mem_map, List.mem_map]
  constructor
  · rintro ⟨entry, hentry, rfl⟩
    obtain ⟨hmem, hchosen⟩ := List.mem_filter.mp hentry
    obtain ⟨names, hhas, hpath⟩ := (hlisted.complete entry).mp hmem
    obtain ⟨hfile, haccepted⟩ := (chooses_iff (hhas.isName hproper) hpath).mp hchosen
    exact ⟨names, (h.complete names).mpr ⟨hfile ▸ hhas, haccepted⟩, hpath⟩
  · rintro ⟨names, hnames, rfl⟩
    obtain ⟨hhas, haccepted⟩ := (h.complete names).mp hnames
    refine ⟨⟨_, .file⟩, List.mem_filter.mpr ⟨?_, ?_⟩, rfl⟩
    · exact (hlisted.complete _).mpr ⟨names, hhas, rfl⟩
    · exact (chooses_iff (hhas.isName hproper) rfl).mpr ⟨rfl, haccepted⟩

theorem Enumeration.nodup_chosen {directory : String} {listed : List Entry}
    (hlisted : tree.Enumeration directory listed) (glob : Glob) :
    ((listed.filter (Discovery.chooses glob directory)).map (·.path)).Nodup := by
  apply List.Nodup.map_on _ (hlisted.once.filter _)
  have hfile {entry : Entry} (h : entry ∈ listed.filter (Discovery.chooses glob directory)) :
      entry.kind = .file :=
    beq_iff_eq.mp (Bool.and_eq_true_iff.mp (List.mem_filter.mp h).2).1
  rintro ⟨path, kind⟩ hentry ⟨other, kind'⟩ hother hpath
  exact congrArg₂ Entry.mk hpath ((hfile hentry).trans (hfile hother).symm)

/-- Whatever the order of a walk is, sorting leaves the selection. -/
theorem Selection.sorted (h : tree.Selection glob selected) (hproper : tree.Proper)
    {directory : String} {listed : List Entry} (hlisted : tree.Enumeration directory listed) :
    ((listed.filter (Discovery.chooses glob directory)).map (·.path)).mergeSort Path.precedes =
      selected.map fun names => Path.below directory (Path.ofNames names) := by
  have hperm : (((listed.filter (Discovery.chooses glob directory)).map
      (·.path)).mergeSort Path.precedes).Perm
        (selected.map fun names => Path.below directory (Path.ofNames names)) :=
    (List.mergeSort_perm _ _).trans <| (List.perm_ext_iff_of_nodup (hlisted.nodup_chosen glob)
      (h.nodup_paths hproper directory)).mpr (h.mem_chosen_iff hproper hlisted)
  have hright : (selected.map fun names => Path.below directory (Path.ofNames names)).Pairwise
      (Path.precedes · ·) := by
    rw [List.pairwise_map]
    refine h.increasing.imp_of_mem ?_
    intro names other hnames hother hlt
    exact (Path.precedes_below_iff directory (h.isName hproper hnames)
      (h.isName hproper hother)).mpr hlt.le
  apply List.Perm.eq_of_pairwise _
    (List.pairwise_mergeSort Path.precedes_trans Path.precedes_total _) hright hperm
  intro path later hpath hlater hle hge
  obtain ⟨names, hnames, rfl⟩ := List.mem_map.mp (hperm.mem_iff.mp hpath)
  obtain ⟨other, hother, rfl⟩ := List.mem_map.mp hlater
  have hisName := h.isName hproper hnames
  have hisName' := h.isName hproper hother
  rw [Path.precedes_below_iff directory hisName hisName'] at hle
  rw [Path.precedes_below_iff directory hisName' hisName] at hge
  rw [le_antisymm hle hge]

theorem Selection.unique {again : List (List String)} (h : tree.Selection glob selected)
    (hagain : tree.Selection glob again) : selected = again := by
  have hperm : selected.Perm again := by
    rw [List.perm_ext_iff_of_nodup (h.increasing.imp ne_of_lt) (hagain.increasing.imp ne_of_lt)]
    intro names
    rw [h.complete, hagain.complete]
  apply List.Perm.eq_of_pairwise _ h.increasing hagain.increasing hperm
  intro names other _ _ hlt hgt
  exact absurd hgt hlt.not_gt

theorem Selection.head?_eq_some_iff (h : tree.Selection glob selected) :
    selected.head? = some names ↔ IsLeast (tree.chosen glob) names := by
  constructor
  · intro hhead
    obtain ⟨later, rfl⟩ := List.head?_eq_some_iff.mp hhead
    constructor
    · exact (h.complete names).mp List.mem_cons_self
    · intro other hother
      rcases List.mem_cons.mp ((h.complete other).mpr hother) with rfl | hlater
      · exact le_rfl
      · exact ((List.pairwise_cons.mp h.increasing).1 other hlater).le
  · intro hleast
    cases selected with
    | nil => exact absurd ((h.complete names).mpr hleast.1) List.not_mem_nil
    | cons first later =>
      rcases List.mem_cons.mp ((h.complete names).mpr hleast.1) with rfl | hlater
      · rfl
      · have hlt := (List.pairwise_cons.mp h.increasing).1 names hlater
        have hle := hleast.2 ((h.complete first).mp List.mem_cons_self)
        exact absurd hle (not_le.mpr hlt)

theorem Selection.eq_nil_of_chosen_eq_empty (h : tree.Selection glob selected)
    (hempty : tree.chosen glob = ∅) : selected = [] := by
  rw [List.eq_nil_iff_forall_not_mem]
  intro names hnames
  have hchosen := (h.complete names).mp hnames
  rw [hempty] at hchosen
  exact hchosen

end FileTree

namespace Discovery

/-- The same files, met on another walk. -/
def walking (discovery : Discovery) (walk : Walk) : Discovery :=
  { discovery with files := { discovery.files with walk } }

/-- A walk of a directory succeeds and comes by everything in a tree, once each. -/
def Walks (discovery : Discovery) (directory : String) (tree : FileTree) : Prop :=
  ∃ listed, discovery.walk? (discovery.resolve directory) = some listed ∧
    tree.Enumeration (discovery.resolve directory) listed

def place (discovery : Discovery) (directory : String) (names : List String) : String :=
  Path.below (discovery.resolve directory) (Path.ofNames names)

variable {discovery : Discovery} {directory pattern : String} {tree : FileTree} {glob : Glob}
  {selected : List (List String)}

/-- A file system that is held as a tree is walked like this. -/
theorem exists_walks {root : FileTree} {here : String} {listed : List Entry}
    (hproper : root.Proper) (hfiles : discovery.files = root.files here)
    (hinput : isStandardInput (discovery.resolve directory) = false)
    (hwalk : discovery.walk? (discovery.resolve directory) = some listed) :
    ∃ found : FileTree, found.Proper ∧ discovery.Walks directory found := by
  have hlisted := hwalk
  rw [walk?, hinput, hfiles] at hlisted
  obtain ⟨found, hfound, hlisted⟩ := Option.bind_eq_some_iff.mp hlisted
  have hproper' := hproper.of_find? hfound
  exact ⟨found, hproper', listed, hwalk, hproper'.enumeration_of_list? hlisted⟩

theorem Walks.matching_eq (h : discovery.Walks directory tree) (hproper : tree.Proper)
    (hpattern : Glob.Usable pattern glob) (hselection : tree.Selection glob selected) :
    discovery.matching directory pattern = .ok (selected.map (discovery.place directory)) := by
  obtain ⟨listed, hwalk, hlisted⟩ := h
  rw [matching, hpattern.understood]
  dsimp only
  rw [if_neg (Nat.not_lt.mpr hpattern.shallow), hwalk]
  dsimp only
  rw [hselection.sorted hproper hlisted]
  rfl

theorem increasing_places (hproper : tree.Proper) (hselection : tree.Selection glob selected)
    (discovery : Discovery) (directory : String) :
    (selected.map (discovery.place directory)).Pairwise
      fun path later => Path.components path < Path.components later := by
  rw [List.pairwise_map]
  refine hselection.increasing.imp_of_mem ?_
  intro names other hnames hother hlt
  exact Path.components_below_lt _ (hselection.isName hproper hnames)
    (hselection.isName hproper hother) hlt

theorem origin_of_read {path : String} {layout : SourceLayout}
    (h : discovery.read path = .ok layout) : layout.origin = some (discovery.resolve path) := by
  unfold read at h
  dsimp only at h
  split at h
  · cases h
  · split at h
    · cases h
    · split at h
      · cases h
      · cases h
        rfl

/-- What discovery makes of a directory if certain files of a tree are chosen: the least of them
describes a source, and all of them describe the stores of a reference group, in their order. -/
structure Follows (discovery : Discovery) (tree : FileTree) (glob : Glob)
    (directory pattern : String) (selected : List (List String)) : Prop where
  matching : discovery.matching directory pattern = .ok (selected.map (discovery.place directory))
  increasing : (selected.map (discovery.place directory)).Pairwise
    fun path later => Path.components path < Path.components later
  least : ∀ name source, source.location name = .ok (.directory directory pattern) →
    ∀ names, IsLeast (tree.chosen glob) names →
      discovery.template name source = .ok (discovery.place directory names) ∧
      discovery.layout name source = discovery.read (discovery.place directory names)
  nothing : ∀ name source, source.location name = .ok (.directory directory pattern) →
    tree.chosen glob = ∅ →
      discovery.layout name source = .error (.noMatch (discovery.resolve directory) pattern)
  layouts : ∀ name group, group.location name = .ok (directory, pattern) →
    discovery.layouts name group =
      (selected.map (discovery.place directory)).mapM discovery.read
  stores : ∀ name group, group.location name = .ok (directory, pattern) →
    ∀ shared before after,
      Generation.layOutGroup discovery.survey shared before (name, group) = .ok after →
      ∃ parts, after.references = before.references ++ parts ∧
        parts.map (·.binding.origin) =
          selected.map fun names => some (discovery.resolve (discovery.place directory names))

theorem origins_of_reads {files : List String} {layouts : List SourceLayout}
    (h : List.Forall₂ (fun file layout => discovery.read file = .ok layout) files layouts) :
    layouts.map (·.origin) = files.map fun file => some (discovery.resolve file) := by
  induction h with
  | nil => rfl
  | cons hread _ ih => rw [List.map_cons, List.map_cons, ih, origin_of_read hread]

/-- The stores of a group come in the order of the files that describe them. -/
theorem origins_of_layOutGroup {name : String} {group : ReferenceSettings} {files : List String}
    {shared : Generation.Shared} {before after : Generation.Stores}
    (hlayouts : discovery.layouts name group = files.mapM discovery.read)
    (h : Generation.layOutGroup discovery.survey shared before (name, group) = .ok after) :
    ∃ parts, after.references = before.references ++ parts ∧
      parts.map (·.binding.origin) = files.map fun file => some (discovery.resolve file) := by
  rw [Generation.layOutGroup_eq, Generation.unlessFailed_eq_ok_iff] at h
  obtain ⟨hfailures, rfl⟩ := h
  have hgroup : Generation.referenceFailures discovery.survey before.names [(name, group)] = [] := by
    rw [Generation.referenceFailures, hfailures]
    rfl
  obtain ⟨hfound, hwrong, -⟩ := Generation.of_referenceFailures_cons_eq_nil hgroup
  have hread := mapM_eq_ok_iff.mp (hlayouts.symm.trans (Finding.of_eq_found_iff.mp hfound))
  refine ⟨_, rfl, ?_⟩
  rw [← origins_of_reads hread]
  have horigins := congrArg (List.map (·.origin))
    (Generation.bindings_of_layoutsFailures shared hwrong)
  rwa [List.map_map, List.map_map] at horigins

theorem Walks.follows (h : discovery.Walks directory tree) (hproper : tree.Proper)
    (hpattern : Glob.Usable pattern glob) (hselection : tree.Selection glob selected) :
    discovery.Follows tree glob directory pattern selected := by
  have listed := h.matching_eq hproper hpattern hselection
  constructor
  · exact listed
  · exact increasing_places hproper hselection discovery directory
  · intro name source hlocation names hleast
    have htemplate : discovery.template name source = .ok (discovery.place directory names) := by
      rw [template_of_location hlocation listed, List.head?_map,
        hselection.head?_eq_some_iff.mpr hleast]
      rfl
    rw [layout, htemplate]
    exact ⟨rfl, rfl⟩
  · intro name source hlocation hempty
    rw [layout, template_of_location hlocation listed,
      hselection.eq_nil_of_chosen_eq_empty hempty]
    rfl
  · intro name group hlocation
    exact layouts_of_location hlocation listed
  · intro name group hlocation shared before after hafter
    obtain ⟨parts, hparts, horigins⟩ :=
      origins_of_layOutGroup (layouts_of_location hlocation listed) hafter
    rw [List.map_map] at horigins
    exact ⟨parts, hparts, horigins⟩

/-- Two ways to walk directories lead to the same answers about a directory. -/
structure Agrees (discovery other : Discovery) (directory pattern : String) : Prop where
  matching : discovery.matching directory pattern = other.matching directory pattern
  layout : ∀ name source, source.location name = .ok (.directory directory pattern) →
    discovery.template name source = other.template name source ∧
    discovery.layout name source = other.layout name source
  layouts : ∀ name group, group.location name = .ok (directory, pattern) →
    discovery.layouts name group = other.layouts name group

theorem agrees_of_matching {walk : Walk}
    (h : discovery.matching directory pattern =
      (discovery.walking walk).matching directory pattern) :
    discovery.Agrees (discovery.walking walk) directory pattern := by
  constructor
  · exact h
  · intro name source hlocation
    have htemplate : discovery.template name source =
        (discovery.walking walk).template name source := by
      rw [template, template, hlocation]
      change (discovery.matching directory pattern >>= _) =
        ((discovery.walking walk).matching directory pattern >>= _)
      rw [h]
      rfl
    rw [layout, layout, htemplate]
    exact ⟨rfl, rfl⟩
  · intro name group hlocation
    have hmembers : discovery.members name group =
        (discovery.walking walk).members name group := by
      rw [members, members, hlocation]
      exact h
    rw [Discovery.layouts, Discovery.layouts, hmembers]
    rfl

/-- The order in which a walk comes by what is in a directory makes no difference. For a pattern of
use, the chosen files are the regular files whose path from the directory it accepts, hidden or not,
each once and in the order of the components of their paths; and discovery goes by them. -/
theorem enumeration_irrelevant {walk : Walk} (hproper : tree.Proper)
    (hwalks : discovery.Walks directory tree)
    (hagain : (discovery.walking walk).Walks directory tree) (pattern : String) :
    discovery.Agrees (discovery.walking walk) directory pattern ∧
      ∀ glob, Glob.Usable pattern glob → ∃ selected, tree.Selection glob selected ∧
        discovery.Follows tree glob directory pattern selected ∧
        (discovery.walking walk).Follows tree glob directory pattern selected := by
  constructor
  · apply agrees_of_matching
    cases hglob : Glob.ofPattern? pattern with
    | none => simp only [matching, hglob]
    | some glob =>
      by_cases hdeep : Glob.maxDepth < glob.depth
      · simp only [matching, hglob, if_pos hdeep]
      · have hpattern : Glob.Usable pattern glob := ⟨hglob, Nat.not_lt.mp hdeep⟩
        obtain ⟨selected, hselection⟩ := FileTree.exists_selection hproper glob
        rw [hwalks.matching_eq hproper hpattern hselection,
          hagain.matching_eq hproper hpattern hselection]
        rfl
  · intro glob hpattern
    obtain ⟨selected, hselection⟩ := FileTree.exists_selection hproper glob
    exact ⟨selected, hselection, hwalks.follows hproper hpattern hselection,
      hagain.follows hproper hpattern hselection⟩

/-- A directory with a hidden file, a name with a character below the slash, and a directory and
something else that are called like files, walked as it is held and in the opposite order. -/
theorem enumeration_irrelevant_backwards :
    let tree : FileTree := .directory [("a-b.json", .file .empty), ("pipe.json", .other),
      ("a", .directory [("z.json", .file .empty), ("old.json", .directory [])]),
      (".b.json", .file .empty)]
    let discovery : Discovery := ⟨(FileTree.directory [("data", tree)]).files "/", none⟩
    let backwards : Walk := {
      list? := fun path => (discovery.files.walk.list? path).map List.reverse
      within := by
        intro directory entries h entry hentry
        obtain ⟨listed, hlisted, rfl⟩ := Option.map_eq_some_iff.mp h
        exact discovery.files.walk.within hlisted entry (List.mem_reverse.mp hentry) }
    let source : SourceSettings :=
      { SourceSettings.default with directory := some "data", matcher := "*.json" }
    let listed : List Entry := [⟨"data", .directory⟩, ⟨"data/a-b.json", .file⟩,
      ⟨"data/pipe.json", .other⟩, ⟨"data/a", .directory⟩, ⟨"data/a/z.json", .file⟩,
      ⟨"data/a/old.json", .directory⟩, ⟨"data/.b.json", .file⟩]
    tree.Proper ∧ discovery.Walks "data" tree ∧ (discovery.walking backwards).Walks "data" tree ∧
      discovery.walk? "data" = some listed ∧
      (discovery.walking backwards).walk? "data" = some listed.reverse ∧
      discovery.matching "data" "*.json" =
        .ok ["data/.b.json", "data/a/z.json", "data/a-b.json"] ∧
      (discovery.walking backwards).matching "data" "*.json" =
        .ok ["data/.b.json", "data/a/z.json", "data/a-b.json"] ∧
      (discovery.walking backwards).template "trades" source = .ok "data/.b.json" := by
  intro tree discovery backwards source listed
  have hfile := FileTree.Proper.file .empty
  have hold : (FileTree.directory []).Proper := .directory (by decide) (by decide) (by simp)
  have hinner : (FileTree.directory [("z.json", .file .empty), ("old.json", .directory [])]).Proper :=
    .directory (by decide) (by decide) (by simp [hfile, hold])
  have hproper : tree.Proper :=
    .directory (by decide) (by decide) (by simp [hfile, hinner, FileTree.Proper.other])
  have hlist : tree.list? "data" = some listed := by decide +kernel
  have hlisted : discovery.walk? "data" = some listed := by decide +kernel
  have hbackwards : (discovery.walking backwards).walk? "data" = some listed.reverse := by
    decide +kernel
  have henumeration := hproper.enumeration_of_list? hlist
  have hwalks : discovery.Walks "data" tree := ⟨_, hlisted, henumeration⟩
  have hagain : (discovery.walking backwards).Walks "data" tree :=
    ⟨_, hbackwards, henumeration.of_perm listed.reverse_perm⟩
  have hmatcher : (Glob.ofPattern? "*.json").map (fun glob => (glob.depth, tree.choose glob)) =
      some (2, [["a-b.json"], ["a", "z.json"], [".b.json"]]) := by
    decide +kernel
  obtain ⟨glob, hunderstood, hvalue⟩ := Option.map_eq_some_iff.mp hmatcher
  obtain ⟨hdepth, hchosen⟩ := Prod.mk.inj hvalue
  have hselection : tree.Selection glob [[".b.json"], ["a", "z.json"], ["a-b.json"]] := by
    constructor
    · intro names
      rw [← FileTree.mem_choose_iff, hchosen]
      exact (List.reverse_perm [["a-b.json"], ["a", "z.json"], [".b.json"]]).mem_iff
    · decide +kernel
  have hlocation : source.location "trades" = .ok (.directory "data" "*.json") := by
    decide +kernel
  obtain ⟨hagrees, hfollows⟩ := enumeration_irrelevant hproper hwalks hagain "*.json"
  have hpattern : Glob.Usable "*.json" glob := ⟨hunderstood, by rw [hdepth]; decide⟩
  obtain ⟨selected, hselected, hanswers, -⟩ := hfollows glob hpattern
  cases hselected.unique hselection
  have hplaces : [[".b.json"], ["a", "z.json"], ["a-b.json"]].map (discovery.place "data") =
      ["data/.b.json", "data/a/z.json", "data/a-b.json"] := by
    decide +kernel
  have hmatching := hanswers.matching
  rw [hplaces] at hmatching
  have htemplate := (hanswers.least "trades" source hlocation [".b.json"]
    (hselection.head?_eq_some_iff.mp rfl)).1
  rw [(List.cons.inj hplaces).1] at htemplate
  exact ⟨hproper, hwalks, hagain, hlisted, hbackwards, hmatching,
    hagrees.matching.symm.trans hmatching,
    (hagrees.layout "trades" source hlocation).1.symm.trans htemplate⟩

end Discovery

end OlapSynthesis
