import Mathlib.Data.List.Nodup
import OlapSynthesis.Discovery.Files
import OlapSynthesis.Proofs.Discovery.PathOrder

namespace OlapSynthesis.FileTree

/-- The names that lead from the top of a tree to what is in it, and what that is. -/
inductive HasEntry : FileTree → List String → EntryKind → Prop
  | here (tree : FileTree) : HasEntry tree [] tree.kind
  | inside {entries : List (String × FileTree)} {name : String} {tree : FileTree}
      {names : List String} {kind : EntryKind} (hentry : (name, tree) ∈ entries)
      (h : HasEntry tree names kind) : HasEntry (.directory entries) (name :: names) kind

/-- A directory has one entry under a name, and its entries have names that a path can hold. -/
inductive Proper : FileTree → Prop
  | file (content : ByteArray) : Proper (.file content)
  | directory {entries : List (String × FileTree)} (distinct : (entries.map (·.1)).Nodup)
      (named : ∀ entry ∈ entries, Path.IsName entry.1)
      (within : ∀ entry ∈ entries, Proper entry.2) : Proper (.directory entries)
  | other : Proper .other

/-- A list of what is in a tree that is met under a path, each entry once and in any order. -/
structure Enumeration (tree : FileTree) (directory : String) (listed : List Entry) : Prop where
  once : listed.Nodup
  complete : ∀ entry, entry ∈ listed ↔
    ∃ names, tree.HasEntry names entry.kind ∧ Path.below directory (Path.ofNames names) = entry.path

variable {tree : FileTree} {names : List String} {kind : EntryKind}

theorem HasEntry.isName (h : tree.HasEntry names kind) (hproper : tree.Proper) :
    ∀ name ∈ names, Path.IsName name := by
  induction h with
  | here => exact List.forall_mem_nil _
  | inside hentry _ ih =>
    cases hproper with
    | directory _ named within =>
      exact List.forall_mem_cons.mpr ⟨named _ hentry, ih (within _ hentry)⟩

theorem nodesWithin_eq (entries : List (String × FileTree)) :
    nodesWithin entries = entries.flatMap fun entry =>
      entry.2.nodes.map fun node => (entry.1 :: node.1, node.2) := by
  induction entries with
  | nil => rfl
  | cons entry entries ih => rw [nodesWithin, ih, List.flatMap_cons]

theorem mem_nodes_iff : (names, kind) ∈ tree.nodes ↔ tree.HasEntry names kind := by
  induction names generalizing tree with
  | nil =>
    have hhere : ([], kind) ∈ tree.nodes ↔ kind = tree.kind := by
      cases tree with
      | file content => simp [nodes, FileTree.kind]
      | directory entries => simp [nodes, nodesWithin_eq, FileTree.kind]
      | other => simp [nodes, FileTree.kind]
    rw [hhere]
    constructor
    · rintro rfl
      exact .here tree
    · intro h
      cases h
      rfl
  | cons name names ih =>
    cases tree with
    | directory entries =>
      rw [nodes, List.mem_cons, nodesWithin_eq, List.mem_flatMap]
      constructor
      · rintro (heq | ⟨⟨_, tree⟩, hentry, hmem⟩)
        · cases heq
        · obtain ⟨_, hnode, heq⟩ := List.mem_map.mp hmem
          cases heq
          exact .inside hentry (ih.mp hnode)
      · intro h
        cases h with
        | inside hentry h => exact .inr ⟨_, hentry, List.mem_map.mpr ⟨_, ih.mpr h, rfl⟩⟩
    | _ =>
      apply iff_of_false
      · simp [nodes]
      · rintro ⟨⟩

theorem names_directory (entries : List (String × FileTree)) :
    (FileTree.directory entries).nodes.map (·.1) = [] :: entries.flatMap fun entry =>
      (entry.2.nodes.map (·.1)).map (entry.1 :: ·) := by
  rw [nodes, List.map_cons, nodesWithin_eq, List.map_flatMap]
  simp only [List.map_map]
  rfl

theorem Proper.nodup_names (h : tree.Proper) : (tree.nodes.map (·.1)).Nodup := by
  induction h with
  | file | other => exact List.nodup_singleton _
  | directory distinct _ _ ih =>
    rw [names_directory, List.nodup_cons, List.nodup_flatMap]
    refine ⟨by simp, ?_, ?_⟩
    · intro entry hentry
      exact (ih entry hentry).map List.cons_injective
    · refine (List.pairwise_map.mp distinct).imp ?_
      intro entry later hne names hmem hmem'
      obtain ⟨_, _, rfl⟩ := List.mem_map.mp hmem
      obtain ⟨_, _, heq⟩ := List.mem_map.mp hmem'
      exact hne (List.cons.inj heq).1.symm

/-- What a tree is walked like itself. -/
theorem Proper.enumeration_of_list? (h : tree.Proper) {path : String} {listed : List Entry}
    (hlisted : tree.list? path = some listed) : tree.Enumeration path listed := by
  rw [list?, Option.ite_none_right_eq_some] at hlisted
  rw [← Option.some.inj hlisted.2]
  constructor
  · apply List.Nodup.map_on _ h.nodup_names.of_map
    rintro ⟨names, kind⟩ hnode ⟨other, kind'⟩ hother heq
    obtain ⟨hpath, hkind⟩ := Entry.mk.inj heq
    have hnames := Path.below_injective path ((mem_nodes_iff.mp hnode).isName h)
      ((mem_nodes_iff.mp hother).isName h) hpath
    rw [hnames, hkind]
  · rintro ⟨entryPath, kind⟩
    rw [List.mem_map]
    constructor
    · rintro ⟨⟨names, _⟩, hnode, heq⟩
      obtain ⟨rfl, rfl⟩ := Entry.mk.inj heq
      exact ⟨names, mem_nodes_iff.mp hnode, rfl⟩
    · rintro ⟨names, hentry, rfl⟩
      exact ⟨(names, kind), mem_nodes_iff.mpr hentry, rfl⟩

theorem Enumeration.of_perm {directory : String} {listed relisted : List Entry}
    (h : tree.Enumeration directory listed) (hperm : relisted.Perm listed) :
    tree.Enumeration directory relisted := by
  constructor
  · exact hperm.nodup_iff.mpr h.once
  · intro entry
    rw [hperm.mem_iff, h.complete]

theorem Proper.of_lookup {entries : List (String × FileTree)} {name : String}
    (h : (FileTree.directory entries).Proper) (hentry : entries.lookup name = some tree) :
    tree.Proper := by
  cases h with
  | directory _ _ within =>
    obtain ⟨before, after, rfl, -⟩ := List.lookup_eq_some_iff.mp hentry
    exact within (name, tree) (by simp)

theorem Proper.of_follow? {parts : List String} {above : List FileTree} {place : FileTree}
    (h : place.Proper) (habove : ∀ passed ∈ above, passed.Proper)
    (hfollow : follow? parts above place = some tree) : tree.Proper := by
  induction parts generalizing above place with
  | nil =>
    cases hfollow
    exact h
  | cons part parts ih =>
    cases place with
    | file content => cases hfollow
    | other => cases hfollow
    | directory entries =>
      unfold follow? at hfollow
      dsimp only at hfollow
      split at hfollow
      · exact ih h habove hfollow
      · split at hfollow
        · cases above with
          | nil => exact ih h habove hfollow
          | cons nearest above =>
            obtain ⟨hnearest, hfurther⟩ := List.forall_mem_cons.mp habove
            exact ih hnearest hfurther hfollow
        · split at hfollow
          · rename_i below hentry
            exact ih (h.of_lookup hentry) (List.forall_mem_cons.mpr ⟨h, habove⟩) hfollow
          · cases hfollow

theorem Proper.of_find? {root : FileTree} {here path : String} (h : root.Proper)
    (hfound : root.find? here path = some tree) : tree.Proper := by
  rw [find?] at hfound
  split at hfound
  · exact h.of_follow? (List.forall_mem_nil _) hfound
  · cases hfound

end OlapSynthesis.FileTree
