import ScopeTracker.Files.Tree

/-!
# Following paths

A path is within another one if it starts with the components of that one. These are the paths that
one comes to by going up, without a look at the files. What lies at a path follows from what lies at
the paths that it is within: a name leads to a child of the directory before it, and `..` leads back
to something that was passed on the way.
-/

namespace ScopeTracker

namespace Path

/-- A path is within another one: it is that path, or goes on from there. -/
inductive IsWithin (path : Path) : Path → Prop where
  | self : IsWithin path path
  | below {components rest} (hrest : rest ≠ []) (h : path.components = components ++ rest) :
      IsWithin path { isAbsolute := path.isAbsolute, components }

theorem isWithin_of_parent? {path parent upper : Path} (hparent : path.parent? = some parent)
    (h : parent.IsWithin upper) : path.IsWithin upper := by
  obtain ⟨components, last, rfl, hpath⟩ := parent?_eq_some_iff.mp hparent
  cases h with
  | self => exact .below (List.cons_ne_nil last []) hpath
  | @below components rest hrest h =>
    refine .below (List.append_ne_nil_of_left_ne_nil hrest [last]) ?_
    rw [hpath, ← List.append_assoc, ← h]

/-- A path is within itself and within what its parent is within. -/
theorem isWithin_iff {path upper : Path} :
    path.IsWithin upper ↔
      upper = path ∨ ∃ parent, path.parent? = some parent ∧ parent.IsWithin upper := by
  constructor
  · intro h
    cases h with
    | self => exact .inl rfl
    | @below components rest hrest h =>
      obtain ⟨rest, last, rfl⟩ := (List.eq_nil_or_concat rest).resolve_left hrest
      rw [List.concat_eq_append, ← List.append_assoc] at h
      refine .inr ⟨_, parent?_eq_some_iff.mpr ⟨_, last, rfl, h⟩, ?_⟩
      by_cases hone : rest = []
      · rw [hone, List.append_nil]
        exact .self
      · exact .below hone rfl
  · rintro (rfl | ⟨parent, hparent, h⟩)
    · exact .self
    · exact isWithin_of_parent? hparent h

theorem isWithin_of_isPrefix {path : Path} {components : List String}
    (h : components <+: path.components) (hne : components ≠ path.components) :
    path.IsWithin { isAbsolute := path.isAbsolute, components } := by
  obtain ⟨rest, hrest⟩ := h
  refine .below (fun hnil => hne ?_) hrest.symm
  rw [← hrest, hnil, List.append_nil]

theorem IsWithin.eq_or_length_lt {path upper : Path} (h : path.IsWithin upper) :
    upper = path ∨ upper.components.length < path.components.length := by
  cases h with
  | self => exact .inl rfl
  | below hrest h =>
    rw [h, List.length_append]
    exact .inr (Nat.lt_add_of_pos_right (List.length_pos_iff.mpr hrest))

theorem IsWithin.antisymm {path upper : Path} (h : path.IsWithin upper)
    (h' : upper.IsWithin path) : upper = path := by
  rcases h.eq_or_length_lt with heq | hlt
  · exact heq
  · rcases h'.eq_or_length_lt with heq | hlt'
    · exact heq.symm
    · omega

end Path

namespace FileTree

variable {tree : FileTree} {outer : List FileTree} {components : List String}

theorem isDirectory_of_lookup {name : String} {child : FileTree}
    (h : tree.children.lookup name = some child) : tree.isDirectory := by
  cases tree with
  | directory children => rfl
  | _ => cases h

/-- Where a single component leads, and the trees above that, the nearest first. -/
def step (tree : FileTree) (outer : List FileTree) (name : String) :
    Option (FileTree × List FileTree) :=
  if name = Path.above then
    if tree.isDirectory then some (outer.headD tree, outer.tail) else none
  else (tree.children.lookup name).map fun child => (child, tree :: outer)

theorem step_of_name {name : String} (hname : name ≠ Path.above) :
    tree.step outer name = (tree.children.lookup name).map fun child => (child, tree :: outer) :=
  if_neg hname

theorem step_above_subset {next : FileTree} {above : List FileTree}
    (h : tree.step outer Path.above = some (next, above)) : next ∈ tree :: outer := by
  unfold step at h
  split at h
  · split at h
    · cases h
      cases outer <;> simp
    · cases h
  · contradiction

theorem step_outer_subset {name : String} {next : FileTree} {above : List FileTree}
    (h : tree.step outer name = some (next, above)) : above ⊆ tree :: outer := by
  unfold step at h
  split at h
  · split at h
    · cases h
      exact List.subset_cons_of_subset _ fun _ => List.mem_of_mem_tail
    · cases h
  · obtain ⟨child, -, hplace⟩ := Option.map_eq_some_iff.mp h
    cases hplace
    exact List.Subset.refl _

theorem follow_cons (name : String) (rest : List String) :
    tree.follow outer (name :: rest) =
      (tree.step outer name).bind fun place => place.1.follow place.2 rest := by
  unfold step
  by_cases hname : name = Path.above
  · by_cases hdirectory : tree.isDirectory
    · cases outer <;> simp [follow, hname, hdirectory]
    · simp [follow, hname, hdirectory]
  · cases h : tree.children.lookup name <;> simp [follow, hname, h]

/-- A name behind other components leads to a child of what they lead to. -/
theorem follow_concat {name : String} (hname : name ≠ Path.above) (tree : FileTree)
    (outer : List FileTree) (components : List String) :
    tree.follow outer (components ++ [name]) =
      (tree.follow outer components).bind (·.children.lookup name) := by
  induction components generalizing tree outer with
  | nil =>
    rw [List.nil_append, follow_cons, step_of_name hname]
    cases h : tree.children.lookup name <;> simp [follow, h]
  | cons first rest ih =>
    rw [List.cons_append, follow_cons, follow_cons]
    cases tree.step outer first with
    | none => rfl
    | some place => exact ih place.1 place.2

/-- `..` behind other components leads to something that was passed before. -/
theorem exists_of_follow_above {found : FileTree}
    (h : tree.follow outer (components ++ [Path.above]) = some found) :
    found ∈ outer ∨ ∃ passed, passed <+: components ∧ tree.follow outer passed = some found := by
  induction components generalizing tree outer with
  | nil =>
    rw [List.nil_append, follow_cons] at h
    obtain ⟨⟨next, above⟩, hstep, hnext⟩ := Option.bind_eq_some_iff.mp h
    cases hnext
    rcases List.mem_cons.mp (step_above_subset hstep) with rfl | hmem
    · exact .inr ⟨[], List.nil_prefix, rfl⟩
    · exact .inl hmem
  | cons first rest ih =>
    rw [List.cons_append, follow_cons] at h
    obtain ⟨⟨next, above⟩, hstep, hnext⟩ := Option.bind_eq_some_iff.mp h
    rcases ih hnext with hmem | ⟨passed, hprefix, hpassed⟩
    · rcases List.mem_cons.mp (step_outer_subset hstep hmem) with rfl | hmem
      · exact .inr ⟨[], List.nil_prefix, rfl⟩
      · exact .inl hmem
    · refine .inr ⟨first :: passed, List.cons_prefix_cons.mpr ⟨rfl, hprefix⟩, ?_⟩
      rw [follow_cons, hstep]
      exact hpassed

/-! ## What lies at a path -/

variable {root found : FileTree} {path start : Path}

theorem find?_of_follow (h : root.follow [] path.components = some found)
    (hdirectory : found.isDirectory) : root.find? path = some found := by
  rw [find?, h, Option.filter_some, hdirectory, Bool.true_or, if_pos rfl]

theorem find?_eq_follow (h : path.needsDirectory = false) :
    root.find? path = root.follow [] path.components := by
  rw [find?]
  cases root.follow [] path.components with
  | none => rfl
  | some tree => simp [Option.filter_some, h]

/-- A child of a directory is found under its name. -/
theorem find?_child {name : String} (hname : name ≠ Path.above) (root : FileTree)
    (directory : Path) :
    root.find? (directory.child name) = (root.find? directory).bind (·.children.lookup name) := by
  rw [find?_eq_follow rfl, Path.child, follow_concat hname, find?]
  cases root.follow [] directory.components with
  | none => rfl
  | some tree =>
    cases tree with
    | directory children => rw [Option.filter_some, isDirectory, Bool.true_or, if_pos rfl]
    | _ => cases directory.needsDirectory <;> rfl

theorem isDirectoryAt_iff :
    root.isDirectoryAt path ↔ ∃ tree, root.find? path = some tree ∧ tree.isDirectory := by
  rw [isDirectoryAt]
  cases root.find? path <;> simp

/-- A directory that `..` leads to is one that the path is within. -/
theorem exists_isWithin_of_find?_above (h : root.find? (start.child Path.above) = some found)
    (hdirectory : found.isDirectory) :
    ∃ upper, start.IsWithin upper ∧ root.find? upper = some found := by
  have hfollow := (Option.filter_eq_some_iff.mp h).1
  obtain hmem | ⟨passed, hprefix, hpassed⟩ := exists_of_follow_above hfollow
  · cases hmem
  · by_cases hself : passed = start.components
    · subst hself
      exact ⟨start, .self, find?_of_follow hpassed hdirectory⟩
    · exact ⟨_, Path.isWithin_of_isPrefix hprefix hself, find?_of_follow hpassed hdirectory⟩

end FileTree

end ScopeTracker
