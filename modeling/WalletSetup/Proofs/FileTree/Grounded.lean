import Mathlib.Data.List.Induction
import WalletSetup.Proofs.FileTree.Directories

/-! Trees as machines have them. They start so, and stay so whatever directories are made. -/

set_option autoImplicit false

namespace WalletSetup.FileTree

open WalletSetup.Path

/-- The tree of a machine. Paths start at directories, and what is there lies in a directory. -/
structure Grounded (tree : FileTree) : Prop where
  root : ∃ node, tree.get? [] = some node ∧ node.isDirectory = true
  working : ∃ node, tree.get? tree.working = some node ∧ node.isDirectory = true
  inside : ∀ place name node, tree.get? (place ++ [name]) = some node →
    ∃ above, tree.get? place = some above ∧ above.isDirectory = true

def Nested (tree : FileTree) : Prop := ∀ place name node, tree.get? (place ++ [name]) = some node →
  ∃ above, tree.get? place = some above ∧ above.isDirectory = true

variable {tree after : FileTree} {path : Parts} {place : Place}

theorem Grounded.nested (grounded : Grounded tree) : Nested tree := grounded.inside

theorem Grounded.names_ne_nil (grounded : Grounded tree) (grown : Grows tree after)
    {slashes : Nat} {names : List Component} {place : Place} (few : slashes ≤ 2)
    (reached : after.resolve (Parts.mk slashes names).render = .ok place)
    (absent : tree.get? place = none) : names ≠ [] := by
  rintro rfl
  have clean : (Parts.mk slashes []).Clean := ⟨few, fun _ known => absurd known List.not_mem_nil⟩
  rw [resolve_render clean, List.foldlM_nil] at reached
  cases reached
  dsimp only at absent
  split at absent
  · obtain ⟨node, there, -⟩ := grounded.working
    rw [grown.working, there] at absent
    cases absent
  · obtain ⟨node, there, -⟩ := grounded.root
    rw [there] at absent
    cases absent

theorem Grounded.exists_up (grounded : Grounded tree) {node : Node}
    (there : tree.get? place = some node) : ∃ above, tree.get? place.dropLast = some above := by
  rcases List.eq_nil_or_concat place with rfl | ⟨above, name, rfl⟩
  · exact ⟨node, there⟩
  · rw [List.concat_eq_append] at there ⊢
    obtain ⟨directory, found, -⟩ := grounded.inside above name node there
    rw [List.dropLast_concat]
    exact ⟨directory, found⟩

/-- A path to a free place leads there from a directory that is there. -/
theorem Grounded.exists_above (grounded : Grounded tree) (clean : path.Clean)
    (reached : tree.resolve path.render = .ok place) (absent : tree.get? place = none) :
    ∃ names above name mode readonly, names <+: path.names ∧
      tree.lookup (Parts.mk path.slashes names).render =
        .ok (above, .directory mode false readonly) ∧ place = above ++ [name] := by
  have some := grounded.names_ne_nil .rfl clean.slashes reached absent
  obtain ⟨names, last, split⟩ : ∃ names last, path.names = names ++ [last] :=
    ⟨_, _, (List.dropLast_concat_getLast some).symm⟩
  have start : names <+: path.names := ⟨[last], split.symm⟩
  have shorter : (Parts.mk path.slashes names).Clean := clean.start start
  rw [resolve_render clean, split, List.foldlM_append] at reached
  obtain ⟨above, way, reached⟩ := Except.bind_eq_ok reached
  rw [List.foldlM_cons] at reached
  obtain ⟨next, stepped, same⟩ := Except.bind_eq_ok reached
  cases same
  by_cases up : last = parent
  · -- Above a directory that is there something is there.
    unfold step at stepped
    split at stepped
    · cases stepped
    · next node there =>
      rw [if_pos up] at stepped
      split at stepped
      · cases stepped
      · split at stepped
        · cases stepped
        · cases stepped
          obtain ⟨other, found⟩ := grounded.exists_up there
          rw [absent] at found
          cases found
  · obtain ⟨rfl, mode, readonly, there⟩ := step_eq_ok up stepped
    refine ⟨names, above, _, mode, readonly, start, lookup_eq_ok_iff.2 ⟨?_, there⟩, rfl⟩
    rw [resolve_render shorter]
    exact way

section Preserved

variable {mode : Nat} {node : Node}

/-- A directory stays one, unless it is what gives way to something else. -/
theorem directory_insert {start : Place}
    (keeps : ∀ other, tree.get? place = some other → other.isDirectory = true →
      node.isDirectory = true)
    (there : ∃ above, tree.get? start = some above ∧ above.isDirectory = true) :
    ∃ above, (tree.insert place node).get? start = some above ∧ above.isDirectory = true := by
  obtain ⟨above, found, directory⟩ := there
  by_cases same : start = place
  · rw [same] at found ⊢
    exact ⟨node, get?_insert_self tree place node, keeps above found directory⟩
  · rw [get?_insert_of_ne same]
    exact ⟨above, found, directory⟩

theorem Nested.insert (nested : Nested tree)
    (held : ∀ start name, place = start ++ [name] →
      ∃ above, tree.get? start = some above ∧ above.isDirectory = true)
    (keeps : ∀ other, tree.get? place = some other → other.isDirectory = true →
      node.isDirectory = true) : Nested (tree.insert place node) := by
  intro start name value found
  refine directory_insert keeps ?_
  by_cases new : start ++ [name] = place
  · exact held start name new.symm
  · rw [get?_insert_of_ne new] at found
    exact nested start name value found

theorem Grounded.insert (grounded : Grounded tree)
    (held : ∀ start name, place = start ++ [name] →
      ∃ above, tree.get? start = some above ∧ above.isDirectory = true)
    (keeps : ∀ other, tree.get? place = some other → other.isDirectory = true →
      node.isDirectory = true) : Grounded (tree.insert place node) where
  root := directory_insert keeps grounded.root
  working := directory_insert keeps grounded.working
  inside := grounded.nested.insert held keeps

theorem Grounded.makeOnce (grounded : Grounded tree) (clean : path.Clean)
    (made : tree.makeOnce path.render mode = .ok after) : Grounded after := by
  rcases makeOnce_eq_ok made with ⟨rfl, -⟩ | ⟨place, free, rfl⟩
  · exact grounded
  · obtain ⟨reached, absent⟩ := vacant_eq_ok free
    obtain ⟨names, above, name, mode, readonly, -, found, rfl⟩ :=
      grounded.exists_above clean reached absent
    refine grounded.insert (fun start last same => ?_) (fun other there => ?_)
    · rw [← (List.append_inj' same rfl).1]
      exact ⟨_, (lookup_eq_ok_iff.1 found).2, rfl⟩
    · rw [absent] at there
      cases there

theorem Making.grounded {mode : Nat} {outcome : Outcome OsError}
    (making : Making tree mode path outcome) (clean : path.Clean) (grounded : Grounded tree) :
    Grounded outcome.1 := by
  induction making with
  | made once => exact grounded.makeOnce clean once
  | barred => exact grounded
  | stopped _ _ ih => exact ih clean.above
  | failed _ _ _ ih => exact ih clean.above
  | completed _ _ again ih => exact (ih clean.above).makeOnce clean again

theorem Ensuring.grounded {outcome : Outcome DirectoryError}
    (ensuring : Ensuring path tree outcome) (clean : path.Clean) (grounded : Grounded tree) :
    Grounded outcome.1 := by
  cases ensuring with
  | taken | unseen => exact grounded
  | refused making => exact making.grounded clean grounded
  | made making => exact making.grounded clean grounded

end Preserved

section Planted

variable {name : String} {node : Node}

def raise (tree : FileTree) (place : Place) : FileTree :=
  ((List.range place.length).map place.take).foldl (fun tree p =>
    if (tree.get? p).isSome then tree else tree.insert p (.directory 0o755 false false)) tree

theorem plant_eq (tree : FileTree) (place : Place) (node : Node) :
    tree.plant place node = (tree.raise place).insert place node := rfl

theorem raise_concat (tree : FileTree) (place : Place) (name : String) :
    tree.raise (place ++ [name]) =
      if ((tree.raise place).get? place).isSome then tree.raise place
      else (tree.raise place).insert place (.directory 0o755 false false) := by
  have shorter : (List.range place.length).map (place ++ [name]).take =
      (List.range place.length).map place.take := by
    refine List.map_congr_left fun n small => ?_
    exact List.take_append_of_le_length (Nat.le_of_lt (List.mem_range.1 small))
  rw [raise, List.length_append, List.length_singleton, List.range_succ, List.map_append, shorter,
    List.foldl_append, List.map_singleton, List.take_left]
  rfl

/-- Directories are above the place, and nothing as deep as the place has changed. -/
structure Raised (tree : FileTree) (place : Place) (after : FileTree) : Prop where
  grown : tree.Grows after
  nested : Nested after
  above : ∀ n < place.length, ∃ node, after.get? (place.take n) = some node ∧
    node.isDirectory = true
  beyond : ∀ other, place.length ≤ other.length → after.get? other = tree.get? other

theorem Raised.held (raised : Raised tree place after) {start : Place}
    (split : place = start ++ [name]) :
    ∃ above, after.get? start = some above ∧ above.isDirectory = true := by
  have above := raised.above start.length (by simp [split])
  rwa [split, List.take_left] at above

theorem raise_raised (nested : Nested tree)
    (plain : ∀ n < place.length, ∀ node ∈ tree.get? (place.take n), node.isDirectory = true) :
    Raised tree place (tree.raise place) := by
  -- From the last name on: above it the tree is raised already, and one directory at most is new.
  induction place using List.reverseRecOn with
  | nil => exact ⟨.rfl, nested, nofun, fun _ _ => rfl⟩
  | append_singleton place name ih =>
    have shorter {n : Nat} (small : n < place.length) :
        (place ++ [name]).take n = place.take n :=
      List.take_append_of_le_length (Nat.le_of_lt small)
    have earlier : Raised tree place (tree.raise place) := by
      refine ih fun n small node found => plain n (by simp; omega) node ?_
      rwa [shorter small]
    have last {after : FileTree} (grown : (tree.raise place).Grows after)
        (there : ∃ node, after.get? place = some node ∧ node.isDirectory = true) :
        ∀ n < (place ++ [name]).length, ∃ node, after.get? ((place ++ [name]).take n) = some node ∧
          node.isDirectory = true := by
      intro n small
      rw [List.length_append, List.length_singleton] at small
      rcases Nat.lt_succ_iff_lt_or_eq.1 small with before | rfl
      · obtain ⟨node, found, directory⟩ := earlier.above n before
        rw [shorter before]
        exact ⟨node, grown.kept found, directory⟩
      · rwa [List.take_left]
    have deeper {other : Place} (deep : (place ++ [name]).length ≤ other.length) :
        place.length < other.length := by
      rw [List.length_append, List.length_singleton] at deep
      exact deep
    rw [raise_concat]
    cases here : (tree.raise place).get? place with
    | some node =>
      have known : tree.get? place = some node := by rw [← earlier.beyond place (Nat.le_refl _), here]
      have directory : node.isDirectory = true :=
        plain place.length (by simp) node (by rwa [List.take_left])
      exact ⟨earlier.grown, earlier.nested, last .rfl ⟨node, here, directory⟩,
        fun other deep => earlier.beyond other (Nat.le_of_lt (deeper deep))⟩
    | none =>
      have grown := Grows.insert here (.directory 0o755 false false)
      refine ⟨earlier.grown.trans grown, ?_, ?_, fun other deep => ?_⟩
      · exact earlier.nested.insert (fun _ _ split => earlier.held split) fun _ there => by
          rw [here] at there
          cases there
      · exact last grown ⟨_, get?_insert_self _ _ _, rfl⟩
      · have different : other ≠ place := by
          rintro rfl
          exact Nat.lt_irrefl _ (deeper deep)
        exact (get?_insert_of_ne different).trans (earlier.beyond other (Nat.le_of_lt (deeper deep)))

theorem grounded_bare (working : Place) : Grounded (bare working) := by
  have raised : Raised ⟨working, []⟩ working _ := raise_raised (fun _ _ _ found => by cases found)
    fun _ _ _ found => by cases found
  have start : (bare working).working = working := raised.grown.working
  refine ⟨?_, ?_, ?_⟩
  · cases working with
    | nil => exact ⟨_, get?_insert_self _ _ _, rfl⟩
    | cons name rest =>
      exact directory_insert (fun _ _ _ => rfl) (raised.above 0 (Nat.succ_pos _))
  · rw [start]
    exact ⟨_, get?_insert_self _ _ _, rfl⟩
  · exact raised.nested.insert (fun _ _ split => raised.held split) fun _ _ _ => rfl

/-- Whatever is put into the tree, unless beneath a file or in place of a directory. -/
theorem Grounded.plant (grounded : Grounded tree)
    (plain : ∀ n < place.length, ∀ node ∈ tree.get? (place.take n), node.isDirectory = true)
    (keeps : ∀ other ∈ tree.get? place, other.isDirectory = true → node.isDirectory = true) :
    Grounded (tree.plant place node) := by
  have raised := raise_raised grounded.nested plain
  have kept {start : Place} (there : ∃ node, tree.get? start = some node ∧
      node.isDirectory = true) :
      ∃ node, (tree.raise place).get? start = some node ∧ node.isDirectory = true :=
    let ⟨node, found, directory⟩ := there
    ⟨node, raised.grown.kept found, directory⟩
  have working := grounded.working
  rw [← raised.grown.working] at working
  have above : Grounded (tree.raise place) := ⟨kept grounded.root, kept working, raised.nested⟩
  rw [plant_eq]
  refine above.insert (fun _ _ split => raised.held split) fun other there => ?_
  exact keeps other (raised.beyond place (Nat.le_refl _) ▸ there)

end Planted

end WalletSetup.FileTree
