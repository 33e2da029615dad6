import WalletSetup.Proofs.Path.Clean

/-! Making directories, told as the ways that it can go. What follows about the trees that come of
it is shown way by way, and the functions are not opened again. -/

set_option autoImplicit false

namespace WalletSetup.FileTree

open WalletSetup.Path

variable {tree after : FileTree} {path : Parts}

section Once

variable {shown : String} {mode : Nat} {place : Place} {node : Node}

theorem lookup_eq_ok_iff :
    tree.lookup shown = .ok (place, node) ↔
      tree.resolve shown = .ok place ∧ tree.get? place = some node := by
  unfold lookup
  constructor
  · intro looked
    obtain ⟨reached, resolved, looked⟩ := Except.bind_eq_ok looked
    split at looked
    · next found =>
      cases looked
      exact ⟨resolved, found⟩
    · cases looked
  · rintro ⟨resolved, found⟩
    rw [resolved]
    simp only [bind, Except.bind, found]

theorem stat_eq_ok_iff :
    tree.stat shown = .ok node ↔ ∃ place, tree.lookup shown = .ok (place, node) := by
  rw [stat, naming_eq_ok]
  cases tree.lookup shown with
  | error reason => simp [Except.map]
  | ok found => simp [Except.map, Prod.ext_iff]

/-- A directory is there, or it comes into a free place. -/
theorem makeOnce_eq_ok (made : tree.makeOnce shown mode = .ok after) :
    (after = tree ∧ ∃ node, tree.stat shown = .ok node ∧ node.isDirectory = true) ∨
      ∃ place, tree.vacant shown = .ok place ∧
        after = tree.insert place (.directory mode false false) := by
  unfold makeOnce at made
  split at made
  · next done =>
    cases made
    rw [makeDirectory, naming_eq_ok] at done
    obtain ⟨place, free, same⟩ := Except.bind_eq_ok done
    cases same
    exact .inr ⟨place, free, rfl⟩
  · split at made
    · next there =>
      cases made
      refine .inl ⟨rfl, ?_⟩
      unfold isDirectoryAt at there
      split at there
      · next node found => exact ⟨node, found, there⟩
      · cases there
    · cases made

theorem vacant_eq_error {reason : OsReason} (refused : tree.vacant shown = .error reason) :
    tree.resolve shown = .error reason ∨ ∃ place, tree.resolve shown = .ok place ∧
      ((reason = .alreadyExists ∧ ∃ node, tree.get? place = some node) ∨
        (reason = .permissionDenied ∧ tree.get? place = none ∧
          (tree.get? place.dropLast).any Node.readonly = true)) := by
  rcases Except.bind_eq_error refused with lost | ⟨place, reached, refused⟩
  · exact .inl lost
  · refine .inr ⟨place, reached, ?_⟩
    split at refused
    · next taken =>
      cases refused
      exact .inl ⟨rfl, Option.isSome_iff_exists.1 taken⟩
    · next free =>
      split at refused
      · next readonly =>
        cases refused
        exact .inr ⟨rfl, by simpa using free, readonly⟩
      · cases refused

theorem makeOnce_eq_error {e : OsError} (refused : tree.makeOnce shown mode = .error e) :
    tree.vacant shown = .error e.reason ∧ tree.isDirectoryAt shown = false := by
  unfold makeOnce makeDirectory naming at refused
  split at refused
  · cases refused
  · next failed =>
    split at refused
    · cases refused
    · next other =>
      cases refused
      obtain ⟨reason, barred, rfl⟩ := Except.mapError_eq_error.1 failed
      rcases Except.bind_eq_error barred with lost | ⟨place, -, done⟩
      · exact ⟨lost, by simpa using other⟩
      · cases done

theorem resolve_of_makeOnce {e : OsError} (refused : tree.makeOnce shown mode = .error e)
    (missing : e.reason = .notFound) : tree.resolve shown = .error .notFound := by
  have failed := (makeOnce_eq_error refused).1
  rw [missing] at failed
  rcases vacant_eq_error failed with lost | ⟨_, -, ⟨other, -⟩ | ⟨other, -⟩⟩
  · exact lost
  · cases other
  · cases other

/-- A path that cannot be looked at leads nowhere. -/
theorem resolve_of_stat {e : OsError} (failed : tree.stat shown = .error e)
    (barred : e.reason ≠ .notFound) : tree.resolve shown = .error e.reason := by
  unfold stat naming at failed
  obtain ⟨reason, failed, rfl⟩ := Except.mapError_eq_error.1 failed
  cases reached : tree.resolve shown with
  | error other =>
    rw [lookup, reached] at failed
    cases failed
    rfl
  | ok place =>
    simp only [lookup, reached, bind, Except.bind] at failed
    split at failed
    · cases failed
    · cases failed
      exact absurd rfl barred

theorem makeOnce_of_vacant (free : tree.vacant shown = .ok place) :
    tree.makeOnce shown mode = .ok (tree.insert place (.directory mode false false)) := by
  rw [makeOnce, makeDirectory, free]
  rfl

theorem isDirectory_of_makeOnce (made : tree.makeOnce shown mode = .ok after) :
    ∃ node, after.stat shown = .ok node ∧ node.isDirectory = true := by
  rcases makeOnce_eq_ok made with ⟨rfl, there⟩ | ⟨place, free, rfl⟩
  · exact there
  · obtain ⟨reached, absent⟩ := vacant_eq_ok free
    refine ⟨.directory mode false false, stat_eq_ok_iff.2 ⟨place, lookup_eq_ok_iff.2 ⟨?_, ?_⟩⟩, rfl⟩
    · exact (Grows.insert absent _).resolve reached
    · exact get?_insert_self tree place _

end Once

/-- The ways that making a directory with all above it can go. -/
inductive Making (tree : FileTree) : Nat → Parts → Outcome OsError → Prop where
  | made {mode : Nat} {path : Parts} {after : FileTree}
      (once : tree.makeOnce path.render mode = .ok after) : Making tree mode path (after, none)
  | barred {mode : Nat} {path : Parts} {e : OsError}
      (refused : tree.makeOnce path.render mode = .error e)
      (final : path.names = [] ∨ e.reason ≠ .notFound) : Making tree mode path (tree, some e)
  | stopped {mode slashes : Nat} {names : List Component} {name : Component}
      {middle : FileTree} {e : OsError}
      (missing : tree.resolve (Parts.mk slashes (names ++ [name])).render = .error .notFound)
      (above : Making tree everyone ⟨slashes, names⟩ (middle, some e)) :
      Making tree mode ⟨slashes, names ++ [name]⟩ (middle, some e)
  | failed {mode slashes : Nat} {names : List Component} {name : Component}
      {middle : FileTree} {e : OsError}
      (missing : tree.resolve (Parts.mk slashes (names ++ [name])).render = .error .notFound)
      (above : Making tree everyone ⟨slashes, names⟩ (middle, none))
      (again : middle.makeOnce (Parts.mk slashes (names ++ [name])).render mode = .error e) :
      Making tree mode ⟨slashes, names ++ [name]⟩ (middle, some e)
  | completed {mode slashes : Nat} {names : List Component} {name : Component}
      {middle after : FileTree}
      (missing : tree.resolve (Parts.mk slashes (names ++ [name])).render = .error .notFound)
      (above : Making tree everyone ⟨slashes, names⟩ (middle, none))
      (again : middle.makeOnce (Parts.mk slashes (names ++ [name])).render mode = .ok after) :
      Making tree mode ⟨slashes, names ++ [name]⟩ (after, none)

theorem makeAll_making (tree : FileTree) (slashes mode : Nat) (names : List Component) :
    Making tree mode ⟨slashes, names.reverse⟩ (tree.makeAll slashes mode names) := by
  -- By the names from the last one. The directory above is made only when this one cannot be.
  induction names generalizing mode with
  | nil =>
    cases once : tree.makeOnce (pathOf slashes []) mode with
    | ok after =>
      rw [makeAll, once]
      exact .made once
    | error e =>
      rw [makeAll, once]
      exact .barred once (.inl rfl)
  | cons name above ih =>
    have earlier := ih everyone
    have path : pathOf slashes (name :: above) =
        (Parts.mk slashes (above.reverse ++ [name])).render := by
      rw [pathOf, List.reverse_cons]
    simp only [makeAll, path, List.reverse_cons]
    split
    · next once => exact .made once
    · next e refused =>
      split
      · next absent =>
        have missing := resolve_of_makeOnce refused absent
        split
        · next middle same =>
          rw [same] at earlier
          cases again : middle.makeOnce (Parts.mk slashes (above.reverse ++ [name])).render mode with
          | error e => exact .failed missing earlier again
          | ok after => exact .completed missing earlier again
        · next stopped =>
          generalize tree.makeAll slashes everyone above = outcome at earlier stopped ⊢
          rcases outcome with ⟨middle, _ | e⟩
          · exact absurd rfl (stopped middle)
          · exact .stopped missing earlier
      · next present => exact .barred refused (.inr present)

theorem Making.isDirectory {mode : Nat} {outcome : Outcome OsError}
    (making : Making tree mode path outcome) (done : outcome.2 = none) :
    ∃ node, outcome.1.stat path.render = .ok node ∧ node.isDirectory = true := by
  cases making with
  | made once => exact isDirectory_of_makeOnce once
  | completed _ _ again => exact isDirectory_of_makeOnce again
  | barred | stopped | failed => cases done

/-- The ways that making sure of a directory can go. -/
inductive Ensuring (path : Parts) (tree : FileTree) : Outcome DirectoryError → Prop where
  | taken {node : Node} (found : tree.stat path.render = .ok node)
      (other : node.isDirectory = false) : Ensuring path tree (tree, some (.notDirectory path))
  | unseen {e : OsError} (failed : tree.stat path.render = .error e)
      (denied : e.reason = .permissionDenied) : Ensuring path tree (tree, some (.refused e))
  | refused {after : FileTree} {e : OsError} (making : Making tree ownerOnly path (after, some e)) :
      Ensuring path tree (after, some (.refused e))
  | made {after : FileTree} (making : Making tree ownerOnly path (after, none)) :
      Ensuring path tree (after, none)

theorem ensureDirectory_ensuring (tree : FileTree) (path : Parts) :
    Ensuring path tree (tree.ensureDirectory path) := by
  have making := makeAll_making tree path.slashes ownerOnly path.names.reverse
  rw [List.reverse_reverse] at making
  unfold ensureDirectory
  generalize tree.makeAll path.slashes ownerOnly path.names.reverse = outcome at making ⊢
  rcases outcome with ⟨after, refusal⟩
  have tried : Ensuring path tree (after, refusal.map .refused) := by
    cases refusal with
    | none => exact .made making
    | some e => exact .refused making
  dsimp only
  split
  · next node found =>
    split
    · exact tried
    · next other => exact .taken found (by simpa using other)
  · next e failed =>
    split
    · next denied => exact .unseen failed denied
    · exact tried

section There

theorem occupied_of_stat {shown : String} {node : Node} (found : tree.stat shown = .ok node) :
    tree.Occupied shown := by
  obtain ⟨place, looked⟩ := stat_eq_ok_iff.1 found
  exact ⟨(place, node), looked⟩

theorem makeOnce_of_directory {shown : String} {node : Node} (found : tree.stat shown = .ok node)
    (directory : node.isDirectory = true) (mode : Nat) : tree.makeOnce shown mode = .ok tree := by
  have taken : tree.makeDirectory shown mode = .error ⟨.alreadyExists, some shown⟩ := by
    rw [makeDirectory, vacant_eq_alreadyExists_iff.2 (occupied_of_stat found)]
    rfl
  have there : tree.isDirectoryAt shown = true := by
    rw [isDirectoryAt, found]
    exact directory
  rw [makeOnce, taken]
  exact if_pos there

theorem ensureDirectory_of_directory {node : Node} (found : tree.stat path.render = .ok node)
    (directory : node.isDirectory = true) : tree.ensureDirectory path = (tree, none) := by
  have once := makeOnce_of_directory found directory ownerOnly
  have all : tree.makeAll path.slashes ownerOnly path.names.reverse = (tree, none) := by
    have whole : pathOf path.slashes path.names.reverse = path.render := by
      rw [pathOf, List.reverse_reverse]
    rw [← whole] at once
    cases names : path.names.reverse with
    | nil =>
      rw [names] at once
      rw [makeAll, once]
      rfl
    | cons name above =>
      rw [names] at once
      rw [makeAll, once]
  rw [ensureDirectory, all, found]
  exact if_pos directory

end There

end WalletSetup.FileTree
