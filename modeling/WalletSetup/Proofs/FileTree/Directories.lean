import WalletSetup.Proofs.FileTree.Making

/-! What making a directory does to a tree. Every new node is a plain directory that a beginning of
the path leads to, and where the directory is already, nothing happens. -/

set_option autoImplicit false

namespace WalletSetup.FileTree

open WalletSetup.Path

/-- Directories may have come that beginnings of the path lead to, and else nothing has changed. -/
structure Paves (path : Parts) (before after : FileTree) : Prop extends Grows before after where
  paved : ∀ {place node}, after.get? place = some node → before.get? place = none →
    ∃ mode names, node = .directory mode false false ∧ names <+: path.names ∧
      after.resolve (Parts.mk path.slashes names).render = .ok place

namespace Paves

variable {path : Parts} {before middle after : FileTree}

theorem rfl : Paves path before before := by
  refine ⟨.rfl, fun found absent => ?_⟩
  rw [absent] at found
  cases found

theorem trans (first : Paves path before middle) (second : Paves path middle after) :
    Paves path before after := by
  refine ⟨first.toGrows.trans second.toGrows, fun {place node} found absent => ?_⟩
  cases between : middle.get? place with
  | none => exact second.paved found between
  | some other =>
    obtain rfl : other = node := by
      rw [second.kept between] at found
      exact Option.some.inj found
    obtain ⟨mode, names, plain, start, reached⟩ := first.paved between absent
    exact ⟨mode, names, plain, start, second.toGrows.resolve reached⟩

theorem furnishes (paves : Paves path before after) : Furnishes before after := by
  refine ⟨paves.toGrows, fun {place mode content denied} found => ?_⟩
  cases known : before.get? place with
  | none =>
    obtain ⟨_, _, plain, -⟩ := paves.paved found known
    cases plain
  | some node => rw [← paves.kept known, found]

end Paves

variable {tree after : FileTree} {path : Parts}

section Depth

variable {start place : Place} {names : List Component}

theorem foldlM_step_length (plain : parent ∉ names)
    (reached : names.foldlM tree.step start = .ok place) :
    place.length = start.length + names.length := by
  induction names generalizing start with
  | nil =>
    cases reached
    simp
  | cons name rest ih =>
    rw [List.mem_cons, not_or] at plain
    rw [List.foldlM_cons] at reached
    obtain ⟨next, stepped, reached⟩ := Except.bind_eq_ok reached
    obtain ⟨rfl, -⟩ := step_eq_ok (Ne.symm plain.1) stepped
    rw [ih plain.2 reached, List.length_append, List.length_singleton, List.length_cons]
    omega

/-- A path that never leads upwards goes one step down with each of its names. -/
theorem resolve_length (clean : path.Clean) (plain : parent ∉ path.names)
    (reached : tree.resolve path.render = .ok place) :
    place.length = (if path.slashes = 0 then tree.working else []).length + path.names.length := by
  rw [resolve_render clean] at reached
  exact foldlM_step_length plain reached

end Depth

/-- Behind a path that never leads upwards nothing has come. -/
theorem Paves.get?_child {before : FileTree} {name : String} {place : Place}
    (paves : Paves path before after) (clean : path.Clean) (proper : Proper name.toList)
    (plain : parent ∉ path.names) (reached : after.resolve (path.child name).render = .ok place) :
    after.get? place = before.get? place := by
  cases known : before.get? place with
  | some node => exact paves.kept known
  | none =>
    cases found : after.get? place with
    | none => rfl
    | some node =>
      obtain ⟨_, names, -, start, same⟩ := paves.paved found known
      have above : (Parts.mk path.slashes names).Clean := clean.start start
      have length := resolve_length above (fun up => plain (start.subset up)) same
      have plain_child : parent ∉ (path.child name).names := by
        rw [Parts.child_eq proper.named]
        simp [plain, Ne.symm proper.notParent]
      have child_length := resolve_length (clean.child proper.named) plain_child reached
      rw [Parts.child_eq proper.named] at child_length
      simp only [List.length_append, List.length_singleton] at length child_length
      -- The place would be as deep as a beginning of the path and deeper than all of it.
      have short := start.length_le
      omega

theorem Paves.mono {slashes : Nat} {names more : List Component} {before : FileTree}
    (start : names <+: more) (paves : Paves ⟨slashes, names⟩ before after) :
    Paves ⟨slashes, more⟩ before after := by
  refine ⟨paves.toGrows, fun {place node} found absent => ?_⟩
  obtain ⟨mode, first, plain, shorter, reached⟩ := paves.paved found absent
  exact ⟨mode, first, plain, shorter.trans start, reached⟩

theorem makeOnce_paves {mode : Nat} (made : tree.makeOnce path.render mode = .ok after) :
    Paves path tree after := by
  have grows := (makeOnce_furnishes made).toGrows
  rcases makeOnce_eq_ok made with ⟨rfl, -⟩ | ⟨place, free, rfl⟩
  · exact .rfl
  · refine ⟨grows, fun {other node} found absent => ?_⟩
    by_cases here : other = place
    · rw [here, get?_insert_self] at found
      rw [here]
      exact ⟨mode, path.names, (Option.some.inj found).symm, List.prefix_rfl,
        grows.resolve (vacant_eq_ok free).1⟩
    · rw [get?_insert_of_ne here, absent] at found
      cases found

theorem Making.paves {mode : Nat} {outcome : Outcome OsError}
    (making : Making tree mode path outcome) : Paves path tree outcome.1 := by
  induction making with
  | made once => exact makeOnce_paves once
  | barred => exact .rfl
  | stopped _ _ ih => exact ih.mono (List.prefix_append _ _)
  | failed _ _ _ ih => exact ih.mono (List.prefix_append _ _)
  | completed _ _ again ih =>
    exact (ih.mono (List.prefix_append _ _)).trans (makeOnce_paves again)

theorem Ensuring.paves {outcome : Outcome DirectoryError} (ensuring : Ensuring path tree outcome) :
    Paves path tree outcome.1 := by
  cases ensuring with
  | taken | unseen => exact .rfl
  | refused making => exact making.paves
  | made making => exact making.paves

theorem ensureDirectory_paves (tree : FileTree) (path : Parts) :
    Paves path tree (tree.ensureDirectory path).1 :=
  (ensureDirectory_ensuring tree path).paves

/-- What is in a directory is there by way of the directory. -/
theorem present_child {name : String} (clean : path.Clean) (proper : Proper name.toList)
    (present : tree.present (path.child name).render = .ok true) :
    ∃ node, tree.stat path.render = .ok node ∧ node.isDirectory = true := by
  rw [present_eq, resolve_child clean proper.named] at present
  cases reached : tree.resolve path.render with
  | error reason => rw [reached] at present; cases reason <;> cases present
  | ok place =>
    rw [reached] at present
    cases stepped : tree.step place name.toList with
    | error reason =>
      simp only [bind, Except.bind, stepped] at present
      cases reason <;> cases present
    | ok further =>
      obtain ⟨-, mode, readonly, there⟩ := step_eq_ok proper.notParent stepped
      refine ⟨.directory mode false readonly, ?_, rfl⟩
      simp only [stat, lookup, reached, bind, Except.bind, there]
      rfl

end WalletSetup.FileTree
