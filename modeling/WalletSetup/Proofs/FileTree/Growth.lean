import WalletSetup.FileTree.Directory
import WalletSetup.Proofs.Data.Mapping
import WalletSetup.Proofs.Data.Results

/-! What new directories and files do to a tree: they are added to it, and nothing that was there
becomes another or goes away. -/

set_option autoImplicit false

namespace WalletSetup.FileTree

open WalletSetup.Text WalletSetup.Path

variable {tree : FileTree} {place other : Place} {node : Node}

@[simp] theorem get?_insert_self (tree : FileTree) (place : Place) (node : Node) :
    (tree.insert place node).get? place = some node := by
  simp [get?, insert]

theorem get?_insert_of_ne (different : other ≠ place) :
    (tree.insert place node).get? other = tree.get? other := by
  simp only [get?, insert, List.lookup_cons, beq_eq_false_iff_ne.2 different]
  exact Data.lookup_filter_ne _ different

/-- What is put at a free place goes away without a trace. -/
theorem erase_insert (free : tree.get? place = none) (node : Node) :
    (tree.insert place node).erase place = tree := by
  obtain ⟨working, nodes⟩ := tree
  -- Nothing else is lost, for no entry of the tree was at the place.
  have absent : ∀ entry ∈ nodes, entry.1 ≠ place := by
    rintro ⟨key, value⟩ member rfl
    exact absurd (List.lookup_eq_none_iff.1 free _ member) (by simp)
  have kept : nodes.filter (·.1 ≠ place) = nodes :=
    List.filter_eq_self.2 fun entry member => by simpa using absent entry member
  simp only [erase, insert, mk.injEq, true_and]
  rw [List.filter_cons_of_neg (by simp), kept, kept]

/-- What was there is there as it was. There may be more. -/
structure Grows (before after : FileTree) : Prop where
  working : after.working = before.working
  kept : ∀ {place node}, before.get? place = some node → after.get? place = some node

namespace Grows

variable {before middle after : FileTree}

theorem rfl : Grows before before := ⟨.refl _, id⟩

theorem trans (first : Grows before middle) (second : Grows middle after) : Grows before after :=
  ⟨second.working.trans first.working, fun found => second.kept (first.kept found)⟩

theorem insert (free : tree.get? place = none) (node : Node) :
    Grows tree (tree.insert place node) := by
  refine ⟨.refl _, fun {other value} found => ?_⟩
  have different : other ≠ place := by
    rintro rfl
    simp [free] at found
  rw [get?_insert_of_ne different, found]

end Grows

/-- More directories and logs are there, and else nothing has changed. -/
structure Furnishes (before after : FileTree) : Prop extends Grows before after where
  files : ∀ {place mode content denied}, after.get? place = some (.file mode content denied) →
    before.get? place = some (.file mode content denied)

namespace Furnishes

variable {before middle after : FileTree}

theorem rfl : Furnishes before before := ⟨.rfl, id⟩

theorem trans (first : Furnishes before middle) (second : Furnishes middle after) :
    Furnishes before after :=
  ⟨first.toGrows.trans second.toGrows, fun found => first.files (second.files found)⟩

theorem insert (free : tree.get? place = none)
    (plain : ∀ mode content denied, node ≠ .file mode content denied) :
    Furnishes tree (tree.insert place node) := by
  refine ⟨.insert free node, fun {other mode content denied} found => ?_⟩
  by_cases same : other = place
  · rw [same, get?_insert_self] at found
    exact absurd (Option.some.inj found) (plain _ _ _)
  · rwa [get?_insert_of_ne same] at found

end Furnishes

@[simp] theorem naming_eq_ok {α : Type} {path : String} {e : Except OsReason α} {a : α} :
    naming path e = .ok a ↔ e = .ok a := by
  cases e <;> simp [naming]

theorem vacant_eq_ok {path : String} (found : tree.vacant path = .ok place) :
    tree.resolve path = .ok place ∧ tree.get? place = none := by
  unfold vacant at found
  cases reached : tree.resolve path with
  | error e => simp [reached, bind, Except.bind] at found
  | ok p =>
    simp only [reached, bind, Except.bind] at found
    split at found
    · cases found
    · next absent =>
      split at found
      · cases found
      · cases found
        exact ⟨.refl _, by simpa using absent⟩

theorem Grows.step {before after : FileTree} (grown : Grows before after) {name : Component}
    (stepped : before.step place name = .ok other) : after.step place name = .ok other := by
  unfold FileTree.step at stepped ⊢
  cases found : before.get? place with
  | none => rw [found] at stepped; cases stepped
  | some node => rw [grown.kept found, ← found]; exact stepped

theorem Grows.resolve {before after : FileTree} (grown : Grows before after) {path : String}
    (reached : before.resolve path = .ok place) : after.resolve path = .ok place := by
  -- A way is followed name by name, from wherever it starts.
  have steps (names : List Component) (start : Place)
      (reached : names.foldlM before.step start = .ok place) :
      names.foldlM after.step start = .ok place := by
    induction names generalizing start with
    | nil => exact reached
    | cons name rest ih =>
      rw [List.foldlM_cons] at reached ⊢
      obtain ⟨next, stepped, reached⟩ := Except.bind_eq_ok reached
      rw [grown.step stepped]
      exact ih next reached
  unfold FileTree.resolve at reached ⊢
  split at reached
  · cases reached
  · next named =>
    rw [if_neg named, grown.working]
    exact steps _ _ reached

/-- A way that was barred still is: only what was missing can have come. -/
theorem Grows.step_error {before after : FileTree} (grown : Grows before after)
    {name : Component} {reason : OsReason} (barred : reason ≠ .notFound)
    (refused : before.step place name = .error reason) :
    after.step place name = .error reason := by
  unfold FileTree.step at refused ⊢
  cases found : before.get? place with
  | none =>
    rw [found] at refused
    cases refused
    exact absurd (Eq.refl _) barred
  | some node => rw [grown.kept found, ← found]; exact refused

theorem Grows.resolve_error {before after : FileTree} (grown : Grows before after) {path : String}
    {reason : OsReason} (barred : reason ≠ .notFound)
    (refused : before.resolve path = .error reason) : after.resolve path = .error reason := by
  have steps (names : List Component) (start : Place)
      (refused : names.foldlM before.step start = .error reason) :
      names.foldlM after.step start = .error reason := by
    induction names generalizing start with
    | nil => cases refused
    | cons name rest ih =>
      rw [List.foldlM_cons] at refused ⊢
      rcases Except.bind_eq_error refused with first | ⟨next, stepped, refused⟩
      · rw [grown.step_error barred first]
        rfl
      · rw [grown.step stepped]
        exact ih next refused
  unfold FileTree.resolve at refused ⊢
  split at refused
  · cases refused
    exact absurd (Eq.refl _) barred
  · next named =>
    rw [if_neg named, grown.working]
    exact steps _ _ refused

theorem present_eq (tree : FileTree) (path : String) :
    tree.present path = match tree.resolve path with
      | .ok place => .ok (tree.get? place).isSome
      | .error .notFound => .ok false
      | .error reason => .error ⟨reason, some path⟩ := by
  unfold present stat lookup
  cases tree.resolve path with
  | error reason => cases reason <;> rfl
  | ok place =>
    simp only [bind, Except.bind]
    cases tree.get? place <;> rfl

/-- What is not there now was not there before. -/
theorem Grows.present_eq_false {before after : FileTree} (grown : Grows before after)
    {path : String} (absent : after.present path = .ok false) :
    before.present path = .ok false := by
  rw [present_eq] at absent ⊢
  cases reached : before.resolve path with
  | ok place =>
    rw [grown.resolve reached] at absent
    dsimp only at absent ⊢
    cases found : before.get? place with
    | none => rfl
    | some node =>
      rw [grown.kept found] at absent
      cases absent
  | error reason =>
    by_cases missing : reason = .notFound
    · rw [missing]
    · rw [grown.resolve_error missing reached] at absent
      cases reason <;> first | exact absurd (Eq.refl _) missing | cases absent

theorem makeDirectory_furnishes {path : String} {mode : Nat} {after : FileTree}
    (made : tree.makeDirectory path mode = .ok after) : Furnishes tree after := by
  rw [makeDirectory, naming_eq_ok] at made
  cases found : tree.vacant path with
  | error e => simp [found, bind, Except.bind] at made
  | ok place =>
    simp only [found, bind, Except.bind, Except.ok.injEq] at made
    subst made
    exact .insert (vacant_eq_ok found).2 nofun

theorem createFile_eq_ok {path : String} {mode : Nat} {content : Bytes} {after : FileTree}
    (made : tree.createFile path mode content = .ok (after, place)) :
    tree.resolve path = .ok place ∧ tree.get? place = none ∧
      after = tree.insert place (.file mode content false) := by
  rw [createFile, naming_eq_ok] at made
  cases found : tree.vacant path with
  | error e => simp [found, bind, Except.bind] at made
  | ok place =>
    simp only [found, bind, Except.bind, Except.ok.injEq, Prod.mk.injEq] at made
    obtain ⟨rfl, rfl⟩ := made
    exact ⟨(vacant_eq_ok found).1, (vacant_eq_ok found).2, .refl _⟩

theorem createFile_of_vacant {path : String} (free : tree.vacant path = .ok place) (mode : Nat)
    (content : Bytes) : tree.createFile path mode content =
      .ok (tree.insert place (.file mode content false), place) := by
  rw [createFile, free]
  rfl

/-- A new file is read as it was written, also when others have come after it. -/
theorem read_createFile {path : String} {mode : Nat} {content : Bytes} {made after : FileTree}
    (created : tree.createFile path mode content = .ok (made, place))
    (grown : Grows made after) : after.read path = .ok content := by
  obtain ⟨reached, free, rfl⟩ := createFile_eq_ok created
  have found := grown.kept (get?_insert_self tree place (.file mode content false))
  rw [FileTree.read, naming_eq_ok, FileTree.lookup,
    grown.resolve ((Grows.insert free _).resolve reached)]
  simp only [bind, Except.bind, found]
  rfl

theorem openLog_furnishes {path : String} {mode : Nat} {after : FileTree}
    (opened : tree.openLog path mode = .ok after) : Furnishes tree after := by
  rw [openLog, naming_eq_ok] at opened
  cases reached : tree.resolve path with
  | error e => simp [reached, bind, Except.bind] at opened
  | ok place =>
    simp only [reached, bind, Except.bind] at opened
    split at opened
    · cases opened
    · split at opened
      · cases opened
      · cases opened
        exact .rfl
    · next free =>
      split at opened
      · cases opened
      · cases opened
        exact .insert free nofun

theorem makeOnce_furnishes {path : String} {mode : Nat} {after : FileTree}
    (made : tree.makeOnce path mode = .ok after) : Furnishes tree after := by
  unfold makeOnce at made
  split at made
  · next done =>
    cases made
    exact makeDirectory_furnishes done
  · split at made
    · cases made
      exact .rfl
    · cases made

theorem ofExcept_related {ε : Type} {R : FileTree → FileTree → Prop}
    {result : Except ε FileTree} (same : R tree tree)
    (done : ∀ after, result = .ok after → R tree after) : R tree (ofExcept tree result).1 := by
  cases result with
  | error e => exact same
  | ok after => exact done after (.refl _)

theorem makeMissing_furnishes (tree : FileTree) (slashes : Nat) (names : List Component) :
    Furnishes tree (tree.makeMissing slashes names).1 := by
  induction names with
  | nil => exact ofExcept_related .rfl fun _ => makeOnce_furnishes
  | cons name above ih =>
    have reached : Furnishes tree (if (tree.stat (pathOf slashes above)).isOk then (tree, none)
        else tree.makeMissing slashes above).1 := by
      split
      · exact .rfl
      · exact ih
    unfold makeMissing
    dsimp only
    split
    · next made same =>
      rw [same] at reached
      exact reached.trans (ofExcept_related .rfl fun _ => makeOnce_furnishes)
    · exact reached

end WalletSetup.FileTree
