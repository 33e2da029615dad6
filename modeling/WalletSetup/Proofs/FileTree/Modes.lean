import WalletSetup.Proofs.FileTree.Directories

/-! Whom new directories are open to. The one that a path leads to in the end is its owner's alone,
unless the path comes by it earlier; the ones that it passes on the way are everyone's. -/

set_option autoImplicit false

namespace WalletSetup.FileTree

open WalletSetup.Path

/-- A shorter beginning of the path leads to the place. -/
def Passes (path : Parts) (tree : FileTree) (place : Place) : Prop :=
  ∃ names, names <+: path.names ∧ names ≠ path.names ∧
    tree.resolve (Parts.mk path.slashes names).render = .ok place

/-- The modes of the directories that have come. -/
structure Moded (last : Nat) (path : Parts) (before after : FileTree) : Prop where
  passed : ∀ {place mode denied readonly},
    after.get? place = some (.directory mode denied readonly) → before.get? place = none →
      after.Passes path place → mode = everyone
  final : ∀ {place mode denied readonly},
    after.get? place = some (.directory mode denied readonly) → before.get? place = none →
      ¬ after.Passes path place → mode = last ∧ after.resolve path.render = .ok place

variable {tree before middle after : FileTree} {path : Parts} {place : Place} {mode last : Nat}

theorem Passes.grow (passes : before.Passes path place) (grown : before.Grows after) :
    after.Passes path place := by
  obtain ⟨names, start, shorter, reached⟩ := passes
  exact ⟨names, start, shorter, grown.resolve reached⟩

theorem exists_passed (clean : path.Clean) (reached : tree.resolve path.render = .ok place)
    {names : List Component} (start : names <+: path.names) (shorter : names ≠ path.names) :
    ∃ above node, tree.resolve (Parts.mk path.slashes names).render = .ok above ∧
      tree.get? above = some node := by
  obtain ⟨rest, split⟩ := start
  have beginning : (Parts.mk path.slashes names).Clean := clean.start ⟨rest, split⟩
  cases rest with
  | nil => exact absurd (by rw [← split, List.append_nil]) shorter
  | cons next rest =>
    rw [resolve_render clean, ← split, List.foldlM_append] at reached
    obtain ⟨above, way, reached⟩ := Except.bind_eq_ok reached
    rw [List.foldlM_cons] at reached
    obtain ⟨further, stepped, -⟩ := Except.bind_eq_ok reached
    unfold step at stepped
    split at stepped
    · cases stepped
    · next node there =>
      refine ⟨above, node, ?_, there⟩
      rw [resolve_render beginning]
      exact way

namespace Moded

theorem refl : Moded last path before before := by
  constructor
  all_goals
    intro place mode denied readonly found absent
    rw [absent] at found
    cases found

/-- Where no directory comes, the modes stay what they are, and so do the ways. -/
theorem grow (moded : Moded last path before middle) (clean : path.Clean)
    (grown : middle.Grows after) (same : ∀ {place mode denied readonly},
      after.get? place = some (.directory mode denied readonly) →
        middle.get? place = some (.directory mode denied readonly)) :
    Moded last path before after := by
  constructor
  · intro place mode denied readonly found absent passes
    by_contra other
    have unpassed : ¬ middle.Passes path place := fun earlier =>
      other (moded.passed (same found) absent earlier)
    obtain ⟨-, reached⟩ := moded.final (same found) absent unpassed
    obtain ⟨names, start, shorter, way⟩ := passes
    obtain ⟨above, node, earlier, -⟩ := exists_passed clean reached start shorter
    have equal := (grown.resolve earlier).symm.trans way
    cases equal
    exact unpassed ⟨names, start, shorter, earlier⟩
  · intro place mode denied readonly found absent unpassed
    obtain ⟨equal, reached⟩ := moded.final (same found) absent fun earlier =>
      unpassed (earlier.grow grown)
    exact ⟨equal, grown.resolve reached⟩

/-- What has come above the last directory has come on the way. -/
theorem below {slashes : Nat} {names : List Component} {name : Component}
    (paved : Paves ⟨slashes, names⟩ before middle)
    (above : Moded everyone ⟨slashes, names⟩ before middle) (grown : middle.Grows after)
    (moded : Moded last ⟨slashes, names ++ [name]⟩ middle after) :
    Moded last ⟨slashes, names ++ [name]⟩ before after := by
  -- What came first lies on the way to what the longer path leads to.
  have earlier {place : Place} {node : Node} (known : middle.get? place = some node)
      (absent : before.get? place = none) : after.Passes ⟨slashes, names ++ [name]⟩ place := by
    obtain ⟨_, beginning, -, start, reached⟩ := paved.paved known absent
    refine ⟨beginning, start.trans (List.prefix_append _ _), ?_, grown.resolve reached⟩
    rintro rfl
    exact absurd start.length_le (by simp)
  constructor
  · intro place mode denied readonly found absent passes
    cases known : middle.get? place with
    | none => exact moded.passed found known passes
    | some node =>
      rw [grown.kept known] at found
      cases found
      by_cases between : middle.Passes ⟨slashes, names⟩ place
      · exact above.passed known absent between
      · exact (above.final known absent between).1
  · intro place mode denied readonly found absent unpassed
    cases known : middle.get? place with
    | none => exact moded.final found known unpassed
    | some node => exact absurd (earlier known absent) unpassed

end Moded

theorem makeOnce_moded (clean : path.Clean) (made : tree.makeOnce path.render mode = .ok after) :
    Moded mode path tree after := by
  rcases makeOnce_eq_ok made with ⟨rfl, -⟩ | ⟨free, vacant, rfl⟩
  · exact .refl
  · obtain ⟨reached, absent⟩ := vacant_eq_ok vacant
    have grown := Grows.insert absent (.directory mode false false)
    have new {place : Place} {node : Node} (known : tree.get? place = none)
        (found : (tree.insert free (.directory mode false false)).get? place = some node) :
        place = free := by
      by_contra other
      rw [get?_insert_of_ne other, known] at found
      cases found
    constructor
    · intro place _ _ _ found known passes
      obtain rfl := new known found
      -- What the path passes was there before.
      obtain ⟨names, start, shorter, way⟩ := passes
      obtain ⟨above, node, earlier, there⟩ := exists_passed clean reached start shorter
      have equal := (grown.resolve earlier).symm.trans way
      cases equal
      rw [known] at there
      cases there
    · intro place _ _ _ found known _
      obtain rfl := new known found
      rw [get?_insert_self] at found
      cases found
      exact ⟨rfl, grown.resolve reached⟩

/-- The directories above the last one are made for everyone. -/
theorem Making.moded {outcome : Outcome OsError} (making : Making tree mode path outcome)
    (clean : path.Clean) : Moded mode path tree outcome.1 := by
  induction making with
  | made once => exact makeOnce_moded clean once
  | barred => exact .refl
  | stopped _ above ih => exact .below above.paves (ih clean.above) .rfl .refl
  | failed _ above _ ih => exact .below above.paves (ih clean.above) .rfl .refl
  | completed _ above again ih =>
    exact .below above.paves (ih clean.above) (makeOnce_furnishes again).toGrows
      (makeOnce_moded clean again)

theorem Ensuring.moded {outcome : Outcome DirectoryError} (ensuring : Ensuring path tree outcome)
    (clean : path.Clean) : Moded ownerOnly path tree outcome.1 := by
  cases ensuring with
  | taken | unseen => exact .refl
  | refused making => exact making.moded clean
  | made making => exact making.moded clean

theorem ensureDirectory_moded (clean : path.Clean) (tree : FileTree) :
    Moded ownerOnly path tree (tree.ensureDirectory path).1 :=
  (ensureDirectory_ensuring tree path).moded clean

def AllPrivate (before after : FileTree) : Prop := ∀ place mode denied readonly,
  after.get? place = some (.directory mode denied readonly) → before.get? place = none →
    mode = ownerOnly

def PassesNoneNew (path : Parts) (before after : FileTree) : Prop := ∀ place mode denied readonly,
  after.get? place = some (.directory mode denied readonly) → before.get? place = none →
    ¬ after.Passes path place

theorem Moded.allPrivate_iff (moded : Moded ownerOnly path before after) :
    AllPrivate before after ↔ PassesNoneNew path before after := by
  constructor
  · intro all place mode denied readonly found absent passes
    have same := (all place mode denied readonly found absent).symm.trans
      (moded.passed found absent passes)
    exact absurd same (by decide)
  · intro none place mode denied readonly found absent
    exact (moded.final found absent (none place mode denied readonly found absent)).1

end WalletSetup.FileTree
