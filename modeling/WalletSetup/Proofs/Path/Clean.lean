import WalletSetup.Proofs.FileTree.Growth
import WalletSetup.Proofs.Path.LastName

/-! Paths as they are read. Written and read again they are the same, and a name that is put behind
one leads one step further. -/

set_option autoImplicit false

namespace WalletSetup.Path

open WalletSetup.Text

theorem components_slash (cs : List Char) : components ('/' :: cs) = components cs := by
  simp [components, splitOn]

theorem components_replicate (n : Nat) (cs : List Char) :
    components (List.replicate n '/' ++ cs) = components cs := by
  induction n with
  | zero => rfl
  | succ n ih => rw [List.replicate_succ, List.cons_append, components_slash, ih]

namespace Named

variable {name : Component} {names : List Component}

theorem components_joinWith (named : ∀ name ∈ names, Named name) :
    Path.components (joinWith ['/'] names) = names := by
  by_cases none : names = []
  · rw [none]
    rfl
  · rw [Path.components, splitOn_joinWith none fun name known => (named name known).noSlash]
    refine List.filter_eq_self.2 fun name known => ?_
    simp [(named name known).nonempty, (named name known).notCurrent]

theorem head?_ne (named : Named name) : name.head? ≠ some '/' := by
  intro slash
  exact named.noSlash (List.mem_of_mem_head? slash)

theorem head?_joinWith_ne (named : ∀ name ∈ names, Named name) :
    (joinWith ['/'] names).head? ≠ some '/' := by
  cases names with
  | nil => nofun
  | cons first rest =>
    have start := named first List.mem_cons_self
    cases rest with
    | nil => exact start.head?_ne
    | cons second others =>
      obtain ⟨c, cs, rfl⟩ := List.exists_cons_of_ne_nil start.nonempty
      exact start.head?_ne

end Named

theorem takeWhile_slash {cs : List Char} (start : cs.head? ≠ some '/') (n : Nat) :
    (List.replicate n '/' ++ cs).takeWhile (· = '/') = List.replicate n '/' := by
  rw [List.takeWhile_append_of_pos fun c slash => by simp [List.eq_of_mem_replicate slash]]
  cases cs with
  | nil => simp
  | cons c rest =>
    have other : c ≠ '/' := fun same => start (by rw [same]; rfl)
    simp [other]

theorem dropWhile_slash {cs : List Char} (start : cs.head? ≠ some '/') (n : Nat) :
    (List.replicate n '/' ++ cs).dropWhile (· = '/') = cs := by
  have whole := List.takeWhile_append_dropWhile (p := (· = '/')) (l := List.replicate n '/' ++ cs)
  rw [takeWhile_slash start] at whole
  exact List.append_cancel_left whole

theorem leadingSlashes_le (cs : List Char) : leadingSlashes cs ≤ 2 := by
  unfold leadingSlashes
  split <;> omega

theorem leadingSlashes_replicate {cs : List Char} {n : Nat} (few : n ≤ 2)
    (start : cs.head? ≠ some '/') : leadingSlashes (List.replicate n '/' ++ cs) = n := by
  unfold leadingSlashes
  rw [takeWhile_slash start, List.length_replicate]
  match n, few with
  | 0, _ | 1, _ | 2, _ => rfl

namespace Parts

/-- The path is one that some text reads as. -/
structure Clean (p : Parts) : Prop where
  slashes : p.slashes ≤ 2
  names : ∀ name ∈ p.names, Named name

variable {p : Parts} {name : String}

theorem clean_ofString (s : String) : (ofString s).Clean where
  slashes := leadingSlashes_le s.toList
  names name known := by
    obtain ⟨nonempty, notCurrent, noSlash⟩ := mem_components known
    exact ⟨nonempty, notCurrent, noSlash⟩

theorem Clean.start {slashes : Nat} {names more : List Component} (start : names <+: more)
    (clean : (Parts.mk slashes more).Clean) : (Parts.mk slashes names).Clean :=
  ⟨clean.slashes, fun name known => clean.names name (start.subset known)⟩

theorem Clean.above {slashes : Nat} {names : List Component} {name : Component}
    (clean : (Parts.mk slashes (names ++ [name])).Clean) : (Parts.mk slashes names).Clean :=
  clean.start (List.prefix_append _ _)

theorem toChars_ne_nil (p : Parts) : p.toChars ≠ [] := by
  unfold toChars
  split
  · exact List.cons_ne_nil _ _
  · next written => exact written

theorem Clean.ofChars_toChars (clean : p.Clean) : ofChars p.toChars = p := by
  have read : ofChars (List.replicate p.slashes '/' ++ joinWith ['/'] p.names) = p := by
    unfold ofChars
    rw [leadingSlashes_replicate clean.slashes (Named.head?_joinWith_ne clean.names),
      components_replicate, Named.components_joinWith clean.names]
  unfold toChars
  split
  · next empty =>
    -- The path without a component is written with one that does not count.
    rw [empty] at read
    exact read
  · exact read

theorem Clean.ofString_render (clean : p.Clean) : ofString p.render = p := by
  rw [ofString, render, String.toList_ofList]
  exact clean.ofChars_toChars

theorem child_eq (named : Named name.toList) :
    p.child name = ⟨p.slashes, p.names ++ [name.toList]⟩ := by
  have start : leadingSlashes (List.replicate 0 '/' ++ name.toList) = 0 :=
    leadingSlashes_replicate (by decide) named.head?_ne
  have read : ofString name = ⟨0, [name.toList]⟩ := by
    rw [ofString, ofChars, named.components]
    exact congrArg (Parts.mk · [name.toList]) start
  rw [child, read]
  rfl

theorem toList_render (p : Parts) : p.render.toList = p.toChars := String.toList_ofList

theorem render_ne (p : Parts) : p.render ≠ "" := by
  intro empty
  have chars := congrArg String.toList empty
  rw [toList_render] at chars
  exact p.toChars_ne_nil chars

/-- Behind a path that ends in a name, the next name is put in the same way in text and parts. -/
theorem beneath_render {above : List Component} {last : Component}
    (names : p.names = above ++ [last]) (proper : Proper last) (child : Named name.toList) :
    beneath p.render name = (p.child name).render := by
  have known : last ∈ p.names := by simp [names]
  have filled : List.replicate p.slashes '/' ++ joinWith ['/'] p.names ≠ [] := by
    obtain ⟨c, inside⟩ := List.exists_mem_of_ne_nil _ proper.nonempty
    have member : c ∈ joinWith ['/'] p.names := mem_joinWith_of_mem known inside
    exact List.append_ne_nil_of_right_ne_nil _ (List.ne_nil_of_mem member)
  have behind : (p.child name).toChars = p.toChars ++ '/' :: name.toList := by
    rw [child_eq child]
    unfold toChars
    rw [joinWith_append_singleton _ _ _ (List.ne_nil_of_mem known)]
    split
    · next empty => simp at empty
    · simp
  -- The path ends in its last name, and that has no slash.
  have noSlash : p.toChars.getLast? ≠ some '/' := by
    intro slash
    have own : last.getLast? = some '/' := by
      rcases toChars_endsIn names proper with same | ⟨before, same⟩
      · rwa [← same]
      · rwa [same, List.getLast?_append_of_ne_nil _ (List.cons_ne_nil _ _),
          List.getLast?_cons_of_ne_nil proper.nonempty] at slash
    exact proper.noSlash (List.mem_of_getLast? own)
  rw [← String.toList_inj, toList_render, behind]
  unfold beneath
  rw [toList_render]
  split
  · next empty => exact absurd (List.getLast?_eq_none_iff.1 empty) p.toChars_ne_nil
  · next slash => exact absurd slash noSlash
  · rw [String.toList_append, String.toList_append, toList_render, List.append_assoc]
    rfl

theorem Clean.child (clean : p.Clean) (named : Named name.toList) : (p.child name).Clean := by
  rw [child_eq named]
  refine ⟨clean.slashes, fun other known => ?_⟩
  rcases List.mem_append.1 known with known | same
  · exact clean.names other known
  · rw [List.mem_singleton.1 same]
    exact named

end Parts

end WalletSetup.Path

namespace WalletSetup.FileTree

open WalletSetup.Path

variable {tree : FileTree} {p : Parts} {name : String} {place : Place}

theorem resolve_render (clean : p.Clean) : tree.resolve p.render =
    p.names.foldlM tree.step (if p.slashes = 0 then tree.working else []) := by
  unfold resolve
  rw [if_neg p.render_ne, clean.ofString_render]

/-- A path leads to the same place in its clean form. -/
theorem lookup_clean {path : String} (written : path ≠ "") :
    tree.lookup (clean path) = tree.lookup path := by
  unfold lookup
  rw [clean, resolve_render (Parts.clean_ofString path), resolve, if_neg written]

theorem resolve_child (clean : p.Clean) (named : Named name.toList) :
    tree.resolve (p.child name).render =
      tree.resolve p.render >>= (tree.step · name.toList) := by
  rw [resolve_render (clean.child named), resolve_render clean, Parts.child_eq named]
  dsimp only
  rw [List.foldlM_append]
  simp only [List.foldlM_cons, List.foldlM_nil]
  congr 1
  funext place
  exact bind_pure _

/-- A child that can come has a directory that it comes into. -/
theorem vacant_child (clean : p.Clean) (proper : Proper name.toList)
    (free : tree.vacant (p.child name).render = .ok place) : ∃ directory mode readonly,
      tree.lookup p.render = .ok (directory, .directory mode false readonly) ∧
      place = directory ++ [name] ∧ tree.get? place = none := by
  obtain ⟨reached, absent⟩ := vacant_eq_ok free
  rw [resolve_child clean proper.named] at reached
  obtain ⟨directory, found, stepped⟩ := Except.bind_eq_ok reached
  obtain ⟨rfl, mode, readonly, there⟩ := step_eq_ok proper.notParent stepped
  rw [String.ofList_toList] at absent ⊢
  refine ⟨directory, mode, readonly, ?_, rfl, absent⟩
  rw [lookup, found]
  simp only [bind, Except.bind, there]

theorem step_ne_alreadyExists (tree : FileTree) (place : Place) (name : Component) :
    tree.step place name ≠ .error .alreadyExists := by
  unfold step
  split
  · nofun
  · split
    · nofun
    · split
      · nofun
      · split <;> nofun

/-- What is in the way of a path does not count as being there already. -/
theorem resolve_ne_alreadyExists (tree : FileTree) (path : String) :
    tree.resolve path ≠ .error .alreadyExists := by
  have steps (names : List Component) (start : Place) :
      names.foldlM tree.step start ≠ .error .alreadyExists := by
    induction names generalizing start with
    | nil => nofun
    | cons name rest ih =>
      intro refused
      rw [List.foldlM_cons] at refused
      rcases Except.bind_eq_error refused with first | ⟨next, -, refused⟩
      · exact step_ne_alreadyExists tree start name first
      · exact ih next refused
  unfold resolve
  dsimp only
  split
  · nofun
  · exact steps _ _

def Occupied (tree : FileTree) (path : String) : Prop := ∃ found, tree.lookup path = .ok found

theorem vacant_eq_alreadyExists_iff {path : String} :
    tree.vacant path = .error .alreadyExists ↔ tree.Occupied path := by
  unfold vacant Occupied lookup
  cases reached : tree.resolve path with
  | error reason =>
    have other : reason ≠ .alreadyExists := by
      rintro rfl
      exact resolve_ne_alreadyExists tree path reached
    constructor
    · intro refused
      cases refused
      exact absurd rfl other
    · rintro ⟨found, looked⟩
      cases looked
  | ok place =>
    simp only [bind, Except.bind]
    cases found : tree.get? place with
    | some node => simp
    | none =>
      constructor
      · intro refused
        split at refused
        · next taken => cases taken
        · split at refused <;> cases refused
      · rintro ⟨found, looked⟩
        cases looked

end WalletSetup.FileTree
