import WalletSetup.Proofs.Path.Literal
import WalletSetup.Proofs.Path.Clean

/-! The normal form of paths, and that expansion brings every path into it. A home directory with
whatever slashes at its end, and a rest with whatever slashes in front of it, come to the same
path. -/

set_option autoImplicit false

namespace WalletSetup.Path

open WalletSetup.Text

def ParentsFirst (rooted : Prop) (names : List Component) : Prop :=
  ∃ ups rest, names = List.replicate ups parent ++ rest ∧ parent ∉ rest ∧ (rooted → ups = 0)

/-- A text in normal form, by the pieces between the slashes behind the leading ones. -/
structure NormalForm (cs : List Char) : Prop where
  slashes : (cs.takeWhile (· = '/')).length ≤ 2
  noEmpty : cs.dropWhile (· = '/') ≠ [] → [] ∉ splitOn '/' (cs.dropWhile (· = '/'))
  noCurrent : cs ≠ current → current ∉ splitOn '/' (cs.dropWhile (· = '/'))
  noTrailing : cs.getLast? = some '/' → ∀ c ∈ cs, c = '/'
  parents : ParentsFirst (cs.head? = some '/') (splitOn '/' (cs.dropWhile (· = '/')))

section Stack

inductive Stacked (rooted : Bool) : List Component → Prop where
  | parents (ups : Nat) (none : rooted = true → ups = 0) :
    Stacked rooted (List.replicate ups parent)
  | push {name : Component} {done : List Component} (down : name ≠ parent)
    (below : Stacked rooted done) : Stacked rooted (name :: done)

variable {rooted : Bool} {done names : List Component}

theorem Stacked.pushName (stacked : Stacked rooted done) (name : Component) :
    Stacked rooted (Parts.pushName rooted done name) := by
  unfold Parts.pushName
  split
  · next down => exact .push down stacked
  · cases stacked with
    | parents ups none =>
      cases ups with
      | zero =>
        cases rooted with
        | true => exact .parents 0 fun _ => rfl
        | false => exact .parents 1 nofun
      | succ ups =>
        -- With a component that leads upwards on the stack the path is not rooted.
        refine .parents (ups + 2) fun root => ?_
        exact absurd (none root) (Nat.succ_ne_zero ups)
    | @push last before down below =>
      dsimp only
      rw [if_neg down]
      exact below

theorem Stacked.foldl (stacked : Stacked rooted done) (names : List Component) :
    Stacked rooted (names.foldl (Parts.pushName rooted) done) := by
  induction names generalizing done with
  | nil => exact stacked
  | cons name rest ih => exact ih (stacked.pushName name)

theorem Stacked.parentsFirst (stacked : Stacked rooted done) :
    ParentsFirst (rooted = true) done.reverse := by
  induction stacked with
  | parents ups none => exact ⟨ups, [], by simp, List.not_mem_nil, none⟩
  | @push name done down below ih =>
    obtain ⟨ups, rest, same, apart, none⟩ := ih
    refine ⟨ups, rest ++ [name], ?_, ?_, none⟩
    · rw [List.reverse_cons, same, List.append_assoc]
    · simp [apart, Ne.symm down]

theorem foldl_pushName_parents (ups above : Nat) :
    (List.replicate ups parent).foldl (Parts.pushName false) (List.replicate above parent) =
      List.replicate (above + ups) parent := by
  induction ups generalizing above with
  | zero => rfl
  | succ ups ih =>
    have pushed : Parts.pushName false (List.replicate above parent) parent =
        List.replicate (above + 1) parent := by
      cases above <;> rfl
    rw [List.replicate_succ, List.foldl_cons, pushed, ih]
    congr 1
    omega

theorem foldl_pushName_names (apart : parent ∉ names) :
    names.foldl (Parts.pushName rooted) done = names.reverse ++ done := by
  induction names generalizing done with
  | nil => rfl
  | cons name rest ih =>
    rw [List.mem_cons, not_or] at apart
    have pushed : Parts.pushName rooted done name = name :: done := if_pos (Ne.symm apart.1)
    rw [List.foldl_cons, pushed, ih apart.2, List.reverse_cons, List.append_assoc]
    rfl

theorem ParentsFirst.foldl (first : ParentsFirst (rooted = true) names) :
    (names.foldl (Parts.pushName rooted) []).reverse = names := by
  obtain ⟨ups, rest, rfl, apart, none⟩ := first
  have climbed : (List.replicate ups parent).foldl (Parts.pushName rooted) [] =
      List.replicate ups parent := by
    cases rooted with
    | true => rw [none rfl]; rfl
    | false => simpa using foldl_pushName_parents ups 0
  rw [List.foldl_append, climbed, foldl_pushName_names apart]
  simp

end Stack

namespace Parts

/-- The path is clean, and nothing in it can be cancelled. -/
structure Normal (p : Parts) : Prop extends Clean p where
  parents : ParentsFirst (p.slashes ≠ 0) p.names

variable {p : Parts}

theorem Clean.normal (clean : p.Clean) : p.normal.Normal where
  slashes := clean.slashes
  names name known := by
    rcases mem_normal known with given | rfl
    · exact clean.names name given
    · exact ⟨by decide, by decide, by decide⟩
  parents := by
    have start : Stacked (p.slashes ≠ 0) [] := .parents 0 fun _ => rfl
    have first := (start.foldl p.names).parentsFirst
    rwa [decide_eq_true_eq] at first

theorem Normal.normal_eq (normal : p.Normal) : p.normal = p := by
  have first : ParentsFirst (decide (p.slashes ≠ 0) = true) p.names := by
    simpa using normal.parents
  rw [Parts.normal, first.foldl]

end Parts

section Text

variable {cs : List Char}

theorem exists_leading (cs : List Char) : ∃ n body, cs = List.replicate n '/' ++ body ∧
    cs.takeWhile (· = '/') = List.replicate n '/' ∧ cs.dropWhile (· = '/') = body ∧
    body.head? ≠ some '/' := by
  have slash : ∀ c ∈ cs.takeWhile (· = '/'), c = '/' := by
    simpa using List.all_eq_true.1 (List.all_takeWhile (p := (· = '/')) (l := cs))
  have leading := List.eq_replicate_of_mem slash
  refine ⟨_, _, ?_, leading, rfl, fun first => ?_⟩
  · rw [← leading, List.takeWhile_append_dropWhile]
  · exact absurd (head?_dropWhile first) (by decide)

theorem normalForm_current : NormalForm current where
  slashes := by decide
  noEmpty _ := by decide
  noCurrent other := absurd rfl other
  noTrailing := by decide
  parents := ⟨0, [current], rfl, by decide, fun _ => rfl⟩

theorem normalForm_slashes {n : Nat} (few : n ≤ 2) : NormalForm (List.replicate n '/') := by
  have start : ([] : List Char).head? ≠ some '/' := nofun
  have leading := takeWhile_slash start n
  have body := dropWhile_slash start n
  rw [List.append_nil] at leading body
  constructor
  · rwa [leading, List.length_replicate]
  · exact fun some => absurd body some
  · rw [body]
    exact fun _ => by decide
  · exact fun _ c => List.eq_of_mem_replicate
  · rw [body]
    exact ⟨0, [[]], rfl, by decide, fun _ => rfl⟩

/-- A piece is empty where a slash ends the text, unless there are slashes only. -/
theorem all_slashes_of_getLast?
    (noEmpty : cs.dropWhile (· = '/') ≠ [] → [] ∉ splitOn '/' (cs.dropWhile (· = '/')))
    (last : cs.getLast? = some '/') : ∀ c ∈ cs, c = '/' := by
  obtain ⟨n, body, rfl, -, behind, -⟩ := exists_leading cs
  rw [behind] at noEmpty
  by_cases none : body = []
  · rw [none, List.append_nil]
    exact fun c => List.eq_of_mem_replicate
  · rw [List.getLast?_append_of_ne_nil _ none] at last
    obtain ⟨before, rfl⟩ := List.getLast?_eq_some_iff.1 last
    have empty : [] ∈ splitOn '/' (before ++ ['/']) := by
      rw [splitOn_append]
      exact List.mem_append_right _ List.mem_cons_self
    exact absurd empty (noEmpty none)

theorem Parts.Normal.normalForm {p : Parts} (normal : p.Normal) : NormalForm p.toChars := by
  have start := Named.head?_joinWith_ne normal.names
  have body := dropWhile_slash start p.slashes
  unfold toChars
  split
  · exact normalForm_current
  · by_cases none : p.names = []
    · rw [none, joinWith, List.append_nil]
      exact normalForm_slashes normal.slashes
    -- Cut at its slashes, the text gives the names back.
    · have pieces := splitOn_joinWith none fun name known => (normal.names name known).noSlash
      have noEmpty : [] ∉ p.names := fun known => (normal.names _ known).nonempty rfl
      constructor
      · rw [takeWhile_slash start, List.length_replicate]
        exact normal.slashes
      · rw [body, pieces]
        exact fun _ => noEmpty
      · rw [body, pieces]
        exact fun _ known => (normal.names _ known).notCurrent rfl
      · refine all_slashes_of_getLast? ?_
        rw [body, pieces]
        exact fun _ => noEmpty
      · rw [body, pieces]
        obtain ⟨ups, rest, same, apart, none⟩ := normal.parents
        refine ⟨ups, rest, same, apart, fun slash => none fun relative => ?_⟩
        rw [relative] at slash
        exact start slash

namespace NormalForm

variable (normal : NormalForm cs)

include normal

theorem components (other : cs ≠ current) : Path.components cs =
    if cs.dropWhile (· = '/') = [] then [] else splitOn '/' (cs.dropWhile (· = '/')) := by
  have noEmpty := normal.noEmpty
  have noCurrent := normal.noCurrent other
  obtain ⟨n, body, whole, -, behind, -⟩ := exists_leading cs
  rw [behind] at noEmpty noCurrent ⊢
  rw [whole, components_replicate]
  split
  · next none =>
    rw [none]
    rfl
  · next some =>
    refine List.filter_eq_self.2 fun name known => ?_
    have nonempty : name ≠ [] := fun same => noEmpty some (same ▸ known)
    have notCurrent : name ≠ current := fun same => noCurrent (same ▸ known)
    simp [nonempty, notCurrent]

theorem leadingSlashes {n : Nat} {body : List Char} (whole : cs = List.replicate n '/' ++ body)
    (start : body.head? ≠ some '/') : Path.leadingSlashes cs = n := by
  have few := normal.slashes
  rw [whole, takeWhile_slash start, List.length_replicate] at few
  rw [whole, leadingSlashes_replicate few start]

theorem toChars_ofChars (given : cs ≠ []) : (Parts.ofChars cs).toChars = cs := by
  by_cases dot : cs = current
  · rw [dot]
    rfl
  · have names := normal.components dot
    obtain ⟨n, body, whole, -, behind, start⟩ := exists_leading cs
    have joined : joinWith ['/'] (Path.components cs) = body := by
      rw [names, behind]
      split
      · next none => exact none.symm
      · exact joinWith_splitOn _ _
    unfold Parts.toChars Parts.ofChars
    dsimp only
    rw [joined, normal.leadingSlashes whole start, ← whole]
    cases cs with
    | nil => exact absurd rfl given
    | cons c rest => rfl

theorem ofChars : (Parts.ofChars cs).Normal where
  slashes := leadingSlashes_le cs
  names name known := by
    obtain ⟨nonempty, notCurrent, noSlash⟩ := mem_components known
    exact ⟨nonempty, notCurrent, noSlash⟩
  parents := by
    by_cases dot : cs = current
    · rw [dot]
      exact ⟨0, [], rfl, List.not_mem_nil, fun _ => rfl⟩
    · have names := normal.components dot
      have parents := normal.parents
      obtain ⟨n, body, whole, -, behind, start⟩ := exists_leading cs
      rw [behind] at names parents
      unfold Parts.ofChars
      dsimp only
      rw [names]
      split
      · exact ⟨0, [], rfl, List.not_mem_nil, fun _ => rfl⟩
      · obtain ⟨ups, rest, same, apart, none⟩ := parents
        refine ⟨ups, rest, same, apart, fun rooted => none ?_⟩
        rw [normal.leadingSlashes whole start] at rooted
        obtain ⟨k, rfl⟩ := Nat.exists_eq_succ_of_ne_zero rooted
        rw [whole]
        rfl

end NormalForm

end Text

section Normalize

variable {path : String}

theorem normalForm_normalize (path : String) : NormalForm (normalize path).toList := by
  rw [normalize, Parts.toList_render]
  exact (Parts.clean_ofString path).normal.normalForm

/-- The texts in normal form are those that stay as they are. -/
theorem normalize_eq_self_iff (given : path ≠ "") :
    normalize path = path ↔ NormalForm path.toList := by
  constructor
  · intro same
    rw [← same]
    exact normalForm_normalize path
  · intro normal
    rw [normalize, Parts.ofString, normal.ofChars.normal_eq, ← String.toList_inj,
      Parts.toList_render]
    exact normal.toChars_ofChars (by simpa using given)

end Normalize

end WalletSetup.Path
