import WalletSetup.Proofs.FileTree.Grounded

/-! Making sure of a directory. What is missing is made and nothing else, and by a path that never
leads upwards either all of it is made or nothing. -/

set_option autoImplicit false

namespace WalletSetup

open WalletSetup.Path

def Node.Bars (node : Node) : Prop :=
  node.isDirectory = false ∨ node.denied = true ∨ node.readonly = true

namespace FileTree

variable {tree after : FileTree} {path : Parts}

section Child

theorem child_ofList {slashes : Nat} {names : List Component} {name : Component}
    (named : Named name) :
    (Parts.mk slashes names).child (String.ofList name) = ⟨slashes, names ++ [name]⟩ := by
  rw [← String.toList_ofList (l := name)] at named
  rw [Parts.child_eq named, String.toList_ofList]

variable {name : String} {place : Place} {mode : Nat} {node : Node}

theorem resolve_child_ne_notFound (clean : path.Clean) (named : Named name.toList)
    (found : tree.lookup path.render = .ok (place, node)) (directory : node.isDirectory = true) :
    tree.resolve (path.child name).render ≠ .error .notFound := by
  obtain ⟨reached, there⟩ := lookup_eq_ok_iff.1 found
  rw [resolve_child clean named, reached]
  simp only [bind, Except.bind, step, there, directory]
  split
  · nofun
  · split
    · nofun
    · split <;> nofun

theorem resolve_child_of_new (clean : path.Clean) (proper : Proper name.toList)
    (reached : tree.resolve path.render = .ok place)
    (new : tree.get? place = some (.directory mode false false)) :
    tree.resolve (path.child name).render = .ok (place ++ [name]) := by
  have stepped : tree.step place name.toList = .ok (place ++ [name]) := by
    simp only [step, new, proper.notParent, String.ofList_toList]
    rfl
  rw [resolve_child clean proper.named, reached]
  exact stepped

theorem vacant_child_of_new (clean : path.Clean) (proper : Proper name.toList)
    (reached : tree.resolve path.render = .ok place)
    (new : tree.get? place = some (.directory mode false false))
    (free : tree.get? (place ++ [name]) = none) :
    tree.vacant (path.child name).render = .ok (place ++ [name]) := by
  rw [vacant, resolve_child_of_new clean proper reached new]
  simp only [bind, Except.bind, free, List.dropLast_concat, new]
  rfl

end Child

section Barred

/-- A beginning of the path leads to something that bars the way. -/
def BarredOn (path : Parts) (tree : FileTree) : Prop :=
  ∃ names place node, names <+: path.names ∧
    tree.lookup (Parts.mk path.slashes names).render = .ok (place, node) ∧ node.Bars

theorem BarredOn.mono {slashes : Nat} {names more : List Component} (start : names <+: more)
    (barred : BarredOn ⟨slashes, names⟩ tree) : BarredOn ⟨slashes, more⟩ tree := by
  obtain ⟨first, place, node, shorter, found, bars⟩ := barred
  exact ⟨first, place, node, shorter.trans start, found, bars⟩

theorem bars_of_step {place : Place} {name : Component} {reason : OsReason}
    (refused : tree.step place name = .error reason) (barred : reason ≠ .notFound) :
    ∃ node, tree.get? place = some node ∧ node.Bars := by
  unfold step at refused
  split at refused
  · cases refused
    exact absurd rfl barred
  · next node there =>
    refine ⟨node, there, ?_⟩
    split at refused
    · next other => exact .inl (by simpa using other)
    · split at refused
      · next denied => exact .inr (.inl denied)
      · split at refused <;> cases refused

theorem barredOn_of_resolve {reason : OsReason} (clean : path.Clean)
    (refused : tree.resolve path.render = .error reason) (barred : reason ≠ .notFound) :
    tree.BarredOn path := by
  obtain ⟨slashes, names⟩ := path
  induction names using List.reverseRecOn with
  | nil =>
    rw [resolve_render clean] at refused
    cases refused
  | append_singleton names last ih =>
    have start : names <+: names ++ [last] := List.prefix_append _ _
    have shorter := clean.above
    have way : tree.resolve (Parts.mk slashes names).render = _ := resolve_render shorter
    rw [resolve_render clean, List.foldlM_append] at refused
    dsimp only at refused way
    rw [← way] at refused
    rcases Except.bind_eq_error refused with before | ⟨place, reached, refused⟩
    · exact (ih shorter before).mono start
    · rw [List.foldlM_cons] at refused
      rcases Except.bind_eq_error refused with stopped | ⟨_, _, done⟩
      · obtain ⟨node, there, bars⟩ := bars_of_step stopped barred
        exact ⟨names, place, node, start, lookup_eq_ok_iff.2 ⟨reached, there⟩, bars⟩
      · cases done

theorem barredOn_of_makeOnce (grounded : Grounded tree) (clean : path.Clean) {mode : Nat}
    {e : OsError} (refused : tree.makeOnce path.render mode = .error e)
    (barred : e.reason ≠ .notFound) : tree.BarredOn path := by
  obtain ⟨failed, other⟩ := makeOnce_eq_error refused
  rcases vacant_eq_error failed with lost | ⟨place, reached, ⟨-, node, there⟩ | ⟨-, absent, readonly⟩⟩
  · exact barredOn_of_resolve clean lost barred
  · have found := lookup_eq_ok_iff.2 ⟨reached, there⟩
    rw [isDirectoryAt, stat_eq_ok_iff.2 ⟨place, found⟩] at other
    exact ⟨path.names, place, node, List.prefix_rfl, found, .inl other⟩
  · obtain ⟨names, above, name, mode, isReadonly, start, found, rfl⟩ :=
      grounded.exists_above clean reached absent
    rw [List.dropLast_concat, (lookup_eq_ok_iff.1 found).2] at readonly
    exact ⟨names, above, _, start, found, .inr (.inr readonly)⟩

end Barred

/-- What making a directory by a path comes to where the path never leads upwards. It is refused
before anything is made, or the directory is there and nothing is made, or it is new. -/
inductive Settles (path : Parts) (tree : FileTree) : Outcome OsError → Prop where
  | refused (e : OsError) : Settles path tree (tree, some e)
  | there {place : Place} {node : Node} (found : tree.lookup path.render = .ok (place, node))
      (directory : node.isDirectory = true) : Settles path tree (tree, none)
  | fresh {after : FileTree} {place : Place} {mode : Nat}
      (reached : after.resolve path.render = .ok place) (absent : tree.get? place = none)
      (new : after.get? place = some (.directory mode false false)) :
      Settles path tree (after, none)

theorem settles_of_makeOnce {mode : Nat} (made : tree.makeOnce path.render mode = .ok after) :
    Settles path tree (after, none) := by
  rcases makeOnce_eq_ok made with ⟨rfl, node, found, directory⟩ | ⟨place, free, rfl⟩
  · obtain ⟨place, found⟩ := stat_eq_ok_iff.1 found
    exact .there found directory
  · obtain ⟨reached, absent⟩ := vacant_eq_ok free
    exact .fresh ((Grows.insert absent _).resolve reached) absent (get?_insert_self tree place _)

section Making

variable {mode slashes : Nat} {names : List Component} {name : Component} {middle : FileTree}
  {outcome : Outcome OsError}

/-- Nothing was in a directory that is new, and nothing has come into it. -/
theorem Making.vacant_child (above : Making tree everyone ⟨slashes, names⟩ (middle, none))
    (settled : Settles ⟨slashes, names⟩ tree (middle, none)) (grounded : Grounded tree)
    (clean : (Parts.mk slashes (names ++ [name])).Clean) (plain : parent ∉ names ++ [name])
    (missing : tree.resolve (Parts.mk slashes (names ++ [name])).render = .error .notFound) :
    ∃ place, tree.get? place = none ∧
      middle.vacant (Parts.mk slashes (names ++ [name])).render = .ok place := by
  have named := clean.names name (List.mem_append_right _ List.mem_cons_self)
  rw [← child_ofList named] at missing ⊢
  have proper : Proper (String.ofList name).toList := by
    rw [String.toList_ofList]
    exact ⟨named.nonempty, named.notCurrent, fun up => plain (by simp [up]), named.noSlash⟩
  cases settled with
  | there found directory =>
    exact absurd missing (resolve_child_ne_notFound clean.above proper.named found directory)
  | @fresh _ place _ reached absent new =>
    -- The directory above was not there, so nothing was in it; and no more than directories on the
    -- way have come.
    have nothing : tree.get? (place ++ [String.ofList name]) = none := by
      by_contra some
      obtain ⟨node, found⟩ := Option.ne_none_iff_exists'.1 some
      obtain ⟨_, there, -⟩ := grounded.inside _ _ _ found
      rw [absent] at there
      cases there
    have free := above.paves.get?_child clean.above proper
      (fun up => plain (List.mem_append_left _ up))
      (resolve_child_of_new clean.above proper reached new)
    rw [nothing] at free
    exact ⟨_, nothing, vacant_child_of_new clean.above proper reached new free⟩

/-- Where the directory above is new, the one in it is not refused. -/
theorem Making.settles (making : Making tree mode path outcome) (grounded : Grounded tree)
    (clean : path.Clean) (plain : parent ∉ path.names) : Settles path tree outcome := by
  induction making with
  | made once => exact settles_of_makeOnce once
  | barred => exact .refused _
  | stopped _ _ ih =>
    cases ih clean.above fun up => plain (List.mem_append_left _ up)
    exact .refused _
  | failed missing above again ih =>
    have settled := ih clean.above fun up => plain (List.mem_append_left _ up)
    obtain ⟨place, -, free⟩ := above.vacant_child settled grounded clean plain missing
    rw [makeOnce_of_vacant free] at again
    cases again
  | completed missing above again ih =>
    have settled := ih clean.above fun up => plain (List.mem_append_left _ up)
    obtain ⟨place, nothing, free⟩ := above.vacant_child settled grounded clean plain missing
    rw [makeOnce_of_vacant free] at again
    cases again
    obtain ⟨reached, absent⟩ := vacant_eq_ok free
    exact .fresh ((Grows.insert absent _).resolve reached) nothing (get?_insert_self _ _ _)

theorem Making.barredOn (making : Making tree mode path outcome) (grounded : Grounded tree)
    (clean : path.Clean) (refused : outcome.2 ≠ none) : outcome.1.BarredOn path := by
  induction making with
  | made | completed => exact absurd rfl refused
  | barred failed final =>
    refine barredOn_of_makeOnce grounded clean failed fun missing => ?_
    rcases final with none | other
    · have lost := resolve_of_makeOnce failed missing
      rw [resolve_render clean, none] at lost
      cases lost
    · exact other missing
  | stopped _ _ ih => exact (ih clean.above refused).mono (List.prefix_append _ _)
  | @failed _ slashes names name middle e _ above again =>
    refine barredOn_of_makeOnce (above.grounded clean.above grounded) clean again fun missing => ?_
    have named := clean.names name (List.mem_append_right _ List.mem_cons_self)
    obtain ⟨node, there, directory⟩ := above.isDirectory rfl
    obtain ⟨place, found⟩ := stat_eq_ok_iff.1 there
    have lost := resolve_of_makeOnce again missing
    rw [← child_ofList named] at lost
    rw [← String.toList_ofList (l := name)] at named
    exact resolve_child_ne_notFound clean.above named found directory lost

end Making

namespace Ensuring

variable {outcome : Outcome DirectoryError}

theorem isDirectory (ensuring : Ensuring path tree outcome) (done : outcome.2 = none) :
    ∃ node, outcome.1.stat path.render = .ok node ∧ node.isDirectory = true := by
  cases ensuring with
  | made making => exact making.isDirectory rfl
  | taken | unseen | refused => cases done

theorem barredOn (ensuring : Ensuring path tree outcome) (grounded : Grounded tree)
    (clean : path.Clean) (refused : outcome.2 ≠ none) : outcome.1.BarredOn path := by
  cases ensuring with
  | taken there other =>
    obtain ⟨place, found⟩ := stat_eq_ok_iff.1 there
    exact ⟨path.names, place, _, List.prefix_rfl, found, .inl other⟩
  | @unseen e failed denied =>
    have barred : e.reason ≠ .notFound := by
      rw [denied]
      decide
    exact barredOn_of_resolve clean (resolve_of_stat failed barred) barred
  | refused making => exact making.barredOn grounded clean (Option.some_ne_none _)
  | made => exact absurd rfl refused

theorem unchanged (ensuring : Ensuring path tree outcome) (grounded : Grounded tree)
    (clean : path.Clean) (plain : parent ∉ path.names) (refused : outcome.2 ≠ none) :
    outcome.1 = tree := by
  cases ensuring with
  | taken | unseen => rfl
  | refused making =>
    cases making.settles grounded clean plain
    rfl
  | made => exact absurd rfl refused

end Ensuring

/-- What making sure of a directory does. -/
structure Ensured (path : Parts) (before : FileTree) (result : Outcome DirectoryError) : Prop where
  /-- Nothing that was there is altered. -/
  kept : before.Grows result.1
  new : ∀ place node, result.1.get? place = some node → before.get? place = none →
    node.isDirectory = true ∧ ∃ names, names ≠ [] ∧ names <+: path.names ∧
      result.1.resolve (Parts.mk path.slashes names).render = .ok place
  made : result.2 = none →
    (∃ node, result.1.stat path.render = .ok node ∧ node.isDirectory = true) ∧
      result.1.ensureDirectory path = (result.1, none)
  present : ∀ node, before.stat path.render = .ok node → node.isDirectory = true →
    result = (before, none)
  taken : ∀ node, before.stat path.render = .ok node → node.isDirectory = false →
    result = (before, some (.notDirectory path))
  /-- It is refused only for something in the way. -/
  barred : result.2 ≠ none → result.1.BarredOn path
  /-- Nor is anything left half made, unless the path leads upwards. -/
  refused : result.2 ≠ none → parent ∉ path.names → result.1 = before
  grounded : Grounded result.1

/-- Making sure of a directory makes what is missing on the way to it and nothing else. Once it is
there, nothing more is done; what is there and no directory is reported. A path that does not lead
upwards is made in full or not at all. -/
theorem missing_directories_are_made (grounded : Grounded tree) (path : String) :
    Ensured (.ofString path) tree (tree.ensureDirectory (.ofString path)) where
  kept := (ensureDirectory_paves tree _).toGrows
  new place node found absent := by
    have paved := ensureDirectory_paves tree (.ofString path)
    obtain ⟨mode, names, rfl, start, reached⟩ := paved.paved found absent
    exact ⟨rfl, names, grounded.names_ne_nil paved.toGrows (Parts.clean_ofString path).slashes
      reached absent, start, reached⟩
  made done := by
    obtain ⟨node, there, directory⟩ := (ensureDirectory_ensuring tree _).isDirectory done
    exact ⟨⟨node, there, directory⟩, ensureDirectory_of_directory there directory⟩
  present _ found directory := ensureDirectory_of_directory found directory
  taken node found other := by
    rw [ensureDirectory, found]
    exact if_neg (by simp [other])
  barred := (ensureDirectory_ensuring tree _).barredOn grounded (Parts.clean_ofString path)
  refused failed plain :=
    (ensureDirectory_ensuring tree _).unchanged grounded (Parts.clean_ofString path) plain failed
  grounded := (ensureDirectory_ensuring tree _).grounded (Parts.clean_ofString path) grounded

section Example

def filedTree : FileTree := (FileTree.bare ["work"]).plant ["work", "f"] (.file 0o644 [] false)

/-- The way leads up again, and what has been made on it stays when the file is in the way. -/
theorem detour_is_made :
    Grounded filedTree ∧
    (filedTree.ensureDirectory (.ofString "n/../f")).2 =
      some (.refused ⟨.alreadyExists, some "n/../f"⟩) ∧
    Ensured (.ofString "n/../f") filedTree (filedTree.ensureDirectory (.ofString "n/../f")) := by
  have grounded : Grounded filedTree := (grounded_bare ["work"]).plant (by decide) (by decide)
  exact ⟨grounded, by rfl, missing_directories_are_made grounded _⟩

end Example

end FileTree

end WalletSetup
