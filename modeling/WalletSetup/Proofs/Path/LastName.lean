import WalletSetup.FileTree.Basic
import WalletSetup.Path.Template
import WalletSetup.Proofs.Data.Results
import WalletSetup.Proofs.Text.Cutting

/-! The last name of a path. It stays the last one when the path is written, read, normalised or
filled in as a template, and the place that the path leads to has it too. -/

set_option autoImplicit false

namespace WalletSetup.Path

open WalletSetup.Text

theorem components_append (before after : List Char) :
    components (before ++ '/' :: after) = components before ++ components after := by
  unfold components
  rw [splitOn_append, List.filter_append]

/-- A name that can stand in a path, be it the one that leads upwards. -/
structure Named (name : Component) : Prop where
  nonempty : name ≠ []
  notCurrent : name ≠ current
  noSlash : '/' ∉ name

theorem Named.components {name : Component} (named : Named name) :
    Path.components name = [name] := by
  rw [Path.components, splitOn_of_not_mem named.noSlash]
  simp [named.nonempty, named.notCurrent]

structure Proper (name : Component) : Prop where
  nonempty : name ≠ []
  notCurrent : name ≠ current
  notParent : name ≠ parent
  noSlash : '/' ∉ name

theorem Proper.named {name : Component} (proper : Proper name) : Named name :=
  ⟨proper.nonempty, proper.notCurrent, proper.noSlash⟩

def EndsIn (name : Component) (cs : List Char) : Prop :=
  cs = name ∨ ∃ before, cs = before ++ '/' :: name

theorem EndsIn.components {name : Component} {cs : List Char} (proper : Proper name)
    (ends : EndsIn name cs) : ∃ above, components cs = above ++ [name] := by
  rcases ends with rfl | ⟨before, rfl⟩
  · exact ⟨[], proper.named.components⟩
  · exact ⟨Path.components before, by rw [components_append, proper.named.components]⟩

namespace Parts

variable {p : Parts} {name : Component} {above : List Component}

theorem toChars_endsIn (names : p.names = above ++ [name]) (proper : Proper name) :
    EndsIn name p.toChars := by
  have shown : EndsIn name (List.replicate p.slashes '/' ++ joinWith ['/'] p.names) := by
    rw [names]
    cases above with
    | nil =>
      cases p.slashes with
      | zero => exact .inl rfl
      | succ n => exact .inr ⟨List.replicate n '/', by simp [List.replicate_succ', joinWith]⟩
    | cons first others =>
      rw [joinWith_append_singleton _ _ _ (by simp)]
      exact .inr ⟨List.replicate p.slashes '/' ++ joinWith ['/'] (first :: others), by simp⟩
  unfold toChars
  split
  · next empty =>
    rw [empty] at shown
    rcases shown with same | ⟨before, same⟩
    · exact absurd same.symm proper.nonempty
    · simp at same
  · exact shown

theorem normal_names (names : p.names = above ++ [name]) (proper : Proper name) :
    ∃ above, p.normal.names = above ++ [name] := by
  refine ⟨(above.foldl (pushName (p.slashes ≠ 0)) []).reverse, ?_⟩
  simp [normal, names, pushName, proper.notParent]

theorem append_names (q : Parts) (names : p.names = above ++ [name]) :
    ∃ above, (q.append p).names = above ++ [name] := by
  unfold append
  split
  · exact ⟨q.names ++ above, by simp [names]⟩
  · exact ⟨above, names⟩

end Parts

namespace Template

def isBrace (c : Char) : Bool := c = '\x7b' || c = '\x7d'

/-- Without a brace, reading gets back to plain text from nowhere else. -/
theorem Stage.step_eq_plain {stage : Stage} {c : Char} {piece : Option Piece}
    (noBrace : isBrace c = false) (stepped : stage.step c = .ok (.plain, piece)) :
    stage = .plain ∧ piece = some (.literal c) := by
  have opening : c ≠ '\x7b' := by rintro rfl; exact absurd noBrace (by decide)
  have closing : c ≠ '\x7d' := by rintro rfl; exact absurd noBrace (by decide)
  cases stage with
  | plain => simpa [step, opening, closing, eq_comm] using stepped
  | opened =>
    simp only [step, nameStep] at stepped
    split at stepped <;> simp_all
  | closed => simp [step] at stepped
  | name read =>
    simp only [step, nameStep] at stepped
    split at stepped <;> simp_all
  | index read =>
    simp only [step] at stepped
    split at stepped <;> simp at stepped
  | conversion read => simp [step] at stepped
  | converted read conversion =>
    unfold step at stepped
    split at stepped <;> simp_all
  | layout read conversion taken depth =>
    unfold step at stepped
    split at stepped <;> simp_all

/-- A text without a brace can only end a reading that stands in plain text already. -/
theorem pieces_plain {stage : Stage} {cs : List Char} {ps : List Piece}
    (noBrace : ∀ c ∈ cs, isBrace c = false) (read : pieces stage cs = (ps, none)) :
    stage = .plain ∧ ps = cs.map .literal := by
  -- From the end: reading has to end in the plain stage, and no other character leads there.
  induction cs generalizing stage ps with
  | nil => cases stage <;> simp_all [pieces, Stage.incomplete?]
  | cons c rest ih =>
    unfold pieces at read
    split at read
    · cases read
    · next next piece stepped =>
      rcases more : pieces next rest with ⟨others, flaw⟩
      rw [more] at read
      cases read
      obtain ⟨rfl, rfl⟩ := ih (fun c member => noBrace c (List.mem_cons_of_mem _ member)) more
      obtain ⟨rfl, rfl⟩ := Stage.step_eq_plain (noBrace c List.mem_cons_self) stepped
      exact ⟨rfl, rfl⟩

theorem pieces_append {stage : Stage} {before cs : List Char} {ps : List Piece}
    (noBrace : ∀ c ∈ cs, isBrace c = false) (read : pieces stage (before ++ cs) = (ps, none)) :
    ∃ first, ps = first ++ cs.map .literal := by
  induction before generalizing stage ps with
  | nil => exact ⟨[], (pieces_plain noBrace read).2⟩
  | cons c rest ih =>
    rw [List.cons_append, pieces] at read
    split at read
    · cases read
    · next next piece stepped =>
      rcases more : pieces next (rest ++ cs) with ⟨others, flaw⟩
      rw [more] at read
      cases read
      obtain ⟨first, rfl⟩ := ih more
      exact ⟨piece.toList ++ first, by simp⟩

theorem mapM_literal (stamp : Stamp) (nested : List Char → Except Flaw (List Char))
    (cs : List Char) :
    (cs.map Piece.literal).mapM (Piece.chars stamp nested) = .ok (cs.map ([·])) := by
  induction cs with
  | nil => rfl
  | cons c rest ih => simp [List.mapM_cons, ih, Piece.chars, bind, Except.bind, pure, Except.pure]

/-- What was expanded had no flaw, and its pieces were filled in one by one. -/
theorem expand_eq_ok {stamp : Stamp} {cs filled : List Char}
    (expanded : expand stamp cs = .ok filled) : ∃ ps parts, pieces .plain cs = (ps, none) ∧
      ps.mapM (Piece.chars stamp (expandLayout stamp 1)) = .ok parts ∧ filled = parts.flatten := by
  unfold expand at expanded
  split at expanded
  · cases expanded
  · next ps read =>
    obtain ⟨parts, mapped, done⟩ := Except.bind_eq_ok expanded
    cases done
    exact ⟨ps, parts, read, mapped, rfl⟩

theorem expand_endsIn {name : Component} {stamp : Stamp} {cs filled : List Char}
    (proper : Proper name) (noBrace : ∀ c ∈ name, isBrace c = false) (ends : EndsIn name cs)
    (expanded : expand stamp cs = .ok filled) : EndsIn name filled := by
  obtain ⟨ps, parts, read, mapped, rfl⟩ := expand_eq_ok expanded
  rcases ends with rfl | ⟨before, rfl⟩
  · obtain ⟨-, rfl⟩ := pieces_plain noBrace read
    rw [mapM_literal] at mapped
    cases mapped
    exact .inl (by rw [← List.flatMap_def, List.flatMap_singleton'])
  · have slashed : ∀ c ∈ '/' :: name, isBrace c = false := by
      simpa using ⟨by decide, noBrace⟩
    obtain ⟨first, rfl⟩ := pieces_append slashed read
    rw [List.mapM_append, mapM_literal] at mapped
    obtain ⟨filled, -, done⟩ := Except.bind_eq_ok mapped
    cases done
    refine .inr ⟨filled.flatten, ?_⟩
    rw [List.flatten_append, ← List.flatMap_def, List.flatMap_singleton']

end Template

end WalletSetup.Path

namespace WalletSetup.FileTree

open WalletSetup.Path

theorem step_eq_ok {tree : FileTree} {place reached : Place} {name : Component}
    (notParent : name ≠ Path.parent) (stepped : tree.step place name = .ok reached) :
    reached = place ++ [String.ofList name] ∧
      ∃ mode readonly, tree.get? place = some (.directory mode false readonly) := by
  unfold step at stepped
  split at stepped
  · cases stepped
  · next node found =>
    rw [if_neg notParent] at stepped
    cases node with
    | directory mode denied readonly =>
      cases denied with
      | true => cases stepped
      | false =>
        cases stepped
        exact ⟨rfl, mode, readonly, found⟩
    | file => cases stepped
    | log => cases stepped

/-- A place is called by the last name of the path that leads there. -/
theorem resolve_getLast? {tree : FileTree} {p : Parts} {place : Place} {name : Component}
    {above : List Component} (names : p.names = above ++ [name]) (proper : Proper name)
    (reached : tree.resolve p.render = .ok place) :
    place.getLast? = some (String.ofList name) := by
  have ends : EndsIn name p.toChars := p.toChars_endsIn names proper
  obtain ⟨before, split⟩ := ends.components proper
  unfold resolve at reached
  split at reached
  · cases reached
  · rw [Parts.ofString, Parts.render, String.toList_ofList, Parts.ofChars] at reached
    dsimp only at reached
    rw [split, List.foldlM_append] at reached
    obtain ⟨middle, -, stepped⟩ := Except.bind_eq_ok reached
    simp only [List.foldlM_cons, List.foldlM_nil] at stepped
    obtain ⟨last, stepped, done⟩ := Except.bind_eq_ok stepped
    cases done
    obtain ⟨rfl, -⟩ := step_eq_ok proper.notParent stepped
    simp

end WalletSetup.FileTree
