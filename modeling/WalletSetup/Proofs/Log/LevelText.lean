import Mathlib.Data.List.Forall2
import WalletSetup.Log.Level
import WalletSetup.Proofs.Data.Mapping
import WalletSetup.Proofs.Data.Results

/-! Level texts and their grammar. A text is read as a whole before any level changes. One bad part
spoils it, and the first bad part is the one that is reported. -/

set_option autoImplicit false

namespace WalletSetup.Log

open WalletSetup.Data WalletSetup.Text

theorem isLevel_iff {name : String} : isLevel name = true ↔ ∃ s : Severity, s.name = name := by
  unfold isLevel
  rw [Option.isSome_iff_exists]
  constructor
  · rintro ⟨s, found⟩
    have same := List.find?_some found
    exact ⟨s, of_decide_eq_true same⟩
  · rintro ⟨s, rfl⟩
    exact ⟨s, s.ofName?_name⟩

theorem not_isLevel_iff {name : String} : ¬isLevel name = true ↔ ∀ s : Severity, s.name ≠ name := by
  rw [isLevel_iff, not_exists]

section Parts

variable {t : Table} {part : List Char}

/-- A part of a text that gives a registered subsystem a level: the name, the first `=` and the
level. -/
structure Gives (t : Table) (part : List Char) (change : String × Severity) : Prop where
  cut : part = change.1.toList ++ '=' :: change.2.name.toList
  first : '=' ∉ change.1.toList
  registered : change.1 ∈ t.names

/-- What is wrong with a part that gives no level. -/
inductive Flawed (t : Table) (part : List Char) : LevelError → Prop where
  | noPair (uncut : '=' ∉ part) : Flawed t part (.invalidPair (String.ofList part))
  | noSubsystem {name : String} {rest : List Char} (cut : part = name.toList ++ '=' :: rest)
      (first : '=' ∉ name.toList) (unknown : name ∉ t.names) :
    Flawed t part (.unknownSubsystem name t.sortedNames)
  | noLevel {name level : String} (cut : part = name.toList ++ '=' :: level.toList)
      (first : '=' ∉ name.toList) (registered : name ∈ t.names)
      (wrong : ∀ s : Severity, s.name ≠ level) : Flawed t part (.invalidLevel level)

def written (change : String × Severity) : String × String := (change.1, change.2.name)

theorem contains_iff {name : String} : t.contains name = true ↔ name ∈ t.names :=
  List.contains_iff_mem

theorem readPair_cut {name level : String} (first : '=' ∉ name.toList) :
    readPair t (name.toList ++ '=' :: level.toList) =
      if name ∉ t.names then .error (.unknownSubsystem name t.sortedNames)
      else if isLevel level then .ok (name, level) else .error (.invalidLevel level) := by
  have cut : cutFirst '=' (name.toList ++ '=' :: level.toList) = some (name.toList, level.toList) :=
    cutFirst_eq_some_iff.2 ⟨rfl, first⟩
  unfold readPair
  rw [cut]
  dsimp only
  rw [String.ofList_toList, String.ofList_toList]
  by_cases known : name ∈ t.names
  · cases valid : isLevel level <;> simp [contains_iff.2 known, known]
  · have unknown : t.contains name = false := by rwa [Bool.eq_false_iff, Ne, contains_iff]
    simp [unknown, known]

/-- A part gives a level or has a flaw, and is read accordingly. -/
theorem readPair_cases (t : Table) (part : List Char) :
    (∃ change, readPair t part = .ok (written change) ∧ Gives t part change) ∨
      ∃ e, readPair t part = .error e ∧ Flawed t part e := by
  cases cut : cutFirst '=' part with
  | none =>
    refine .inr ⟨_, ?_, .noPair (cutFirst_eq_none_iff.1 cut)⟩
    unfold readPair
    rw [cut]
  | some halves =>
    obtain ⟨before, after⟩ := halves
    obtain ⟨rfl, first⟩ := cutFirst_eq_some_iff.1 cut
    rw [← String.toList_ofList (l := before)] at first ⊢
    rw [← String.toList_ofList (l := after), readPair_cut first]
    split
    · next unknown => exact .inr ⟨_, rfl, .noSubsystem rfl first unknown⟩
    · next known =>
      rw [Decidable.not_not] at known
      split
      · next valid =>
        obtain ⟨s, same⟩ := isLevel_iff.1 valid
        rw [← same]
        exact .inl ⟨(_, s), rfl, rfl, first, known⟩
      · next wrong => exact .inr ⟨_, rfl, .noLevel rfl first known (not_isLevel_iff.1 wrong)⟩

theorem Gives.read {change : String × Severity} (gives : Gives t part change) :
    readPair t part = .ok (written change) := by
  rw [gives.cut, readPair_cut gives.first, if_neg (not_not_intro gives.registered),
    if_pos (isLevel_iff.2 ⟨_, rfl⟩), written]

theorem Flawed.read {e : LevelError} (flaw : Flawed t part e) : readPair t part = .error e := by
  cases flaw with
  | noPair uncut =>
    unfold readPair
    rw [cutFirst_eq_none_iff.2 uncut]
  | @noSubsystem name rest cut first unknown =>
    rw [← String.toList_ofList (l := rest)] at cut
    rw [cut, readPair_cut first, if_pos unknown]
  | noLevel cut first registered wrong =>
    rw [cut, readPair_cut first, if_neg (not_not_intro registered),
      if_neg (not_isLevel_iff.2 wrong)]

theorem gives_of_read {pair : String × String} (read : readPair t part = .ok pair) :
    ∃ change, pair = written change ∧ Gives t part change := by
  rcases readPair_cases t part with ⟨change, same, gives⟩ | ⟨e, failed, -⟩
  · rw [read] at same
    exact ⟨change, Except.ok.inj same, gives⟩
  · rw [read] at failed
    cases failed

theorem flawed_of_read {e : LevelError} (failed : readPair t part = .error e) :
    Flawed t part e := by
  rcases readPair_cases t part with ⟨change, read, -⟩ | ⟨other, same, flaw⟩
  · rw [failed] at read
    cases read
  · rw [failed] at same
    cases same
    exact flaw

theorem Gives.not_flawed {change : String × Severity} {e : LevelError}
    (gives : Gives t part change) : ¬Flawed t part e := by
  intro flaw
  have read := gives.read
  rw [flaw.read] at read
  cases read

end Parts

section Changes

variable {t : Table} {name : String}

@[simp] theorem names_set (t : Table) (name level : String) :
    (t.set name level).names = t.names := by
  simp [Table.set, Table.names]

@[simp] theorem names_setAll (t : Table) (level : String) : (t.setAll level).names = t.names := by
  simp [Table.setAll, Table.names]

@[simp] theorem names_setEach (t : Table) (changes : List (String × String)) :
    (t.setEach changes).names = t.names := by
  induction changes generalizing t with
  | nil => rfl
  | cons change rest ih => exact (ih _).trans (names_set t _ _)

theorem get?_set (t : Table) (name level other : String) : (t.set name level).get? other =
    (t.get? other).map fun old => if other = name then level else old :=
  lookup_map_values t.levels (fun n l => if n = name then level else l) other

theorem get?_setAll (t : Table) (level name : String) :
    (t.setAll level).get? name = (t.get? name).map fun _ => level :=
  lookup_map_value t.levels level name

/-- The last of several changes counts. -/
theorem get?_setEach (t : Table) (changes : List (String × String)) (name : String) :
    (t.setEach changes).get? name =
      (t.get? name).map fun old => (changes.reverse.lookup name).getD old := by
  induction changes generalizing t with
  | nil => exact Option.map_id'.symm
  | cons change rest ih =>
    obtain ⟨first, level⟩ := change
    have later : (t.setEach ((first, level) :: rest)).get? name = _ := ih (t.set first level)
    rw [later, get?_set, Option.map_map, List.reverse_cons, List.lookup_append]
    congr 1
    funext old
    cases rest.reverse.lookup name with
    | some last => rfl
    | none =>
      by_cases same : name = first
      · simp [same]
      · simp [List.lookup_cons, beq_false_of_ne same, same]

theorem get?_isSome_iff : (t.get? name).isSome ↔ name ∈ t.names := isSome_lookup_iff

structure Levelled (t : Table) (s : Severity) (after : Table) : Prop where
  names : after.names = t.names
  all : ∀ name ∈ t.names, after.get? name = some s.name

/-- The table after some changes: each subsystem that they name has the level of the last change
that names it, and each other one keeps its level. -/
structure Changed (t : Table) (changes : List (String × Severity)) (after : Table) : Prop where
  names : after.names = t.names
  named : ∀ before name s rest, changes = before ++ (name, s) :: rest → name ∉ keys rest →
    after.get? name = some s.name
  others : ∀ name, name ∉ keys changes → after.get? name = t.get? name

theorem setAll_levelled (t : Table) (s : Severity) : Levelled t s (t.setAll s.name) where
  names := names_setAll t _
  all name registered := by
    obtain ⟨old, found⟩ := Option.isSome_iff_exists.1 (get?_isSome_iff.2 registered)
    rw [get?_setAll, found, Option.map_some]

theorem setEach_changed {changes : List (String × Severity)}
    (registered : ∀ change ∈ changes, change.1 ∈ t.names) :
    Changed t changes (t.setEach (changes.map written)) where
  names := names_setEach t _
  named before name s rest split last := by
    have known : name ∈ t.names := registered (name, s) (by simp [split])
    obtain ⟨old, found⟩ := Option.isSome_iff_exists.1 (get?_isSome_iff.2 known)
    have unnamed : (rest.map written).reverse.lookup name = none := by
      rw [lookup_eq_none_iff]
      simpa [keys, written] using last
    rw [get?_setEach, found, split, List.map_append, List.map_cons, List.reverse_append,
      List.reverse_cons, List.lookup_append, List.lookup_append, unnamed]
    simp [written]
  others name unnamed := by
    have absent : (changes.map written).reverse.lookup name = none := by
      rw [lookup_eq_none_iff]
      simpa [keys, written] using unnamed
    rw [get?_setEach, absent]
    exact Option.map_id'

end Changes

section Texts

variable {t : Table} {text : String}

theorem gives_of_mem {parts : List (List Char)} {changes : List (String × Severity)}
    (good : List.Forall₂ (Gives t) parts changes) :
    (∀ part ∈ parts, ∃ change, Gives t part change) ∧ ∀ change ∈ changes, change.1 ∈ t.names := by
  induction good with
  | nil => exact ⟨nofun, nofun⟩
  | @cons part change _ _ gives _ ih =>
    exact ⟨List.forall_mem_cons.2 ⟨⟨change, gives⟩, ih.1⟩,
      List.forall_mem_cons.2 ⟨gives.registered, ih.2⟩⟩

/-- The texts that will do. -/
inductive Grammar (t : Table) : String → Prop where
  | list : Grammar t showWord
  | level (s : Severity) : Grammar t s.name
  | changes {text : String} (marked : ',' ∈ text.toList ∨ '=' ∈ text.toList)
      (good : ∀ part ∈ splitOn ',' text.toList, ∃ change, Gives t part change) : Grammar t text

def Table.following (t : Table) : Except LevelError Request → Table
  | .ok (.change after) => after
  | .ok (.list _) | .error _ => t

def Table.applied (t : Table) (text : String) : Table := t.following (interpret t text)

/-- What becomes of a text, and of the table. -/
inductive Reading (t : Table) (text : String) : Except LevelError Request → Table → Prop where
  | listed (asked : text = showWord) : Reading t text (.ok (.list t.sortedNames)) t
  | levelled {s : Severity} {after : Table} (named : text = s.name) (all : Levelled t s after) :
    Reading t text (.ok (.change after)) after
  | changed {changes : List (String × Severity)} {after : Table}
      (marked : ',' ∈ text.toList ∨ '=' ∈ text.toList)
      (good : List.Forall₂ (Gives t) (splitOn ',' text.toList) changes)
      (each : Changed t changes after) : Reading t text (.ok (.change after)) after
  | noLevel (unmarked : ',' ∉ text.toList ∧ '=' ∉ text.toList) (other : text ≠ showWord)
      (wrong : ∀ s : Severity, s.name ≠ text) : Reading t text (.error (.invalidLevel text)) t
  | badPart {before after : List (List Char)} {bad : List Char} {e : LevelError}
      (marked : ',' ∈ text.toList ∨ '=' ∈ text.toList)
      (parts : splitOn ',' text.toList = before ++ bad :: after)
      (good : ∀ part ∈ before, ∃ change, Gives t part change) (flaw : Flawed t bad e) :
    Reading t text (.error e) t

theorem readPairs_eq_ok {parts : List (List Char)} {results : List (String × String)}
    (read : parts.mapM (readPair t) = .ok results) :
    ∃ changes, results = changes.map written ∧ List.Forall₂ (Gives t) parts changes := by
  rw [Except.mapM_eq_ok_iff] at read
  induction parts generalizing results with
  | nil =>
    obtain rfl := List.map_eq_nil_iff.1 read.symm
    exact ⟨[], rfl, .nil⟩
  | cons part rest ih =>
    obtain ⟨pair, others, rfl, first, later⟩ := List.map_eq_cons_iff.1 read.symm
    obtain ⟨change, rfl, gives⟩ := gives_of_read first.symm
    obtain ⟨changes, rfl, more⟩ := ih later.symm
    exact ⟨change :: changes, rfl, .cons gives more⟩

theorem readPairs_eq_error {parts : List (List Char)} {e : LevelError}
    (failed : parts.mapM (readPair t) = .error e) :
    ∃ before bad after, parts = before ++ bad :: after ∧
      (∀ part ∈ before, ∃ change, Gives t part change) ∧ Flawed t bad e := by
  obtain ⟨before, bad, after, split, good, flaw⟩ := Except.mapM_eq_error failed
  refine ⟨before, bad, after, split, fun part member => ?_, flawed_of_read flaw⟩
  obtain ⟨pair, read⟩ := good part member
  obtain ⟨change, -, gives⟩ := gives_of_read read
  exact ⟨change, gives⟩

theorem interpret_reading (t : Table) (text : String) :
    Reading t text (interpret t text) (t.applied text) := by
  unfold Table.applied interpret
  dsimp only
  split
  · next asked => exact .listed asked
  · next other =>
    split
    · next unmarked =>
      split
      · next valid =>
        obtain ⟨s, rfl⟩ := isLevel_iff.1 valid
        exact .levelled rfl (setAll_levelled t s)
      · next wrong => exact .noLevel unmarked other (not_isLevel_iff.1 wrong)
    · next marked =>
      rw [not_and_or, Decidable.not_not, Decidable.not_not] at marked
      cases read : (splitOn ',' text.toList).mapM (readPair t) with
      | error e =>
        obtain ⟨before, bad, after, parts, good, flaw⟩ := readPairs_eq_error read
        exact .badPart marked parts good flaw
      | ok results =>
        obtain ⟨changes, rfl, good⟩ := readPairs_eq_ok read
        exact .changed marked good (setEach_changed (gives_of_mem good).2)

theorem Severity.name_unmarked (s : Severity) : ',' ∉ s.name.toList ∧ '=' ∉ s.name.toList := by
  cases s <;> exact ⟨by decide, by decide⟩

theorem Grammar.not_error {e : LevelError} {after : Table} (good : Grammar t text) :
    ¬Reading t text (.error e) after := by
  intro reading
  cases reading with
  | noLevel unmarked other wrong =>
    cases good with
    | list => exact other rfl
    | level s => exact wrong s rfl
    | changes marked _ => exact marked.elim unmarked.1 unmarked.2
  | @badPart _ _ bad _ marked parts _ flaw =>
    cases good with
    | list => revert marked; decide
    | level s => exact marked.elim s.name_unmarked.1 s.name_unmarked.2
    | changes _ good =>
      obtain ⟨change, gives⟩ := good bad (by simp [parts])
      exact gives.not_flawed flaw

theorem interpret_succeeds_iff : (∃ request, interpret t text = .ok request) ↔ Grammar t text := by
  have reading := interpret_reading t text
  generalize t.applied text = after at reading
  constructor
  · rintro ⟨request, done⟩
    rw [done] at reading
    cases reading with
    | listed asked => exact asked ▸ .list
    | @levelled s _ named _ => exact named ▸ .level s
    | changed marked good _ => exact .changes marked (gives_of_mem good).1
  · intro good
    cases done : interpret t text with
    | ok request => exact ⟨request, rfl⟩
    | error e =>
      rw [done] at reading
      exact absurd reading good.not_error

theorem Reading.names {result : Except LevelError Request} {after : Table}
    (reading : Reading t text result after) : after.names = t.names := by
  cases reading with
  | listed | noLevel | badPart => rfl
  | levelled _ all => exact all.names
  | changed _ _ each => exact each.names

end Texts

end WalletSetup.Log
