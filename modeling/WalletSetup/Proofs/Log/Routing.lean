import WalletSetup.Proofs.Log.LevelText
import WalletSetup.Proofs.Text.Cutting

/-! Which records pass. A table that holds nothing but levels judges every record, and no level text
puts anything else into it. -/

set_option autoImplicit false

namespace WalletSetup.Log

open WalletSetup.Data WalletSetup.Text

def Table.Valid (t : Table) : Prop := ∀ name ∈ t.names, ∃ s : Severity, t.get? name = some s.name

section Runs

variable {t after : Table} {text : String}

theorem ofNames_eq_ok {names : List String} {level : String}
    (made : Table.ofNames names level = .ok t) :
    isLevel level = true ∧ t = ⟨assignAll [] (names.map fun name => (name, level))⟩ := by
  unfold Table.ofNames at made
  split at made
  · next valid => exact ⟨valid, (Except.ok.inj made).symm⟩
  · cases made

theorem mem_names_of_ofNames {names : List String} {level : String}
    (made : Table.ofNames names level = .ok t) (name : String) :
    name ∈ t.names ↔ name ∈ names := by
  obtain ⟨-, rfl⟩ := ofNames_eq_ok made
  refine mem_keys_assignAll.trans ?_
  simp [keys]

theorem valid_of_ofNames {names : List String} {level : String}
    (made : Table.ofNames names level = .ok t) : t.Valid := by
  obtain ⟨valid, rfl⟩ := ofNames_eq_ok made
  obtain ⟨s, rfl⟩ := isLevel_iff.1 valid
  intro name registered
  obtain ⟨given, found⟩ := Option.isSome_iff_exists.1 (get?_isSome_iff.2 registered)
  have member : (name, given) ∈ names.map fun name => (name, s.name) :=
    (mem_assignAll (mem_of_lookup found)).resolve_left List.not_mem_nil
  obtain ⟨_, _, same⟩ := List.mem_map.1 member
  obtain ⟨rfl, rfl⟩ := Prod.mk.inj same
  exact ⟨s, found⟩

theorem exists_last {changes : List (String × Severity)} {name : String}
    (named : name ∈ keys changes) :
    ∃ before s rest, changes = before ++ (name, s) :: rest ∧ name ∉ keys rest := by
  induction changes with
  | nil => cases named
  | cons change later ih =>
    by_cases again : name ∈ keys later
    · obtain ⟨before, s, rest, rfl, last⟩ := ih again
      exact ⟨change :: before, s, rest, rfl, last⟩
    · obtain ⟨first, s⟩ := change
      obtain rfl : name = first := (List.mem_cons.1 named).resolve_right again
      exact ⟨[], s, later, rfl, again⟩

theorem Reading.valid {result : Except LevelError Request}
    (reading : Reading t text result after) (valid : t.Valid) : after.Valid := by
  have same := reading.names
  intro name registered
  rw [same] at registered
  cases reading with
  | listed | noLevel | badPart => exact valid name registered
  | @levelled s _ _ all => exact ⟨s, all.all name registered⟩
  | @changed changes _ _ _ each =>
    by_cases named : name ∈ keys changes
    · obtain ⟨before, s, rest, split, last⟩ := exists_last named
      exact ⟨s, each.named before name s rest split last⟩
    · rw [each.others name named]
      exact valid name registered

theorem applied_all (texts : List String) (valid : t.Valid) :
    (texts.foldl Table.applied t).Valid ∧ (texts.foldl Table.applied t).names = t.names := by
  induction texts generalizing t with
  | nil => exact ⟨valid, rfl⟩
  | cons text rest ih =>
    have reading := interpret_reading t text
    obtain ⟨later, names⟩ := ih (reading.valid valid)
    exact ⟨later, names.trans reading.names⟩

end Runs

section Judgement

variable {t after : Table} {subsystem : String} {s : Severity}

/-- The level that counts for a subsystem: its own, that of the main one if the subsystem is not
registered, and the level for information if the main one is not registered either. -/
inductive Governs (t : Table) (subsystem : String) : Severity → Prop where
  | own {s : Severity} (found : t.get? subsystem = some s.name) : Governs t subsystem s
  | main {s : Severity} (unknown : subsystem ∉ t.names)
      (found : t.get? mainSubsystem = some s.name) : Governs t subsystem s
  | default (unknown : subsystem ∉ t.names) (unfounded : mainSubsystem ∉ t.names) :
    Governs t subsystem .info

theorem get?_eq_none_iff : t.get? subsystem = none ↔ subsystem ∉ t.names := lookup_eq_none_iff

theorem Table.Valid.governs (valid : t.Valid) (subsystem : String) :
    ∃ s, Governs t subsystem s := by
  by_cases known : subsystem ∈ t.names
  · obtain ⟨s, found⟩ := valid subsystem known
    exact ⟨s, .own found⟩
  · by_cases main : mainSubsystem ∈ t.names
    · obtain ⟨s, found⟩ := valid mainSubsystem main
      exact ⟨s, .main known found⟩
    · exact ⟨.info, .default known main⟩

theorem Governs.levelFor {subsystem : Option String}
    (governs : Governs t (subsystem.getD mainSubsystem) s) : t.levelFor subsystem = s.name := by
  unfold Table.levelFor
  cases governs with
  | own found => simp [found]
  | main unknown found => simp [get?_eq_none_iff.2 unknown, found]
  | default unknown unfounded =>
    simp [get?_eq_none_iff.2 unknown, get?_eq_none_iff.2 unfounded, defaultLevel, Severity.name]

/-- A record passes if its number is not below that of the level that counts. -/
theorem Governs.admits? {subsystem : Option String}
    (governs : Governs t (subsystem.getD mainSubsystem) s) (number : Nat) :
    t.admits? number subsystem = some (decide (s.number ≤ number)) := by
  unfold Table.admits?
  rw [governs.levelFor, Severity.ofName?_name, Option.map_some]

theorem Governs.admits_iff {subsystem : Option String}
    (governs : Governs t (subsystem.getD mainSubsystem) s) (number : Nat) :
    t.admits? number subsystem = some true ↔ s.number ≤ number := by
  rw [governs.admits?, Option.some_inj, decide_eq_true_iff]

structure Retuned (t : Table) (name : String) (s : Severity) (after : Table) : Prop where
  names : after.names = t.names
  level : after.get? name = some s.name
  others : ∀ other, other ≠ name → after.get? other = t.get? other

theorem set?_retuned {name : String} (registered : name ∈ t.names) (s : Severity) :
    ∃ after, t.set? name s.name = some after ∧ Retuned t name s after := by
  obtain ⟨old, found⟩ := Option.isSome_iff_exists.1 (get?_isSome_iff.2 registered)
  refine ⟨t.set name s.name, ?_, names_set .., ?_, ?_⟩
  · unfold Table.set?
    rw [if_pos (contains_iff.2 registered)]
  · simp [get?_set, found]
  · intro other different
    simp [get?_set, different]

/-- A text of one part is one change. -/
theorem Gives.retuned {text name : String} (gives : Gives t text.toList (name, s))
    (whole : ',' ∉ text.toList) : Retuned t name s (t.applied text) := by
  have marked : '=' ∈ text.toList := by simp [gives.cut]
  have other : text ≠ showWord := by
    rintro rfl
    revert marked
    decide
  have changed : t.applied text = t.setEach ([(name, s)].map written) := by
    unfold Table.applied interpret
    simp [other, marked, splitOn_of_not_mem whole, gives.read, Except.map, Table.following]
  have each : Changed t [(name, s)] (t.setEach ([(name, s)].map written)) :=
    setEach_changed (List.forall_mem_singleton.2 gives.registered)
  rw [changed]
  refine ⟨each.names, each.named [] name s [] rfl List.not_mem_nil, fun other different => ?_⟩
  exact each.others other (by simpa [keys] using different)

theorem Retuned.governs {name : String} (retuned : Retuned t name s after)
    (notMain : name ≠ mainSubsystem) (different : subsystem ≠ name) {level : Severity}
    (governs : Governs t subsystem level) : Governs after subsystem level := by
  cases governs with
  | own found => exact .own ((retuned.others subsystem different).trans found)
  | main unknown found =>
    exact .main (retuned.names ▸ unknown) ((retuned.others _ notMain.symm).trans found)
  | default unknown unfounded => exact .default (retuned.names ▸ unknown) (retuned.names ▸ unfounded)

/-- No subsystem has a higher level than before. -/
structure Lowered (t after : Table) : Prop where
  names : after.names = t.names
  levels : ∀ (name : String) (s : Severity), t.get? name = some s.name →
    ∃ lower : Severity, after.get? name = some lower.name ∧ lower.number ≤ s.number

theorem Severity.name_injective {a b : Severity} (same : a.name = b.name) : a = b := by
  have read := a.ofName?_name
  rw [same, b.ofName?_name] at read
  exact (Option.some.inj read).symm

theorem Retuned.lowered {name : String} {old : Severity} (retuned : Retuned t name s after)
    (found : t.get? name = some old.name) (lower : s.number ≤ old.number) : Lowered t after where
  names := retuned.names
  levels other given registered := by
    by_cases same : other = name
    · subst same
      rw [found, Option.some_inj] at registered
      obtain rfl := Severity.name_injective registered
      exact ⟨s, retuned.level, lower⟩
    · exact ⟨given, (retuned.others other same).trans registered, Nat.le_refl _⟩

theorem Lowered.governs (lowered : Lowered t after) (governs : Governs t subsystem s) :
    ∃ lower, Governs after subsystem lower ∧ lower.number ≤ s.number := by
  cases governs with
  | own found =>
    obtain ⟨lower, now, le⟩ := lowered.levels _ _ found
    exact ⟨lower, .own now, le⟩
  | main unknown found =>
    obtain ⟨lower, now, le⟩ := lowered.levels _ _ found
    exact ⟨lower, .main (lowered.names ▸ unknown) now, le⟩
  | default unknown unfounded =>
    exact ⟨.info, .default (lowered.names ▸ unknown) (lowered.names ▸ unfounded), Nat.le_refl _⟩

end Judgement

/-- A table of any names, after any level texts, good or bad. It holds nothing but levels and judges
every record by the level that counts. A change of a subsystem other than the main one concerns its
own records only, and where levels are lowered, no record is lost. -/
theorem every_record_is_judged {names : List String} {level : String} {start : Table}
    (made : Table.ofNames names level = .ok start) (texts : List String) :
    let t := texts.foldl Table.applied start
    (∀ name, name ∈ t.names ↔ name ∈ names) ∧ t.Valid ∧
      (∀ subsystem : Option String, (∃ s, Governs t (subsystem.getD mainSubsystem) s) ∧
        ∀ s, Governs t (subsystem.getD mainSubsystem) s →
          ∀ number, t.admits? number subsystem = some (decide (s.number ≤ number))) ∧
      (∀ name ∈ t.names, ∀ s : Severity,
        (∃ after, t.set? name s.name = some after ∧ Retuned t name s after) ∧
        ∀ text : String, ',' ∉ text.toList → Gives t text.toList (name, s) →
          Retuned t name s (t.applied text)) ∧
      (∀ name s after, Retuned t name s after →
        (name ≠ mainSubsystem → ∀ subsystem : Option String, subsystem.getD mainSubsystem ≠ name →
          ∀ number, after.admits? number subsystem = t.admits? number subsystem) ∧
        ∀ old : Severity, t.get? name = some old.name → s.number ≤ old.number →
          Lowered t after) ∧
      ∀ after, Lowered t after → ∀ subsystem number,
        t.admits? number subsystem = some true → after.admits? number subsystem = some true := by
  intro t
  obtain ⟨valid, same⟩ := applied_all texts (valid_of_ofNames made)
  refine ⟨?_, valid, ?_, ?_, ?_, ?_⟩
  · intro name
    rw [same, mem_names_of_ofNames made]
  · intro subsystem
    exact ⟨valid.governs _, fun s governs number => governs.admits? number⟩
  · intro name registered s
    exact ⟨set?_retuned registered s, fun text whole gives => gives.retuned whole⟩
  · intro name s after retuned
    refine ⟨fun notMain subsystem different number => ?_, fun old => retuned.lowered⟩
    obtain ⟨level, governs⟩ := valid.governs (subsystem.getD mainSubsystem)
    have later := retuned.governs notMain different governs
    rw [governs.admits?, later.admits?]
  · intro after lowered subsystem number passes
    obtain ⟨level, governs⟩ := valid.governs (subsystem.getD mainSubsystem)
    obtain ⟨lower, later, le⟩ := lowered.governs governs
    rw [governs.admits_iff] at passes
    exact (later.admits_iff number).2 (Nat.le_trans le passes)

set_option maxRecDepth 20000 in
/-- A table of two names, after a good text, a bad one and another good one. -/
theorem stray_records_are_judged :
    Table.ofNames ["db", "main"] "warn" = .ok ⟨[("db", "warn"), ("main", "warn")]⟩ ∧
      let t := ["db=trace", "main=info,db=loud", "main=error"].foldl Table.applied
        ⟨[("db", "warn"), ("main", "warn")]⟩
      t.Valid ∧ t.admits? 5 (some "db") = some true ∧ t.admits? 35 none = some false ∧
        t.admits? 40 (some "stray") = some true := by
  have made : Table.ofNames ["db", "main"] "warn" =
    .ok ⟨[("db", "warn"), ("main", "warn")]⟩ := by decide +kernel
  obtain ⟨-, valid, judged, -⟩ :=
    every_record_is_judged made ["db=trace", "main=info,db=loud", "main=error"]
  refine ⟨made, valid, ?_, ?_, ?_⟩
  · exact (judged (some "db")).2 .trace (.own (by decide +kernel)) 5
  · exact (judged none).2 .error (.own (by decide +kernel)) 35
  · exact (judged (some "stray")).2 .error (.main (by decide +kernel) (by decide +kernel)) 40

end WalletSetup.Log
