import WalletSetup.Proofs.Data.Results
import WalletSetup.Settings.Basic

/-! What breaks off the building of settings before anything is reported: a default that needs a
home directory where there is none, and a time limit that no span has. -/

set_option autoImplicit false

namespace WalletSetup

open WalletSetup.Data WalletSetup.Settings

namespace Settings

def homeFields : List Field := [.configFile, .appDataDir, .logDir, .rpcCert, .rpcKey, .dataDir]

theorem defaultOf?_eq_none_iff {base : Option Path.Parts} {f : Field} :
    defaultOf? base f = none ↔ base = none ∧ f ∈ homeFields := by
  cases f <;> simp [defaultOf?, homeFields]

theorem whole_ne_overflow {α : Type} {result : Except ValueFlaw α}
    {error : Time.Duration.Overflow} : whole result ≠ .error (.overflow error) := by
  cases result <;> simp [whole, Refusal.whole]

theorem coerce_overflow {k : Kind} {value : Value} {error : Time.Duration.Overflow}
    (overflows : k.coerce value = .error (.overflow error)) : k = .span := by
  cases k with
  | span => rfl
  | texts =>
    cases value with
    | list items =>
      obtain ⟨flaws, -, same⟩ := Except.mapError_eq_error.1 overflows
      cases same
    | _ => cases overflows
  | _ => exact absurd overflows whole_ne_overflow

theorem refine_ne_overflow (f : Field) (value : f.kind.Carrier) (error : Time.Duration.Overflow) :
    f.refine value ≠ .error (.overflow error) := by
  cases f with
  | profile => exact whole_ne_overflow
  | _ => nofun

theorem read_overflow {f : Field} {value : Value} {error : Time.Duration.Overflow}
    (overflows : f.read value = .error (.overflow error)) : f = .dbTimeout := by
  rcases Except.bind_eq_error overflows with coerced | ⟨carried, -, refined⟩
  · have span := coerce_overflow coerced
    cases f with
    | dbTimeout => rfl
    | _ => cases span
  · exact absurd refined (refine_ne_overflow f carried error)

/-- A default is needed that there is none for, or the time limit goes beyond all spans. -/
def Interrupted (base : Option Path.Parts) (given : Entries) : Prop :=
  (base = none ∧ ∃ f ∈ homeFields, given.lookup f.option = none) ∨
    ∃ value error, given.lookup Field.dbTimeout.option = some value ∧
      Field.dbTimeout.read value = .error (.overflow error)

theorem fieldValue_eq_noHome_iff {base : Option Path.Parts} {given : Entries} {f : Field} :
    fieldValue base given f = .error .noHome ↔
      given.lookup f.option = none ∧ base = none ∧ f ∈ homeFields := by
  rw [← defaultOf?_eq_none_iff]
  unfold fieldValue
  cases found : given.lookup f.option with
  | none => cases defaultOf? base f <;> simp
  | some value =>
    cases read : f.read value with
    | ok carried => simp [read]
    | error refusal => cases refusal <;> simp [read]

theorem fieldValue_eq_overflow_iff {base : Option Path.Parts} {given : Entries} {f : Field}
    {error : Time.Duration.Overflow} : fieldValue base given f = .error (.overflow error) ↔
      ∃ value, given.lookup f.option = some value ∧ f.read value = .error (.overflow error) := by
  unfold fieldValue
  cases found : given.lookup f.option with
  | none => cases defaultOf? base f <;> simp
  | some value =>
    cases read : f.read value with
    | ok carried => simp [read]
    | error refusal => cases refusal <;> simp [read]

theorem interruption?_isSome_iff {base : Option Path.Parts} {given : Entries} :
    (interruption? base given).isSome ↔ Interrupted base given := by
  rw [interruption?, List.isSome_findSome?, List.any_eq_true]
  constructor
  · rintro ⟨f, -, found⟩
    split at found
    · next missing =>
      obtain ⟨absent, none, home⟩ := fieldValue_eq_noHome_iff.1 missing
      exact .inl ⟨none, f, home, absent⟩
    · next error overflows =>
      obtain ⟨value, given, overflows⟩ := fieldValue_eq_overflow_iff.1 overflows
      obtain rfl := read_overflow overflows
      exact .inr ⟨value, error, given, overflows⟩
    · cases found
  · rintro (⟨none, f, home, absent⟩ | ⟨value, error, given, overflows⟩)
    · refine ⟨f, f.mem_all, ?_⟩
      rw [fieldValue_eq_noHome_iff.2 ⟨absent, none, home⟩]
      rfl
    · refine ⟨.dbTimeout, Field.mem_all _, ?_⟩
      rw [fieldValue_eq_overflow_iff.2 ⟨value, given, overflows⟩]
      rfl

theorem interruption?_ne_invalid {base : Option Path.Parts} {given : Entries}
    {issues : List Issue} : interruption? base given ≠ some (.invalid issues) := by
  intro same
  obtain ⟨f, -, found⟩ := List.exists_of_findSome?_eq_some same
  split at found <;> cases found

end Settings

end WalletSetup
