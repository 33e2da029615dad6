import Mathlib.Data.List.Nodup
import WalletSetup.Data.Value

/-! Lists of entries as mappings, where no key comes twice. They stay mappings when keys are given
values, and of two that are laid over one another the upper one counts where it has the key. -/

set_option autoImplicit false

namespace WalletSetup.Data

variable {α β : Type} {entries more : List (String × α)} {key : String} {value : α}

def keys (entries : List (String × α)) : List String := entries.map (·.1)

def Distinct (entries : List (String × α)) : Prop := (keys entries).Nodup

instance (entries : List (String × α)) : Decidable (Distinct entries) :=
  inferInstanceAs (Decidable (keys entries).Nodup)

theorem isSome_lookup_iff : (entries.lookup key).isSome ↔ key ∈ keys entries := by
  rw [List.lookup_isSome_iff, keys, List.mem_map]
  exact exists_congr fun entry => and_congr_right fun _ => by rw [beq_iff_eq, eq_comm]

theorem lookup_eq_none_iff : entries.lookup key = none ↔ key ∉ keys entries := by
  rw [← isSome_lookup_iff, Option.not_isSome_iff_eq_none]

theorem keys_assign : keys (assign entries key value) =
    if key ∈ keys entries then keys entries else keys entries ++ [key] := by
  induction entries with
  | nil => rfl
  | cons entry rest ih =>
    obtain ⟨first, old⟩ := entry
    unfold assign
    split
    · next same => simp [keys, same]
    · next other =>
      have ih : keys (assign rest key value) =
        if key ∈ keys rest then keys rest else keys rest ++ [key] := ih
      change first :: keys (assign rest key value) = _
      rw [ih, show keys ((first, old) :: rest) = first :: keys rest from rfl]
      by_cases member : key ∈ keys rest <;> simp [member, Ne.symm other]

theorem mem_keys_assign {other : String} :
    other ∈ keys (assign entries key value) ↔ other ∈ keys entries ∨ other = key := by
  rw [keys_assign]
  split
  · next member =>
    constructor
    · exact .inl
    · rintro (known | rfl)
      · exact known
      · exact member
  · simp

theorem keys_append : keys (entries ++ [(key, value)]) = keys entries ++ [key] := by simp [keys]

theorem Distinct.append (distinct : Distinct entries) (fresh : key ∉ keys entries) :
    Distinct (entries ++ [(key, value)]) := by
  unfold Distinct
  rw [keys_append]
  refine List.nodup_append.2 ⟨distinct, List.nodup_singleton _, fun other known last => ?_⟩
  rw [List.mem_singleton]
  rintro rfl rfl
  exact fresh known

theorem Distinct.assign (distinct : Distinct entries) : Distinct (assign entries key value) := by
  by_cases member : key ∈ keys entries
  · unfold Distinct
    rw [keys_assign, if_pos member]
    exact distinct
  · have appended : Distinct (entries ++ [(key, value)]) := distinct.append member
    unfold Distinct at appended ⊢
    rw [keys_append] at appended
    rw [keys_assign, if_neg member]
    exact appended

theorem mem_keys_assignAll :
    key ∈ keys (assignAll entries more) ↔ key ∈ keys entries ∨ key ∈ keys more := by
  induction more generalizing entries with
  | nil => simp [assignAll, keys]
  | cons entry rest ih =>
    rw [assignAll, List.foldl_cons]
    refine ih.trans ?_
    rw [mem_keys_assign, show keys (entry :: rest) = entry.1 :: keys rest from rfl,
      List.mem_cons, or_assoc]

theorem mem_assign {entry : String × α} (member : entry ∈ assign entries key value) :
    entry ∈ entries ∨ entry = (key, value) := by
  induction entries with
  | nil => exact .inr (List.mem_singleton.1 member)
  | cons first rest ih =>
    unfold assign at member
    split at member
    · next found =>
      rcases List.mem_cons.1 member with same | member
      · exact .inr (found ▸ same)
      · exact .inl (List.mem_cons_of_mem _ member)
    · rcases List.mem_cons.1 member with same | member
      · exact .inl (same ▸ List.mem_cons_self)
      · exact (ih member).imp_left (List.mem_cons_of_mem _)

theorem mem_assignAll {entry : String × α} (member : entry ∈ assignAll entries more) :
    entry ∈ entries ∨ entry ∈ more := by
  induction more generalizing entries with
  | nil => exact .inl member
  | cons first rest ih =>
    rcases ih member with member | member
    · rcases mem_assign member with member | same
      · exact .inl member
      · exact .inr (same ▸ List.mem_cons_self)
    · exact .inr (List.mem_cons_of_mem _ member)

theorem mem_of_lookup (found : entries.lookup key = some value) : (key, value) ∈ entries := by
  obtain ⟨before, after, rfl, -⟩ := List.lookup_eq_some_iff.1 found
  exact List.mem_append_right _ List.mem_cons_self

theorem Distinct.assignAll (distinct : Distinct entries) : Distinct (assignAll entries more) := by
  induction more generalizing entries with
  | nil => exact distinct
  | cons entry rest ih => exact ih distinct.assign

theorem lookup_assignAll (distinct : Distinct more) :
    (assignAll entries more).lookup key = (more.lookup key).or (entries.lookup key) := by
  induction more generalizing entries with
  | nil => rfl
  | cons entry rest ih =>
    obtain ⟨first, given⟩ := entry
    obtain ⟨fresh, distinct⟩ := List.nodup_cons.1 distinct
    rw [assignAll, List.foldl_cons]
    refine (ih distinct).trans ?_
    rw [lookup_assign, List.lookup_cons]
    by_cases same : key = first
    · subst same
      rw [lookup_eq_none_iff.2 fresh]
      simp
    · rw [beq_false_of_ne same, if_neg same]

theorem Distinct.lookup_eq_some_iff (distinct : Distinct entries) :
    entries.lookup key = some value ↔ (key, value) ∈ entries := by
  induction entries with
  | nil => simp
  | cons entry rest ih =>
    obtain ⟨first, given⟩ := entry
    obtain ⟨fresh, distinct⟩ := List.nodup_cons.1 distinct
    rw [List.lookup_cons, List.mem_cons]
    by_cases same : key = first
    · subst same
      have later : (key, value) ∉ rest := by
        intro member
        have known : (key, value).1 ∈ keys rest := List.mem_map_of_mem member
        exact fresh known
      simp [later, eq_comm]
    · simp [beq_false_of_ne same, same, ih distinct]

/-- The order of the entries does not matter. -/
theorem Distinct.lookup_perm (distinct : Distinct entries) (perm : more.Perm entries)
    (key : String) : more.lookup key = entries.lookup key := by
  have otherDistinct : Distinct more := (perm.map Prod.fst).nodup_iff.2 distinct
  refine Option.ext fun value => ?_
  rw [distinct.lookup_eq_some_iff, otherDistinct.lookup_eq_some_iff, perm.mem_iff]

/-- Without a key, the others keep what stands under them. -/
theorem lookup_filter_ne {κ : Type} [DecidableEq κ] [BEq κ] [LawfulBEq κ]
    (entries : List (κ × α)) {key other : κ} (different : other ≠ key) :
    (entries.filter (·.1 ≠ key)).lookup other = entries.lookup other := by
  induction entries with
  | nil => rfl
  | cons entry rest ih =>
    obtain ⟨first, value⟩ := entry
    by_cases same : first = key
    · rw [List.filter_cons_of_neg (by simp [same]), ih, List.lookup_cons,
        beq_eq_false_iff_ne.2 (same ▸ different)]
    · rw [List.filter_cons_of_pos (by simp [same]), List.lookup_cons, List.lookup_cons, ih]

/-- Other keys for the entries: what was found under a key is found under the key for it. -/
theorem lookup_map_key {rename : String → String} {known : String → Prop}
    (injective : ∀ a, known a → ∀ b, known b → rename a = rename b → a = b)
    (all : ∀ entry ∈ entries, known entry.1) (named : known key) :
    (entries.map fun (name, value) => (rename name, value)).lookup (rename key) =
      entries.lookup key := by
  induction entries with
  | nil => rfl
  | cons entry rest ih =>
    obtain ⟨first, given⟩ := entry
    have ih := ih fun entry member => all entry (List.mem_cons_of_mem _ member)
    rw [List.map_cons, List.lookup_cons, List.lookup_cons, ih]
    by_cases same : key = first
    · simp [same]
    · have apart : rename key ≠ rename first := fun equal =>
        same (injective _ named _ (all _ List.mem_cons_self) equal)
      rw [beq_false_of_ne same, beq_false_of_ne apart]

theorem Distinct.map_key {rename : String → String} {known : String → Prop}
    (injective : ∀ a, known a → ∀ b, known b → rename a = rename b → a = b)
    (all : ∀ entry ∈ entries, known entry.1) (distinct : Distinct entries) :
    Distinct (entries.map fun (name, value) => (rename name, value)) := by
  have renamed : keys (entries.map fun (name, value) => (rename name, value)) =
      (keys entries).map rename := by simp [keys]
  unfold Distinct
  rw [renamed]
  refine List.Nodup.map_on (fun a memberA b memberB => ?_) distinct
  obtain ⟨entryA, insideA, rfl⟩ := List.mem_map.1 memberA
  obtain ⟨entryB, insideB, rfl⟩ := List.mem_map.1 memberB
  exact injective _ (all _ insideA) _ (all _ insideB)

theorem lookup_map_values (entries : List (String × α)) (value : String → α → β) (key : String) :
    (entries.map fun (name, old) => (name, value name old)).lookup key =
      (entries.lookup key).map (value key) := by
  induction entries with
  | nil => rfl
  | cons entry rest ih =>
    obtain ⟨first, given⟩ := entry
    rw [List.map_cons, List.lookup_cons, List.lookup_cons, ih]
    by_cases same : key = first
    · rw [same, beq_self_eq_true]
      rfl
    · rw [beq_false_of_ne same]

theorem lookup_map_value (entries : List (String × α)) (value : β) (key : String) :
    (entries.map fun (name, _) => (name, value)).lookup key =
      (entries.lookup key).map fun _ => value :=
  lookup_map_values entries (fun _ _ => value) key

theorem Distinct.map_value (distinct : Distinct entries) (value : β) :
    Distinct (entries.map fun (name, _) => (name, value)) := by
  have same : keys (entries.map fun (name, _) => (name, value)) = keys entries := by simp [keys]
  unfold Distinct
  rw [same]
  exact distinct

/-- The same keys in the same order, with values that are related. -/
def Alongside (R : String → α → β → Prop) : List (String × α) → List (String × β) → Prop :=
  List.Forall₂ fun entry other => other.1 = entry.1 ∧ R entry.1 entry.2 other.2

namespace Alongside

variable {R : String → α → β → Prop} {other otherMore : List (String × β)} {otherValue : β}

theorem refl {R : String → α → α → Prop} (reflexive : ∀ key value, R key value value)
    (entries : List (String × α)) : Alongside R entries entries := by
  induction entries with
  | nil => exact .nil
  | cons entry rest ih => exact .cons ⟨rfl, reflexive _ _⟩ ih

theorem keys_eq (alongside : Alongside R entries other) : keys other = keys entries := by
  induction alongside with
  | nil => rfl
  | cons same _ ih => exact congrArg₂ List.cons same.1 ih

theorem map_key {rename : String → String} {S : String → α → β → Prop}
    (weaker : ∀ key value otherValue, R key value otherValue → S (rename key) value otherValue)
    (alongside : Alongside R entries other) :
    Alongside S (entries.map fun (name, value) => (rename name, value))
      (other.map fun (name, value) => (rename name, value)) := by
  induction alongside with
  | nil => exact .nil
  | cons same _ ih => exact .cons ⟨congrArg rename same.1, weaker _ _ _ same.2⟩ ih

theorem assign (alongside : Alongside R entries other) (related : R key value otherValue) :
    Alongside R (assign entries key value) (assign other key otherValue) := by
  induction alongside with
  | nil => exact .cons ⟨rfl, related⟩ .nil
  | @cons entry otherEntry rest otherRest same alongside ih =>
    obtain ⟨first, old⟩ := entry
    obtain ⟨_, otherOld⟩ := otherEntry
    obtain ⟨rfl, kept⟩ := same
    unfold Data.assign
    split
    · next found => exact .cons ⟨rfl, found ▸ related⟩ alongside
    · exact .cons ⟨rfl, kept⟩ ih

theorem assignAll (alongside : Alongside R entries other)
    (moreAlongside : Alongside R more otherMore) :
    Alongside R (assignAll entries more) (assignAll other otherMore) := by
  induction moreAlongside generalizing entries other with
  | nil => exact alongside
  | @cons entry otherEntry rest otherRest same _ ih =>
    obtain ⟨first, given⟩ := entry
    obtain ⟨_, otherGiven⟩ := otherEntry
    obtain ⟨rfl, related⟩ := same
    exact ih (alongside.assign related)

theorem lookup (alongside : Alongside R entries other) (key : String) :
    Option.Rel (R key) (entries.lookup key) (other.lookup key) := by
  induction alongside with
  | nil => exact .none
  | @cons entry otherEntry rest otherRest same _ ih =>
    obtain ⟨_, old⟩ := entry
    obtain ⟨first, otherOld⟩ := otherEntry
    obtain ⟨rfl, kept⟩ := same
    rw [List.lookup_cons, List.lookup_cons]
    by_cases found : key = first
    · subst found
      simpa using Option.Rel.some kept
    · simpa only [beq_false_of_ne found] using ih

end Alongside

end WalletSetup.Data
