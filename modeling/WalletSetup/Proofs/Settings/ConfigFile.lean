import Mathlib.Data.String.Basic
import WalletSetup.Proofs.Settings.Sources
import WalletSetup.Proofs.Toml.Keys
import WalletSetup.Settings.ConfigFile

/-! What a configuration file gives, by the names of the options: under each name stands what the
file has under the long name. -/

set_option autoImplicit false

namespace WalletSetup

open WalletSetup.Data WalletSetup.Settings

theorem Settings.option_of_ofOption? {option : String} {f : Field}
    (found : Field.ofOption? option = some f) : option = f.option := by
  have same := List.find?_some found
  rw [decide_eq_true_eq] at same
  exact same.symm

namespace ConfigFile

theorem byName_cons_unknown {key : String} (unknown : Field.ofOption? key = none) (value : Value)
    (rest : Entries) : byName ((key, value) :: rest) = byName rest := by
  simp [byName, unknown]

theorem byName_cons (f : Field) (value : Value) (rest : Entries) :
    byName ((f.option, value) :: rest) = (f.name, wrapText f value) :: byName rest := by
  simp [byName, Field.ofOption?_option]

theorem lookup_byName (entries : Entries) (f : Field) :
    (byName entries).lookup f.name = (entries.lookup f.option).map (wrapText f) := by
  induction entries with
  | nil => rfl
  | cons entry rest ih =>
    obtain ⟨key, value⟩ := entry
    rw [List.lookup_cons]
    cases found : Field.ofOption? key with
    | none =>
      have apart : f.option ≠ key := by
        rintro rfl
        rw [Field.ofOption?_option] at found
        cases found
      rw [byName_cons_unknown found, beq_false_of_ne apart, ih]
    | some g =>
      obtain rfl := option_of_ofOption? found
      rw [byName_cons, List.lookup_cons]
      by_cases same : f = g
      · simp [same]
      · rw [beq_false_of_ne fun equal => same (Field.name_injective equal),
          beq_false_of_ne fun equal => same (Field.option_injective equal), ih]

theorem named_byName {entries : Entries} (distinct : Distinct entries) : Named (byName entries) := by
  induction entries with
  | nil => exact named_nil
  | cons entry rest ih =>
    obtain ⟨key, value⟩ := entry
    obtain ⟨fresh, distinct⟩ := List.nodup_cons.1 distinct
    obtain ⟨apart, names⟩ := ih distinct
    cases found : Field.ofOption? key with
    | none =>
      rw [byName_cons_unknown found]
      exact ⟨apart, names⟩
    | some g =>
      obtain rfl := option_of_ofOption? found
      rw [byName_cons]
      refine ⟨List.nodup_cons.2 ⟨lookup_eq_none_iff.1 ?_, apart⟩, ?_⟩
      · rw [lookup_byName, lookup_eq_none_iff.2 fresh]
        rfl
      · rintro entry member
        rcases List.mem_cons.1 member with rfl | member
        · exact ⟨g, rfl⟩
        · exact names entry member

/-- Nothing is read from a file but a mapping of names of options. -/
theorem load_named {tree : FileTree} {path : String} {contents : Contents}
    (loaded : load tree path = .ok contents) : Named contents.values := by
  unfold load at loaded
  dsimp only at loaded
  split at loaded
  · cases loaded
    exact named_nil
  · cases loaded
  · split at loaded
    · next parsed =>
      unfold ofEntries at loaded
      split at loaded
      · cases loaded
        exact named_byName (Toml.read_distinct parsed)
      · cases loaded
    all_goals cases loaded

section Unknown

theorem textLe_iff (a b : String) : (decide (a < b) || decide (a = b)) = true ↔ a ≤ b := by
  rw [Bool.or_eq_true, decide_eq_true_eq, decide_eq_true_eq, ← le_iff_lt_or_eq]

theorem sorted_names (names : List String) :
    (names.mergeSort fun a b => a < b || a = b).Pairwise (· ≤ ·) := by
  refine (List.pairwise_mergeSort (fun a b c => ?_) (fun a b => ?_) names).imp
    fun {a b} => (textLe_iff a b).1
  · simp only [textLe_iff]
    exact le_trans
  · rw [Bool.or_eq_true, textLe_iff, textLe_iff]
    exact le_total a b

theorem unknownNames_perm {entries more : Entries} (perm : more.Perm entries) :
    unknownNames more = unknownNames entries := by
  have unsorted := (perm.map (·.1)).filter fun key => (Field.ofOption? key).isNone
  refine List.Perm.eq_of_pairwise (fun a b _ _ => le_antisymm) (sorted_names _) (sorted_names _) ?_
  exact (List.mergeSort_perm _ _).trans (unsorted.trans (List.mergeSort_perm _ _).symm)

theorem unknownNames_filter (entries : Entries) (f : Field) :
    unknownNames (entries.filter (·.1 ≠ f.option)) = unknownNames entries := by
  unfold unknownNames
  congr 1
  rw [List.filter_map, List.filter_map, List.filter_filter]
  congr 1
  refine List.filter_congr fun entry _ => ?_
  by_cases same : entry.1 = f.option
  · simp [same, Field.ofOption?_option]
  · simp [same]

end Unknown

theorem coerce_text_ne_ok {k : Kind} (isList : k = .texts) (s : String) (carried : k.Carrier) :
    k.coerce (.text s) ≠ .ok carried := by
  subst isList
  nofun

theorem wrapText_of_read {f : Field} {value : Value} {carried : f.kind.Carrier}
    (read : f.read value = .ok carried) : wrapText f value = value := by
  obtain ⟨coerced, done, -⟩ := Except.bind_eq_ok read
  unfold wrapText
  split
  · next isList => exact absurd done (coerce_text_ne_ok isList _ _)
  · rfl

theorem load_of_read {tree : FileTree} {path : String} {bytes : Text.Bytes} {entries : Entries}
    (read : tree.read (Path.clean path) = .ok bytes) (parsed : Toml.read bytes = .ok entries) :
    load tree path = ofEntries (Path.clean path) entries := by
  unfold load
  dsimp only
  rw [read]
  dsimp only
  rw [parsed]

end ConfigFile

end WalletSetup
