import WalletSetup.Proofs.Settings.Sources

/-! Options that are given other valid values. Settings come out as before but for these values: no
value is looked at with another option in view. -/

set_option autoImplicit false

namespace WalletSetup.Settings

open WalletSetup.Data

def Field.Accepts (f : Field) (value : Value) : Prop := ∃ carried, f.read value = .ok carried

def SameOr (held : List Field) (option : String) (value other : Value) : Prop :=
  other = value ∨ ∃ f ∈ held, option = f.option ∧ f.Accepts value ∧ f.Accepts other

/-- The same names in the same order, with the same values but for valid ones of these options. -/
def SameBut (held : List Field) (entries other : Entries) : Prop :=
  Alongside (fun name => SameOr held (Field.optionFor name)) entries other

structure Beside (held moved : List Field) (s t : Settings) : Prop where
  values : ∀ f ∉ held, t.values f = s.values f
  sources : ∀ f ∉ moved, t.sourceOf f = s.sourceOf f

theorem Beside.refl {held moved : List Field} (s : Settings) : Beside held moved s s :=
  ⟨fun _ _ => rfl, fun _ _ => rfl⟩

namespace Beside

variable {held moved : List Field} {s t : Settings} (beside : Beside held moved s t)

include beside

theorem isExplicit {f : Field} (apart : f ∉ moved) : t.isExplicit f = s.isExplicit f := by
  unfold Settings.isExplicit
  rw [beside.sources f apart]

theorem set (f : Field) (value : f.kind.Carrier) :
    Beside held moved (s.set f value) (t.set f value) where
  values g apart := by rw [values_set, values_set, beside.values g apart]
  sources := beside.sources

theorem markSource (f : Field) (source : Source) :
    Beside held moved (s.markSource f source) (t.markSource f source) where
  values := beside.values
  sources g apart := by
    by_cases same : f = g
    · subst same
      rw [sourceOf_markSource_self, sourceOf_markSource_self]
    · rw [sourceOf_markSource_of_ne _ _ same, sourceOf_markSource_of_ne _ _ same,
        beside.sources g apart]

end Beside

section Building

variable {held : List Field} {env : Path.Environment} {platform : Path.Platform}
  {file cli other : Entries}

theorem SameBut.overlay (same : SameBut held cli other) (file : Entries) :
    Alongside (SameOr held) (overlay file cli) (overlay file other) := by
  have merged := Alongside.assignAll
    (.refl (fun name value => (.inl rfl : SameOr held (Field.optionFor name) value value)) file) same
  exact .assignAll .nil (merged.map_key fun _ _ _ related => related)

theorem fieldValue_sameOr {base : Option Path.Parts} {given otherGiven : Entries}
    (alongside : Alongside (SameOr held) given otherGiven) (f : Field) :
    fieldValue base otherGiven f = fieldValue base given f ∨
      f ∈ held ∧ (∃ v, fieldValue base given f = .ok v) ∧ ∃ w, fieldValue base otherGiven f = .ok w := by
  have found := alongside.lookup f.option
  generalize first : given.lookup f.option = one at found
  generalize second : otherGiven.lookup f.option = another at found
  cases found with
  | none => exact .inl (fieldValue_congr (second.trans first.symm))
  | some related =>
    rcases related with rfl | ⟨g, inside, same, ⟨v, read⟩, w, otherRead⟩
    · exact .inl (fieldValue_congr (second.trans first.symm))
    · obtain rfl := Field.option_injective same
      exact .inr ⟨inside, ⟨v, fieldValue_eq_ok_iff.2 (.inl ⟨_, first, read⟩)⟩,
        w, fieldValue_eq_ok_iff.2 (.inl ⟨_, second, otherRead⟩)⟩

theorem sourcesOf_congr (same : keys other = keys cli) : sourcesOf file other = sourcesOf file cli := by
  have marked (entries : Entries) : sourcesOf file entries =
      assignAll (sourcesOf file []) ((keys entries).map fun name => (name, .cli)) := by
    unfold keys
    rw [List.map_map]
    rfl
  rw [marked other, marked cli, same]

theorem SameBut.ofSources_alike (same : SameBut held cli other) (file : Entries) :
    Except.Alike (Beside held []) (ofSources env platform file cli)
      (ofSources env platform file other) := by
  have given := same.overlay file
  have unknown : strays (Settings.overlay file cli) = strays (Settings.overlay file other) := by
    unfold strays
    rw [given.keys_eq]
  refine Settings.ofSources_alike (fun f e => ?_) unknown fun s t built otherBuilt => ?_
  · rcases fieldValue_sameOr given f with alike | ⟨-, ⟨v, read⟩, w, otherRead⟩
    · rw [alike]
    · rw [read, otherRead]
      exact iff_of_false nofun nofun
  · obtain ⟨values, -, sources⟩ := ofSources_eq_ok_iff.1 built
    obtain ⟨otherValues, -, otherSources⟩ := ofSources_eq_ok_iff.1 otherBuilt
    constructor
    · intro f apart
      rcases fieldValue_sameOr given f with alike | ⟨inside, -⟩
      · exact Except.ok.inj ((otherValues f).symm.trans (alike.trans (values f)))
      · exact absurd inside apart
    · intro f _
      unfold sourceOf
      rw [otherSources, sources, sourcesOf_congr same.keys_eq]

theorem lookup_assign_name (cli : Entries) (f g : Field) (value : Value) :
    (assign cli f.name value).lookup g.name = if g = f then some value else cli.lookup g.name := by
  rw [lookup_assign]
  by_cases same : g = f
  · rw [if_pos same, same, if_pos rfl]
  · rw [if_neg same, if_neg fun equal => same (Field.name_injective equal)]

theorem named_assign (named : Named cli) (f : Field) (value : Value) :
    Named (assign cli f.name value) := by
  refine ⟨named.distinct.assign, fun entry member => ?_⟩
  have known : entry.1 ∈ keys (assign cli f.name value) := List.mem_map_of_mem member
  rcases mem_keys_assign.1 known with known | same
  · obtain ⟨before, inside, same⟩ := List.mem_map.1 known
    exact same ▸ named.names before inside
  · exact ⟨f, same⟩

/-- With names of options alone none is unknown. -/
theorem ofSources_named_alike {otherFile otherCli : Entries} {R : Settings → Settings → Prop}
    (fileNamed : Named file) (cliNamed : Named cli) (otherFileNamed : Named otherFile)
    (otherCliNamed : Named otherCli)
    (same : ∀ f e, fieldValue (defaultDirectory? env platform) (overlay file cli) f = .error e ↔
      fieldValue (defaultDirectory? env platform) (overlay otherFile otherCli) f = .error e)
    (related : ∀ s t, ofSources env platform file cli = .ok s →
      ofSources env platform otherFile otherCli = .ok t → R s t) :
    Except.Alike R (ofSources env platform file cli)
      (ofSources env platform otherFile otherCli) := by
  refine ofSources_alike same ?_ related
  rw [strays_eq_nil_iff.2 fun _ => overlay_known fileNamed cliNamed,
    strays_eq_nil_iff.2 fun _ => overlay_known otherFileNamed otherCliNamed]

theorem ofSources_assign_alike {f : Field} {value : Value} (fileNamed : Named file) (named : Named cli)
    (known : defaultOf? (defaultDirectory? env platform) f ≠ none)
    (accepted : ∀ given, effective file cli f = some given → f.Accepts given)
    (valid : f.Accepts value) :
    Except.Alike (Beside [f] [f]) (ofSources env platform file cli)
      (ofSources env platform file (assign cli f.name value)) := by
  have otherNamed := named_assign named f value
  have apart (g : Field) (ne : g ≠ f) :
      effective file (assign cli f.name value) g = effective file cli g := by
    unfold effective
    rw [lookup_assign_name, if_neg ne]
  refine ofSources_named_alike fileNamed named fileNamed otherNamed (fun g e => ?_)
    fun s t built otherBuilt => ⟨fun g other => ?_, fun g other => ?_⟩
  · by_cases same : g = f
    -- Neither what the option has in the one nor the value in the other is refused.
    · subst same
      obtain ⟨carried, read⟩ := valid
      have given : effective file (assign cli g.name value) g = some value := by
        simp [effective, lookup_assign_name]
      obtain ⟨before, held⟩ : ∃ before, fieldValue
          (defaultDirectory? env platform) (overlay file cli) g = .ok before := by
        simp only [fieldValue_overlay_eq_ok_iff fileNamed named]
        cases counts : effective file cli g with
        | none => exact (Option.ne_none_iff_exists'.1 known).imp fun _ found => .inr ⟨rfl, found⟩
        | some first => exact (accepted first counts).imp fun _ read => .inl ⟨first, rfl, read⟩
      rw [held, (fieldValue_overlay_eq_ok_iff fileNamed otherNamed).2 (.inl ⟨value, given, read⟩)]
      simp
    · rw [fieldValue_overlay_congr fileNamed named fileNamed otherNamed (apart g same)]
  · exact values_congr_of_ofSources fileNamed named fileNamed otherNamed built otherBuilt
      (apart g (by simpa using other))
  · have ne : g ≠ f := by simpa using other
    rw [sourceOf_of_ofSources otherNamed otherBuilt, sourceOf_of_ofSources named built]
    unfold origin
    rw [lookup_assign_name, if_neg ne]

end Building

end WalletSetup.Settings
