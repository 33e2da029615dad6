import WalletSetup.Proofs.Data.Mapping
import WalletSetup.Proofs.Data.Results
import WalletSetup.Proofs.Settings.Interruption

/-! How settings follow from what a configuration file and a command line give: each option on its
own, from the command line before the file and from the file before the default. -/

set_option autoImplicit false

namespace WalletSetup

open WalletSetup.Data WalletSetup.Settings

namespace Settings

theorem Field.name_injective {f g : Field} (same : f.name = g.name) : f = g := by
  have found := ofName?_name f
  rw [same, ofName?_name] at found
  exact (Option.some.inj found).symm

theorem Field.option_injective {f g : Field} (same : f.option = g.option) : f = g := by
  have found := ofOption?_option f
  rw [same, ofOption?_option] at found
  exact (Option.some.inj found).symm

section Updates

theorem values_set (s : Settings) (f g : Field) (value : f.kind.Carrier) :
    (s.set f value).values g = if h : f = g then h ▸ value else s.values g := rfl

@[simp] theorem isExplicit_set (s : Settings) (f g : Field) (value : f.kind.Carrier) :
    (s.set f value).isExplicit g = s.isExplicit g := rfl

theorem set_values_self (s : Settings) (f : Field) : s.set f (s.values f) = s := by
  unfold set
  congr
  funext g
  split
  · next same => subst same; rfl
  · rfl

@[simp] theorem values_markSource (s : Settings) (f g : Field) (source : Source) :
    (s.markSource f source).values g = s.values g := rfl

theorem sourceOf_markSource_of_ne (s : Settings) {f g : Field} (source : Source) (other : f ≠ g) :
    (s.markSource f source).sourceOf g = s.sourceOf g := by
  have apart : g.name ≠ f.name := fun same => other (Field.name_injective same).symm
  simp [sourceOf, markSource, lookup_assign, apart]

end Updates

def IsName (name : String) : Prop := ∃ f : Field, name = f.name

theorem isName_iff {name : String} : IsName name ↔ (Field.ofName? name).isSome := by
  constructor
  · rintro ⟨f, rfl⟩
    rw [Field.ofName?_name]
    rfl
  · intro found
    obtain ⟨f, found⟩ := Option.isSome_iff_exists.1 found
    have same := List.find?_some found
    rw [decide_eq_true_eq] at same
    exact ⟨f, same.symm⟩

instance (name : String) : Decidable (IsName name) := decidable_of_iff _ isName_iff.symm

/-- A mapping of names of options to values. -/
structure Named (entries : Entries) : Prop where
  distinct : Distinct entries
  names : ∀ entry ∈ entries, IsName entry.1

instance (entries : Entries) : Decidable (Named entries) :=
  decidable_of_iff (Distinct entries ∧ ∀ entry ∈ entries, IsName entry.1)
    ⟨fun ⟨distinct, names⟩ => ⟨distinct, names⟩, fun named => ⟨named.distinct, named.names⟩⟩

theorem named_nil : Named [] := ⟨List.nodup_nil, nofun⟩

theorem named_single (f : Field) (value : Value) : Named [(f.name, value)] :=
  ⟨List.nodup_singleton _, by rintro entry member; cases List.mem_singleton.1 member; exact ⟨f, rfl⟩⟩

/-- The value given for an option; the command line wins. -/
def effective (file cli : Entries) (f : Field) : Option Value :=
  (cli.lookup f.name).or (file.lookup f.name)

/-- Where the value of an option comes from. -/
def origin (file cli : Entries) (f : Field) : Source :=
  if (cli.lookup f.name).isSome then .cli
  else if (file.lookup f.name).isSome then .file else .default

theorem origin_ne_default_iff {file cli : Entries} {f : Field} :
    origin file cli f ≠ .default ↔
      (file.lookup f.name).isSome ∨ (cli.lookup f.name).isSome := by
  unfold origin
  split
  · next given => simp [given]
  · next absent =>
    split
    · next given => simp [given]
    · next missing => simp [absent, missing]

theorem origin_eq_default_iff {file cli : Entries} {f : Field} :
    origin file cli f = .default ↔ effective file cli f = none := by
  rw [← not_iff_not, ← ne_eq, origin_ne_default_iff, effective]
  cases file.lookup f.name <;> cases cli.lookup f.name <;> simp

theorem origin_eq_default_iff_of_effective {file cli otherFile otherCli : Entries} {f : Field}
    (same : effective otherFile otherCli f = effective file cli f) :
    origin otherFile otherCli f = .default ↔ origin file cli f = .default := by
  rw [origin_eq_default_iff, origin_eq_default_iff, same]

section Overlay

variable {file cli : Entries}

theorem isName_assignAll (fileNamed : Named file) (cliNamed : Named cli)
    {entry : String × Value} (member : entry ∈ assignAll file cli) : IsName entry.1 := by
  have known : entry.1 ∈ keys (assignAll file cli) := List.mem_map_of_mem member
  rcases mem_keys_assignAll.1 known with known | known
  · obtain ⟨other, inside, same⟩ := List.mem_map.1 known
    exact same ▸ fileNamed.names other inside
  · obtain ⟨other, inside, same⟩ := List.mem_map.1 known
    exact same ▸ cliNamed.names other inside

theorem optionFor_injective (a : String) (nameA : IsName a) (b : String) (nameB : IsName b)
    (same : Field.optionFor a = Field.optionFor b) : a = b := by
  obtain ⟨f, rfl⟩ := nameA
  obtain ⟨g, rfl⟩ := nameB
  rw [Field.optionFor_name, Field.optionFor_name] at same
  rw [Field.option_injective same]

theorem lookup_overlay (fileNamed : Named file) (cliNamed : Named cli) (f : Field) :
    (overlay file cli).lookup f.option = effective file cli f := by
  have names (entry : String × Value) (member : entry ∈ assignAll file cli) : IsName entry.1 :=
    isName_assignAll fileNamed cliNamed member
  have renamed := Distinct.map_key optionFor_injective names fileNamed.distinct.assignAll
  unfold overlay
  rw [lookup_assignAll renamed, List.lookup_nil, Option.or_none, ← Field.optionFor_name,
    lookup_map_key optionFor_injective names ⟨f, rfl⟩, lookup_assignAll cliNamed.distinct]
  rfl

theorem overlay_known (fileNamed : Named file) (cliNamed : Named cli) {entry : String × Value}
    (member : entry ∈ overlay file cli) : (Field.ofOption? entry.1).isSome := by
  have known : entry.1 ∈ keys (overlay file cli) := List.mem_map_of_mem member
  rcases mem_keys_assignAll.1 known with impossible | known
  · exact nomatch impossible
  · simp only [keys, List.map_map, List.mem_map, Function.comp_apply] at known
    obtain ⟨other, inside, same⟩ := known
    obtain ⟨f, named⟩ := isName_assignAll fileNamed cliNamed inside
    rw [← same, named, Field.optionFor_name, Field.ofOption?_option]
    rfl

theorem lookup_sourcesOf (cliNamed : Named cli) (f : Field) :
    ((sourcesOf file cli).lookup f.name).getD .default = origin file cli f := by
  unfold sourcesOf origin
  rw [lookup_assignAll (cliNamed.distinct.map_value _), lookup_map_value, lookup_map_value]
  cases cli.lookup f.name <;> cases file.lookup f.name <;> rfl

end Overlay

section Building

variable {base : Option Path.Parts} {given other : Entries}

theorem exists_default (home : base.isSome) (f : Field) : ∃ value, defaultOf? base f = some value := by
  refine Option.ne_none_iff_exists'.1 fun missing => ?_
  rw [(defaultOf?_eq_none_iff.1 missing).1] at home
  cases home

theorem fieldValue_congr {f : Field} (same : given.lookup f.option = other.lookup f.option) :
    fieldValue base given f = fieldValue base other f := by
  unfold fieldValue
  rw [same]

/-- An option has what is read from the value given for it, else its default. -/
theorem fieldValue_eq_ok_iff {f : Field} {carried : f.kind.Carrier} :
    fieldValue base given f = .ok carried ↔
      (∃ value, given.lookup f.option = some value ∧ f.read value = .ok carried) ∨
        given.lookup f.option = none ∧ defaultOf? base f = some carried := by
  unfold fieldValue
  cases given.lookup f.option with
  | some value => simp
  | none => cases defaultOf? base f <;> simp

theorem interruption?_congr
    (same : ∀ f e, fieldValue base given f = .error e ↔ fieldValue base other f = .error e) :
    interruption? base given = interruption? base other := by
  unfold interruption?
  refine congrArg (Field.all.findSome? ·) (funext fun f => ?_)
  cases first : fieldValue base given f with
  | error e => rw [(same f e).1 first]
  | ok value =>
    cases second : fieldValue base other f with
    | ok => rfl
    | error e => rw [(same f e).2 second] at first; cases first

/-- The names among those given that are no long names of options. -/
def strays (given : Entries) : List String :=
  (keys given).filter fun name => (Field.ofOption? name).isNone

theorem strays_eq_nil_iff :
    strays given = [] ↔ ∀ entry ∈ given, (Field.ofOption? entry.1).isSome := by
  simp only [strays, keys, List.filter_eq_nil_iff, List.forall_mem_map]
  refine forall_congr' fun entry => imp_congr_right fun _ => ?_
  rw [Option.isNone_iff_eq_none, ← ne_eq, Option.ne_none_iff_isSome]

theorem issues_eq : issues base given =
    (Field.all.flatMap fun f => match fieldValue base given f with
      | .error (.invalid issues) => issues
      | _ => []) ++ (strays given).map fun name => ⟨name, none, .unknownName⟩ := by
  unfold issues strays keys
  rw [List.filter_map, List.map_map]
  rfl

theorem issues_congr
    (same : ∀ f e, fieldValue base given f = .error e ↔ fieldValue base other f = .error e)
    (unknown : strays given = strays other) : issues base given = issues base other := by
  rw [issues_eq, issues_eq, unknown]
  refine congrArg (· ++ _) (congrArg (Field.all.flatMap ·) (funext fun f => ?_))
  cases first : fieldValue base given f with
  | error e => rw [(same f e).1 first]
  | ok value =>
    cases second : fieldValue base other f with
    | ok => rfl
    | error e => rw [(same f e).2 second] at first; cases first

end Building

section Flaws

theorem whole_eq_flaws {α : Type} {result : Except ValueFlaw α} {items : List ItemFlaw}
    (refused : whole result = .error (.flaws items)) : items ≠ [] := by
  obtain ⟨flaw, -, same⟩ := Except.mapError_eq_error.1 refused
  cases same
  exact List.cons_ne_nil _ _

theorem toTexts_eq_error {index : Nat} {values : List Value} {items : List ItemFlaw}
    (refused : toTexts index values = .error items) : items ≠ [] := by
  induction values generalizing index items with
  | nil => cases refused
  | cons value rest ih =>
    unfold toTexts at refused
    split at refused
    · cases refused
    · cases refused; exact List.cons_ne_nil _ _
    · next later => cases refused; exact ih later
    · cases refused; exact List.cons_ne_nil _ _

theorem toSpanWithin_eq_flaws {n : Int} {items : List ItemFlaw}
    (refused : toSpanWithin n = .error (.flaws items)) : items ≠ [] := by
  unfold toSpanWithin at refused
  split at refused
  · cases refused; exact List.cons_ne_nil _ _
  · obtain ⟨error, -, same⟩ := Except.mapError_eq_error.1 refused
    cases same

theorem toSpan_eq_flaws {value : Value} {items : List ItemFlaw}
    (refused : toSpan value = .error (.flaws items)) : items ≠ [] := by
  unfold toSpan at refused
  split at refused
  · obtain ⟨flaw, -, same⟩ := Except.mapError_eq_error.1 refused
    cases same
    exact List.cons_ne_nil _ _
  · exact toSpanWithin_eq_flaws refused
  · split at refused
    · exact toSpanWithin_eq_flaws refused
    · cases refused; exact List.cons_ne_nil _ _
  · split at refused
    · cases refused; exact List.cons_ne_nil _ _
    · exact toSpanWithin_eq_flaws refused
    · cases refused; exact List.cons_ne_nil _ _
  · cases refused; exact List.cons_ne_nil _ _

theorem coerce_eq_flaws {k : Kind} {value : Value} {items : List ItemFlaw}
    (refused : k.coerce value = .error (.flaws items)) : items ≠ [] := by
  cases k with
  | span => exact toSpan_eq_flaws refused
  | texts =>
    cases value with
    | list values =>
      obtain ⟨flaws, failed, same⟩ := Except.mapError_eq_error.1 refused
      cases same
      exact toTexts_eq_error failed
    | _ => cases refused; exact List.cons_ne_nil _ _
  | _ => exact whole_eq_flaws refused

theorem read_eq_flaws {f : Field} {value : Value} {items : List ItemFlaw}
    (refused : f.read value = .error (.flaws items)) : items ≠ [] := by
  rcases Except.bind_eq_error refused with coerced | ⟨carried, -, refined⟩
  · exact coerce_eq_flaws coerced
  · cases f with
    | profile => exact whole_eq_flaws refined
    | _ => cases refined

theorem fieldValue_eq_invalid {base : Option Path.Parts} {given : Entries} {f : Field}
    {issues : List Issue} (refused : fieldValue base given f = .error (.invalid issues)) :
    issues ≠ [] := by
  unfold fieldValue at refused
  split at refused
  · obtain ⟨refusal, read, same⟩ := Except.mapError_eq_error.1 refused
    cases refusal with
    | flaws items =>
      cases same
      exact fun empty => read_eq_flaws read (List.map_eq_nil_iff.1 empty)
    | overflow error => cases same
  · split at refused <;> cases refused

end Flaws

section OfSources

variable {env : Path.Environment} {platform : Path.Platform} {file cli : Entries} {s : Settings}

theorem fieldValue_overlay_eq_ok_iff {base : Option Path.Parts} {f : Field} {carried : f.kind.Carrier}
    (fileNamed : Named file) (cliNamed : Named cli) :
    fieldValue base (overlay file cli) f = .ok carried ↔
      (∃ value, effective file cli f = some value ∧ f.read value = .ok carried) ∨
        effective file cli f = none ∧ defaultOf? base f = some carried := by
  rw [← lookup_overlay fileNamed cliNamed]
  exact fieldValue_eq_ok_iff

theorem fieldValue_overlay_congr {base : Option Path.Parts} {otherFile otherCli : Entries} {f : Field}
    (fileNamed : Named file) (cliNamed : Named cli) (otherFileNamed : Named otherFile)
    (otherCliNamed : Named otherCli)
    (same : effective otherFile otherCli f = effective file cli f) :
    fieldValue base (overlay otherFile otherCli) f = fieldValue base (overlay file cli) f := by
  rw [← lookup_overlay fileNamed cliNamed, ← lookup_overlay otherFileNamed otherCliNamed] at same
  exact fieldValue_congr same

theorem unobjected_iff {base : Option Path.Parts} {given : Entries} :
    interruption? base given = none ∧ issues base given = [] ↔
      (∀ f, ∃ value, fieldValue base given f = .ok value) ∧
        ∀ entry ∈ given, (Field.ofOption? entry.1).isSome := by
  rw [issues_eq, List.append_eq_nil_iff, List.map_eq_nil_iff, strays_eq_nil_iff]
  constructor
  · rintro ⟨quiet, fine, known⟩
    refine ⟨fun f => ?_, known⟩
    have passed := List.findSome?_eq_none_iff.1 quiet f f.mem_all
    have unflawed := List.flatMap_eq_nil_iff.1 fine f f.mem_all
    -- An option without a value would have a flaw to report, or would break the building off.
    cases found : fieldValue base given f with
    | ok value => exact ⟨value, rfl⟩
    | error e =>
      rw [found] at passed unflawed
      cases e with
      | invalid issues => exact absurd unflawed (fieldValue_eq_invalid found)
      | _ => cases passed
  · rintro ⟨values, known⟩
    refine ⟨List.findSome?_eq_none_iff.2 fun f _ => ?_,
      List.flatMap_eq_nil_iff.2 fun f _ => ?_, known⟩
    · obtain ⟨value, found⟩ := values f
      rw [found]
    · obtain ⟨value, found⟩ := values f
      rw [found]

/-- Settings come out exactly when every option has a value and every name is known. -/
theorem ofSources_eq_ok_iff : ofSources env platform file cli = .ok s ↔
    (∀ f, fieldValue (defaultDirectory? env platform) (overlay file cli) f = .ok (s.values f)) ∧
      (∀ entry ∈ overlay file cli, (Field.ofOption? entry.1).isSome) ∧
        s.sources = sourcesOf file cli := by
  unfold ofSources
  dsimp only
  generalize defaultDirectory? env platform = base
  generalize overlay file cli = given
  constructor
  · intro built
    split at built
    · cases built
    · next quiet clean =>
      cases built
      obtain ⟨values, known⟩ := unobjected_iff.1 ⟨quiet, clean⟩
      refine ⟨fun f => ?_, known, rfl⟩
      obtain ⟨value, found⟩ := values f
      simp [found, Except.toOption]
    · cases built
  · rintro ⟨values, known, sources⟩
    obtain ⟨quiet, clean⟩ := unobjected_iff.2 ⟨fun f => ⟨_, values f⟩, known⟩
    rw [quiet, clean]
    dsimp only
    obtain ⟨held, from_⟩ := s
    dsimp only at values sources
    rw [sources]
    congr 2
    funext f
    rw [values f]
    rfl

/-- Where the options fail alike one by one and the same names are unknown, the building of settings
fails alike. -/
theorem ofSources_alike {otherFile otherCli : Entries} {R : Settings → Settings → Prop}
    (same : ∀ f e, fieldValue (defaultDirectory? env platform) (overlay file cli) f = .error e ↔
      fieldValue (defaultDirectory? env platform) (overlay otherFile otherCli) f = .error e)
    (unknown : strays (overlay file cli) = strays (overlay otherFile otherCli))
    (related : ∀ s t, ofSources env platform file cli = .ok s →
      ofSources env platform otherFile otherCli = .ok t → R s t) :
    Except.Alike R (ofSources env platform file cli)
      (ofSources env platform otherFile otherCli) := by
  unfold ofSources at related ⊢
  dsimp only at related ⊢
  rw [interruption?_congr same, issues_congr same unknown] at related ⊢
  split at related
  · exact .error _
  · exact .ok (related _ _ rfl rfl)
  · exact .error _

/-- For mappings of names of options it is enough that every option has a value. -/
theorem exists_ofSources_iff (fileNamed : Named file) (cliNamed : Named cli) :
    (∃ s, ofSources env platform file cli = .ok s) ↔
      ∀ f, ∃ value, fieldValue (defaultDirectory? env platform) (overlay file cli) f = .ok value := by
  constructor
  · rintro ⟨s, built⟩ f
    exact ⟨s.values f, (ofSources_eq_ok_iff.1 built).1 f⟩
  · intro valued
    choose values held using valued
    exact ⟨⟨values, sourcesOf file cli⟩,
      ofSources_eq_ok_iff.2 ⟨held, fun _ => overlay_known fileNamed cliNamed, rfl⟩⟩

theorem values_of_ofSources (fileNamed : Named file) (cliNamed : Named cli)
    (built : ofSources env platform file cli = .ok s) (f : Field) :
    (∃ value, effective file cli f = some value ∧ f.read value = .ok (s.values f)) ∨
      effective file cli f = none ∧
        defaultOf? (defaultDirectory? env platform) f = some (s.values f) :=
  (fieldValue_overlay_eq_ok_iff fileNamed cliNamed).1 ((ofSources_eq_ok_iff.1 built).1 f)

theorem values_congr_of_ofSources {otherFile otherCli : Entries} {t : Settings}
    (fileNamed : Named file) (cliNamed : Named cli) (otherFileNamed : Named otherFile)
    (otherCliNamed : Named otherCli) (built : ofSources env platform file cli = .ok s)
    (otherBuilt : ofSources env platform otherFile otherCli = .ok t) {f : Field}
    (same : effective otherFile otherCli f = effective file cli f) : t.values f = s.values f := by
  have held := (ofSources_eq_ok_iff.1 built).1 f
  have otherHeld := (ofSources_eq_ok_iff.1 otherBuilt).1 f
  rw [fieldValue_overlay_congr fileNamed cliNamed otherFileNamed otherCliNamed same, held] at otherHeld
  exact (Except.ok.inj otherHeld).symm

theorem sourceOf_of_ofSources (cliNamed : Named cli)
    (built : ofSources env platform file cli = .ok s) (f : Field) :
    s.sourceOf f = origin file cli f := by
  obtain ⟨-, -, sources⟩ := ofSources_eq_ok_iff.1 built
  unfold sourceOf
  rw [sources, lookup_sourcesOf cliNamed]

theorem isExplicit_iff_of_ofSources (cliNamed : Named cli)
    (built : ofSources env platform file cli = .ok s) (f : Field) :
    s.isExplicit f = true ↔ (file.lookup f.name).isSome ∨ (cli.lookup f.name).isSome := by
  unfold isExplicit
  rw [decide_eq_true_eq, sourceOf_of_ofSources cliNamed built, origin_ne_default_iff]

end OfSources

section Alone

variable {env : Path.Environment} {platform : Path.Platform} {f : Field} {value : Value}

theorem effective_alone (f g : Field) (value : Value) :
    effective [] [(f.name, value)] g = if g = f then some value else none := by
  unfold effective
  rw [List.lookup_cons, List.lookup_nil, Option.or_none]
  by_cases same : g = f
  · simp [same]
  · rw [beq_false_of_ne fun equal => same (Field.name_injective equal), if_neg same]

theorem read_of_alone {s : Settings}
    (built : ofSources env platform [] [(f.name, value)] = .ok s) :
    f.read value = .ok (s.values f) := by
  rcases values_of_ofSources named_nil (named_single f value) built f with
    ⟨other, given, read⟩ | ⟨absent, -⟩
  · rw [effective_alone, if_pos rfl] at given
    cases given
    exact read
  · rw [effective_alone, if_pos rfl] at absent
    cases absent

/-- With a home directory a value is valid on its own when it can be read. -/
theorem exists_alone_iff (home : (defaultDirectory? env platform).isSome) :
    (∃ s, ofSources env platform [] [(f.name, value)] = .ok s) ↔
      ∃ carried, f.read value = .ok carried := by
  constructor
  · rintro ⟨s, built⟩
    exact ⟨_, read_of_alone built⟩
  · rintro ⟨carried, read⟩
    refine (exists_ofSources_iff named_nil (named_single f value)).2 fun g => ?_
    simp only [fieldValue_overlay_eq_ok_iff named_nil (named_single f value), effective_alone]
    by_cases same : g = f
    · subst same
      exact ⟨carried, .inl ⟨value, if_pos rfl, read⟩⟩
    · obtain ⟨held, known⟩ := exists_default home g
      exact ⟨held, .inr ⟨if_neg same, known⟩⟩

end Alone

end Settings

end WalletSetup
