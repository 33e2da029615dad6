import WalletSetup.Proofs.Resolution.Verdict

/-! Where the configuration that comes out of a resolution comes from. Values derived after the
flags for new wallets have been checked do not touch what the check looks at. -/

set_option autoImplicit false

namespace WalletSetup

open WalletSetup.Act WalletSetup.Data WalletSetup.Settings

namespace Settings

structure SameRequest (s t : Settings) : Prop where
  create : t.values .create = s.values .create
  createTemp : t.values .createTemp = s.values .createTemp
  sources : t.sources = s.sources

namespace SameRequest

variable {s t u : Settings}

theorem refl (s : Settings) : SameRequest s s := ⟨rfl, rfl, rfl⟩

theorem trans (first : SameRequest s t) (second : SameRequest t u) : SameRequest s u :=
  ⟨second.create.trans first.create, second.createTemp.trans first.createTemp,
    second.sources.trans first.sources⟩

theorem set (s : Settings) (f : Field) (value : f.kind.Carrier)
    (other : f ≠ .create ∧ f ≠ .createTemp) : SameRequest s (s.set f value) :=
  ⟨values_set_of_ne s value other.1, values_set_of_ne s value other.2, rfl⟩

theorem checkFlags (same : SameRequest s t) (net : Network) :
    Bootstrap.checkFlags t net = Bootstrap.checkFlags s net := by
  unfold Bootstrap.checkFlags isExplicit sourceOf
  rw [same.create, same.createTemp, same.sources]

end SameRequest

end Settings

namespace Resolution

theorem setUnlessExplicit_same (s : Settings) (f : Field) (value : f.kind.Carrier)
    (other : f ≠ .create ∧ f ≠ .createTemp) : SameRequest s (setUnlessExplicit s f value) := by
  unfold setUnlessExplicit
  split
  · exact .refl s
  · exact .set s f value other

theorem placeServerFiles_same (env : Path.Environment) (s : Settings) :
    SameRequest s (placeServerFiles env s) := by
  unfold placeServerFiles
  split
  · exact ((SameRequest.set _ _ _ (by decide)).trans
      (setUnlessExplicit_same _ _ _ (by decide))).trans (setUnlessExplicit_same _ _ _ (by decide))
  · exact .refl s

theorem placeLogs_same (env : Path.Environment) (net : Network) (s : Settings) :
    SameRequest s (placeLogs env net s) :=
  .set _ _ _ (by decide)

theorem expandFiles_same (env : Path.Environment) (s : Settings) :
    SameRequest s (expandFiles env s) :=
  ((SameRequest.set _ _ _ (by decide)).trans (.set _ _ _ (by decide))).trans
    (.set _ _ _ (by decide))

theorem settle_debugLevel (s : Settings) :
    (settle s).values .debugLevel = s.values .debugLevel := by
  unfold settle
  split <;> rfl

theorem setUnlessExplicit_of_ne (s : Settings) {f g : Field} (value : f.kind.Carrier)
    (other : f ≠ g) : (setUnlessExplicit s f value).values g = s.values g := by
  unfold setUnlessExplicit
  split
  · rfl
  · exact values_set_of_ne s value other

theorem place_debugLevel (env : Path.Environment) (net : Network) (s : Settings) :
    (place env net s).values .debugLevel = s.values .debugLevel := by
  unfold place placeLogs
  rw [values_set_of_ne _ _ (by decide)]
  unfold placeServerFiles
  split
  · dsimp only
    rw [setUnlessExplicit_of_ne _ _ (by decide), setUnlessExplicit_of_ne _ _ (by decide),
      values_set_of_ne _ _ (by decide)]
  · rfl

theorem place_same (env : Path.Environment) (net : Network) (s : Settings) :
    SameRequest s (place env net s) :=
  (placeServerFiles_same env s).trans (placeLogs_same env net _)

variable {host : Host} {tree : FileTree} {nodePath : Option String} {table : Log.Table}

theorem asConfig_eq_ok {ε α : Type} {wrap : ε → ConfigError} {e : Except ε α} {a : α}
    (same : asConfig wrap e = .ok a) : e = .ok a :=
  Except.mapError_eq_ok.1 same

theorem certificate_same {s t : Settings} {rpcHost nodeFile : String}
    (chosen : certificate tree s rpcHost nodeFile = .ok t) : SameRequest s t := by
  unfold certificate at chosen
  dsimp only at chosen
  split at chosen
  · cases chosen
    exact .refl s
  · obtain ⟨trusted, -, chosen⟩ := Except.bind_eq_ok chosen
    cases chosen
    exact .set _ _ _ (by decide)

theorem completion_same {s : Settings} {net : Network} {missingFile : String} {outcome : Outcome}
    (done : completion host tree nodePath s net missingFile table = .ok outcome) :
    ∃ c, outcome = .proceed c ∧ c.network = net ∧ SameRequest s c.settings := by
  obtain ⟨⟨address, rpcHost⟩, -, done⟩ := Except.bind_eq_ok done
  obtain ⟨nodeFile, -, done⟩ := Except.bind_eq_ok done
  obtain ⟨t, chosen, done⟩ := Except.bind_eq_ok done
  obtain ⟨addresses, -, done⟩ := Except.bind_eq_ok done
  obtain ⟨_, -, done⟩ := Except.bind_eq_ok done
  cases done
  have connected : SameRequest s (s.set .rpcConnect address) := .set _ _ _ (by decide)
  have listening : SameRequest t (t.set .rpcListeners addresses) := .set _ _ _ (by decide)
  exact ⟨_, rfl, rfl, ((connected.trans (certificate_same chosen)).trans listening).trans
    (expandFiles_same _ _)⟩

inductive Succeeds (host : Host) (cli : Entries) (table : Log.Table) : Outcome → Prop where
  | version (pre : Settings) (built : build host [] cli = .ok pre)
      (asked : pre.values .showVersion = true) : Succeeds host cli table (.finish 0 versionMessage)
  | levels (file : Entries) (s : Settings) (built : build host file cli = .ok s)
      (asked : s.values .debugLevel = Log.showWord) :
      Succeeds host cli table (.finish 0 (Log.supportedMessage table.sortedNames))
  | proceed (c : Configuration) (checked : Bootstrap.checkFlags c.settings c.network = .ok ()) :
      Succeeds host cli table (.proceed c)

theorem interpret_eq_list {table : Log.Table} {text : String} {names : List String}
    (asked : Log.interpret table text = .ok (.list names)) :
    text = Log.showWord ∧ names = table.sortedNames := by
  unfold Log.interpret at asked
  dsimp only at asked
  split at asked
  · next same =>
    cases asked
    exact ⟨same, rfl⟩
  · split at asked
    · split at asked <;> cases asked
    · cases pairs : (Text.splitOn ',' text.toList).mapM (Log.readPair table) with
      | error e => rw [pairs] at asked; cases asked
      | ok changes => rw [pairs] at asked; cases asked

theorem derivation_succeeds {file cli : Entries} {s : Settings}
    (built : build host file cli = .ok s) {missingFile : String} {outcome : Outcome}
    (done : derivation host tree nodePath s missingFile table = .ok outcome) :
    Succeeds host cli table outcome := by
  obtain ⟨net, -, done⟩ := Except.bind_eq_ok done
  obtain ⟨_, checked, done⟩ := Except.bind_eq_ok done
  obtain ⟨asked, interpreted, done⟩ := Except.bind_eq_ok done
  cases asked with
  | list names =>
    cases done
    obtain ⟨shown, rfl⟩ := interpret_eq_list (asConfig_eq_ok interpreted)
    rw [place_debugLevel, settle_debugLevel] at shown
    exact .levels file s built shown
  | change other =>
    -- The flags were checked before the files were placed, and are the same after it.
    obtain ⟨c, rfl, rfl, same⟩ := completion_same done
    have placed := (place_same host.environment c.network (settle s)).trans same
    exact .proceed c ((placed.checkFlags _).trans (asConfig_eq_ok checked))

/-- A configuration that comes out of a resolution has passed the check of its flags. -/
theorem verdict_succeeds {cli : Entries} {outcome : Outcome}
    (done : verdict host tree cli nodePath table = .ok outcome) :
    Succeeds host cli table outcome := by
  obtain ⟨pre, built, done⟩ := Except.bind_eq_ok done
  dsimp only at done
  split at done
  · next asked =>
    cases done
    exact .version pre built asked
  · obtain ⟨contents, -, done⟩ := Except.bind_eq_ok done
    obtain ⟨s, built, done⟩ := Except.bind_eq_ok done
    exact derivation_succeeds built done

end Resolution

end WalletSetup
