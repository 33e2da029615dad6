import WalletSetup.Proofs.Path.Literal
import WalletSetup.Proofs.Resolution.Precedence

/-! The variables of the environment. Where no path refers to one, a resolution comes to the same
whatever they are, but for those that home directories and default paths come from. -/

set_option autoImplicit false

namespace WalletSetup

open WalletSetup.Act WalletSetup.Data WalletSetup.Path WalletSetup.Settings

namespace Settings

def pathFields : List Field :=
  [.configFile, .appDataDir, .dataDir, .logDir, .caFile, .rpcCert, .rpcKey]

def IsLiteral : (k : Kind) → k.Carrier → Prop
  | .text, s => Literal s
  | _, _ => True

/-- No path among the settings refers to a variable. -/
def LiteralPaths (s : Settings) : Prop := ∀ f ∈ pathFields, IsLiteral f.kind (s.values f)

def LiteralEntries (entries : Entries) : Prop :=
  ∀ name text, (name, .text text) ∈ entries → ∀ f ∈ pathFields,
    Field.optionFor name = f.option → Literal text

theorem literalEntries_nil : LiteralEntries [] := fun _ _ member => absurd member List.not_mem_nil

section Built

variable {env : Environment} {platform : Platform} {file cli : Entries} {s : Settings}

theorem LiteralPaths.set (literal : LiteralPaths s) {f : Field} {value : f.kind.Carrier}
    (plain : f ∈ pathFields → IsLiteral f.kind value) : LiteralPaths (s.set f value) := by
  intro g inside
  rw [values_set]
  split
  · next same =>
    subst same
    exact plain inside
  · exact literal g inside

theorem mem_overlay {option : String} {value : Value} (member : (option, value) ∈ overlay file cli) :
    ∃ name, Field.optionFor name = option ∧ ((name, value) ∈ file ∨ (name, value) ∈ cli) := by
  rcases mem_assignAll member with impossible | member
  · exact nomatch impossible
  · obtain ⟨⟨name, given⟩, inside, same⟩ := List.mem_map.1 member
    cases same
    exact ⟨name, rfl, mem_assignAll inside⟩

theorem read_path {f : Field} (isPath : f ∈ pathFields) {value : Value} {carried : f.kind.Carrier}
    (read : f.read value = .ok carried) :
    ∃ text, value = .text text ∧ (Literal text → IsLiteral f.kind carried) := by
  simp only [pathFields, List.mem_cons, List.not_mem_nil, or_false] at isPath
  rcases isPath with rfl | rfl | rfl | rfl | rfl | rfl | rfl
  all_goals
    cases value with
    | text text =>
      cases read
      exact ⟨_, rfl, id⟩
    | _ => cases read

theorem literal_default {base : Option Parts} (known : ∀ p, base = some p → p.IsLiteral)
    {f : Field} (isPath : f ∈ pathFields) {value : f.kind.Carrier}
    (default : defaultOf? base f = some value) : IsLiteral f.kind value := by
  have inside {name path : String} (plain : Literal name)
      (default : (base.map fun b => (b.child name).render) = some path) : Literal path := by
    obtain ⟨p, found, rfl⟩ := Option.map_eq_some_iff.1 default
    exact ((known p found).child plain).render
  have whole {path : String} (default : base.map Parts.render = some path) : Literal path := by
    obtain ⟨p, found, rfl⟩ := Option.map_eq_some_iff.1 default
    exact (known p found).render
  simp only [pathFields, List.mem_cons, List.not_mem_nil, or_false] at isPath
  rcases isPath with rfl | rfl | rfl | rfl | rfl | rfl | rfl
  · exact inside (by decide) default
  · exact whole default
  · exact whole default
  · exact inside (by decide) default
  · cases default
    exact (by decide : Literal "")
  · exact inside (by decide) default
  · exact inside (by decide) default

theorem literal_defaultDirectory {env : Environment} (homes : LiteralHomes env)
    (platform : Platform) : ∀ p, defaultDirectory? env platform = some p → p.IsLiteral :=
  fun _ known => homes.dataDirectory? applicationName rfl (by decide) (by decide) known

/-- Settings made of such entries have such paths, for their defaults lie in a home directory. -/
theorem literalPaths_of_ofSources (homes : LiteralHomes env) (fileLiteral : LiteralEntries file)
    (cliLiteral : LiteralEntries cli) (built : ofSources env platform file cli = .ok s) :
    LiteralPaths s := by
  intro f isPath
  obtain ⟨values, -, -⟩ := ofSources_eq_ok_iff.1 built
  rcases fieldValue_eq_ok_iff.1 (values f) with ⟨value, found, read⟩ | ⟨-, default⟩
  · obtain ⟨text, rfl, plain⟩ := read_path isPath read
    obtain ⟨name, named, given | given⟩ := mem_overlay (mem_of_lookup found)
    · exact plain (fileLiteral name text given f isPath named)
    · exact plain (cliLiteral name text given f isPath named)
  · exact literal_default (literal_defaultDirectory homes platform) isPath default

theorem ofSources_of_sameHomes {other : Environment} (same : SameHomes env other) :
    ofSources other platform file cli = ofSources env platform file cli := by
  unfold ofSources defaultDirectory?
  rw [same.dataDirectory?_eq]

end Built

end Settings

namespace Resolution

section Steps

variable {env other : Environment} {s t : Settings} {tree : FileTree} {nodePath : Option String}

theorem literalPaths_settle (literal : LiteralPaths s) : LiteralPaths (settle s) := by
  unfold settle foldDataDir mergeDataDir
  split
  · dsimp only
    intro f isPath
    rw [values_markSource]
    refine literal.set (fun _ => ?_) f isPath
    split
    · exact literal .appDataDir (by decide)
    · exact literal .dataDir (by decide)
  · exact literal

theorem literalPaths_setUnlessExplicit (literal : LiteralPaths s) {f : Field}
    {value : f.kind.Carrier} (plain : IsLiteral f.kind value) :
    LiteralPaths (setUnlessExplicit s f value) := by
  unfold setUnlessExplicit
  split
  · exact literal
  · exact literal.set fun _ => plain

theorem literalPaths_placeServerFiles (literal : LiteralPaths s) (homes : LiteralHomes env) :
    LiteralPaths (placeServerFiles env s) := by
  unfold placeServerFiles
  split
  · have directory : Literal (expand env (s.values .appDataDir)) :=
      (literal .appDataDir (by decide)).expand homes
    refine literalPaths_setUnlessExplicit (literalPaths_setUnlessExplicit ?_ ?_) ?_
    · exact literal.set fun _ => directory
    · exact directory.beneath (by decide)
    · exact directory.beneath (by decide)
  · exact literal

theorem literal_networkName (net : Network) : Literal net.name := by
  unfold Network.name
  cases net.kind <;> decide

theorem literalPaths_place (literal : LiteralPaths s) (homes : LiteralHomes env) (net : Network) :
    LiteralPaths (place env net s) := by
  have placed := literalPaths_placeServerFiles literal homes
  refine placed.set fun _ => ?_
  exact ((placed .logDir (by decide)).expand homes).beneath (literal_networkName net)

theorem place_of_sameHomes (same : SameHomes env other) (homes : LiteralHomes env)
    (literal : LiteralPaths s) (net : Network) : place other net s = place env net s := by
  have files : placeServerFiles other s = placeServerFiles env s := by
    unfold placeServerFiles
    rw [Literal.expand_eq (literal .appDataDir (by decide)) same]
  have placed := literalPaths_placeServerFiles literal homes
  unfold place placeLogs
  rw [files, Literal.expand_eq (placed .logDir (by decide)) same]

theorem expandFiles_of_sameHomes (same : SameHomes env other) (literal : LiteralPaths s) :
    expandFiles other s = expandFiles env s := by
  unfold expandFiles
  rw [Literal.expand_eq (literal .caFile (by decide)) same,
    Literal.expand_eq (literal .rpcCert (by decide)) same,
    Literal.expand_eq (literal .rpcKey (by decide)) same]

theorem literal_certificate {rpcHost node : String} (literal : LiteralPaths s) (plain : Literal node)
    (chosen : certificate tree s rpcHost node = .ok t) : LiteralPaths t := by
  obtain ⟨path, rfl, certificate⟩ := certificate_eq_ok chosen
  refine literal.set fun _ => ?_
  cases certificate with
  | given => exact literal .caFile (by decide)
  | node => exact plain
  | copy =>
    have directory : Literal (s.values .appDataDir) := literal .appDataDir (by decide)
    exact directory.beneath (by decide)

theorem literal_nodeFile {host : Host} {node : String} (homes : LiteralHomes host.environment)
    (plain : ∀ path, nodePath = some path → Literal path)
    (found : nodeFile host nodePath = .ok node) : Literal node := by
  cases nodePath with
  | some path =>
    cases found
    exact plain _ rfl
  | none =>
    unfold nodeFile at found
    dsimp only at found
    split at found
    · next path known =>
      cases found
      obtain ⟨base, lies, rfl⟩ := Option.map_eq_some_iff.1 known
      have directory : base.IsLiteral :=
        homes.dataDirectory? nodeName rfl (by decide) (by decide) lies
      exact (directory.child (by decide)).render
    · cases found

end Steps

section Runs

variable {host : Host} {env : Environment} {tree : FileTree} {nodePath : Option String}
  {s : Settings} (same : SameHomes host.environment env)

include same

theorem build_of_sameHomes (file cli : Entries) :
    build { host with environment := env } file cli = build host file cli := by
  unfold build
  dsimp only
  rw [ofSources_of_sameHomes same]

theorem nodeFile_of_sameHomes :
    nodeFile { host with environment := env } nodePath = nodeFile host nodePath := by
  unfold nodeFile nodeCertificate?
  dsimp only
  rw [same.dataDirectory?_eq]

variable (homes : LiteralHomes host.environment)
  (plain : ∀ path, nodePath = some path → Literal path)

include homes plain

theorem complete_of_sameHomes (literal : LiteralPaths s) (net : Network) (missingFile : String)
    (j : Log.Journal) :
    (complete { host with environment := env } tree nodePath s net missingFile).run j =
      (complete host tree nodePath s net missingFile).run j := by
  unfold complete
  rw [nodeFile_of_sameHomes same]
  refine run_bind_congr fun (address, rpcHost) j connected => ?_
  refine run_bind_congr fun node j found => ?_
  have node := literal_nodeFile homes plain (ofExcept_eq_ok found)
  have connectedTo : LiteralPaths (s.set .rpcConnect address) :=
    literal.set fun isPath => absurd isPath (by decide)
  refine run_bind_congr fun chosen j certified => ?_
  have chosenLiteral := literal_certificate connectedTo node (resolveCertificate_eq_ok certified)
  refine run_bind_congr fun addresses j heard => ?_
  have last : LiteralPaths (chosen.set .rpcListeners addresses) :=
    chosenLiteral.set fun isPath => absurd isPath (by decide)
  dsimp only
  rw [expandFiles_of_sameHomes same last]

theorem derive_of_sameHomes (literal : LiteralPaths s) (missingFile : String) (j : Log.Journal) :
    (derive { host with environment := env } tree nodePath s missingFile).run j =
      (derive host tree nodePath s missingFile).run j := by
  have settled := literalPaths_settle literal
  unfold derive
  refine run_bind_congr fun net j selected => run_bind_congr fun _ j checked => ?_
  refine run_bind_congr fun current j read => ?_
  dsimp only
  rw [place_of_sameHomes same homes settled]
  refine run_bind_congr fun asked j interpreted => ?_
  cases asked with
  | list names => rfl
  | change table =>
    refine run_bind_congr fun _ j changed => ?_
    exact complete_of_sameHomes same homes plain (literalPaths_place settled homes net) _ _ _

end Runs

theorem configPath_of_sameHomes {env other : Environment} {pre : Settings}
    (same : SameHomes env other) (literal : LiteralPaths pre) :
    configPath other pre = configPath env pre := by
  unfold configPath
  dsimp only
  rw [Literal.expand_eq (literal .configFile (by decide)) same,
    Literal.expand_eq (literal .appDataDir (by decide)) same,
    Literal.expand_eq (literal .dataDir (by decide)) same]

/-- The variables of the environment configure nothing, but for those that home directories and
default paths come from: where neither these, nor the paths given on the command line, in the
configuration file and for the certificate of the node refer to a variable, a resolution logs the
same and comes to the same with any other variables. -/
theorem environment_configures_nothing {host : Host} {env : Environment} {tree : FileTree}
    {cli : Entries} {nodePath : Option String} (same : SameHomes host.environment env)
    (homes : LiteralHomes host.environment) (given : LiteralEntries cli)
    (file : ∀ path contents, Reads host cli path → ConfigFile.load tree path = .ok contents →
      LiteralEntries contents.values)
    (node : ∀ path, nodePath = some path → Literal path) (j : Log.Journal) :
    (resolve { host with environment := env } tree cli nodePath).run j =
      (resolve host tree cli nodePath).run j := by
  rw [resolve_eq, resolve_eq, build_of_sameHomes same]
  -- Variables count only where paths are expanded, and at every stage these paths are literal.
  refine run_bind_congr fun pre j built => ?_
  have built := ofExcept_eq_ok built
  have preLiteral : LiteralPaths pre :=
    literalPaths_of_ofSources homes literalEntries_nil given (build_eq_ok built)
  dsimp only
  rw [configPath_of_sameHomes same preLiteral]
  split
  · rfl
  · next goesOn =>
    rw [Bool.not_eq_true] at goesOn
    refine run_bind_congr fun contents j loaded => ?_
    have fileLiteral : LiteralEntries contents.values :=
      file _ contents ⟨pre, built, goesOn, rfl⟩ (loadFile_eq_ok loaded)
    rw [build_of_sameHomes same]
    refine run_bind_congr fun s j merged => run_bind_congr fun _ j noted => ?_
    have literal : LiteralPaths s :=
      literalPaths_of_ofSources homes fileLiteral given (build_eq_ok (ofExcept_eq_ok merged))
    exact derive_of_sameHomes same homes node literal _ _

section Example

def withVariable : Environment := ⟨[("HOME", "/home/user"), ("APPDATA_DIR", "/x")], [], none⟩

def tildeOptions : Entries := [(Field.appDataDir.name, .text "~/w")]

theorem literalHomes_plain : LiteralHomes Host.plain.environment where
  vars name base value known := by
    simp only [homeVariables, List.mem_cons, List.not_mem_nil, or_false] at base
    rcases base with rfl | rfl | rfl
    · cases known
      decide
    · cases known
    · cases known
  users _ _ known := nomatch known
  account _ known := nomatch known

set_option maxRecDepth 20000 in
theorem other_variable_configures_nothing :
    ∃ c after, (resolve .plain (.bare ["work"]) tildeOptions (some "/n")).run (.start .standard) =
        (.ok (.proceed c), after) ∧
      (resolve { Host.plain with environment := withVariable } (.bare ["work"]) tildeOptions
        (some "/n")).run (.start .standard) = (.ok (.proceed c), after) := by
  obtain ⟨c, after, done, -⟩ := exists_configuration
    (by decide +kernel : proceedsOn .mainnet ((resolve .plain (.bare ["work"]) tildeOptions
      (some "/n")).run (.start .standard)).1 = true)
  have same : SameHomes Host.plain.environment withVariable := ⟨by decide, rfl, rfl⟩
  have given : LiteralEntries tildeOptions := by
    intro name text member f isPath named
    rw [tildeOptions, List.mem_singleton, Prod.mk.injEq, Value.text.injEq] at member
    rw [member.2]
    decide
  have file (path : String) (contents : ConfigFile.Contents)
      (reads : Reads .plain tildeOptions path)
      (loaded : ConfigFile.load (.bare ["work"]) path = .ok contents) :
      LiteralEntries contents.values := by
    rw [reads.values_eq_nil loaded (by decide +kernel)]
    exact literalEntries_nil
  have node (path : String) (known : some "/n" = some path) : Literal path := by
    rw [← Option.some.inj known]
    decide
  have alike := environment_configures_nothing same literalHomes_plain given file node
    (.start .standard)
  exact ⟨c, after, done, alike.trans done⟩

end Example

end Resolution

end WalletSetup
