import WalletSetup.Proofs.Address.Loopback
import WalletSetup.Proofs.Resolution.Precedence

/-! The certificate that a node is known by. That of a node on this machine serves only a host that
names this machine, and only while there is no copy in the data directory; without client TLS and
with a certificate that is given, the tree is not asked for any. -/

set_option autoImplicit false

namespace WalletSetup.Resolution

open WalletSetup.Act WalletSetup.Address WalletSetup.Data WalletSetup.Settings

def NoCertificateSought (s : Settings) : Prop :=
  s.values .disableClientTls = true ∨ s.isExplicit .caFile = true

/-- The certificate of a node on this machine stands for a node at this host. -/
structure NodeTrusted (tree : FileTree) (s : Settings) (rpcHost nodeFile : String) : Prop where
  noCopy : tree.present (certificateCopy s) = .ok false
  thisMachine : NamesThisMachine rpcHost
  there : tree.present nodeFile = .ok true

section Trust

variable {tree : FileTree} {s : Settings} {rpcHost nodeFile given path : String}

theorem accessible_eq_ok {found : Bool} (asked : accessible tree path = .ok found) :
    tree.present path = .ok found :=
  Except.mapError_eq_ok.1 asked

theorem trustsNode_eq_ok {trusted : Bool} (asked : trustsNode tree s rpcHost nodeFile = .ok trusted) :
    trusted = true ↔ NodeTrusted tree s rpcHost nodeFile := by
  obtain ⟨copied, copy, asked⟩ := Except.bind_eq_ok asked
  have copy := accessible_eq_ok copy
  -- Three questions in turn; the first no settles it.
  cases copied with
  | true =>
    cases asked
    constructor
    · nofun
    · intro trust
      rw [trust.noCopy] at copy
      cases copy
  | false =>
    rw [if_neg Bool.false_ne_true] at asked
    split at asked
    · next near =>
      have there := accessible_eq_ok asked
      constructor
      · rintro rfl
        exact ⟨copy, isLoopback_iff.1 near, there⟩
      · intro trust
        rw [trust.there] at there
        exact (Except.ok.inj there).symm
    · next far =>
      cases asked
      constructor
      · nofun
      · intro trust
        exact absurd (isLoopback_iff.2 trust.thisMachine) far

/-- Which certificate the settings end with, by what decides about it. -/
structure CertificateRule (env : Path.Environment) (tree : FileTree) (s : Settings)
    (given rpcHost nodeFile : String) : Prop where
  settled : NoCertificateSought s → s.values .caFile = Path.expand env given
  node : ¬ NoCertificateSought s → NodeTrusted tree s rpcHost nodeFile →
    s.values .caFile = Path.expand env nodeFile
  copy : ¬ NoCertificateSought s → ¬ NodeTrusted tree s rpcHost nodeFile →
    s.values .caFile = Path.expand env (certificateCopy s)
  stranger : ¬ NamesThisMachine rpcHost → s.values .caFile = Path.expand env given ∨
    s.values .caFile = Path.expand env (certificateCopy s)

theorem not_sought {s : Settings} (needed : s.values .disableClientTls = false)
    (absent : s.isExplicit .caFile = false) : ¬ NoCertificateSought s := by
  rintro (off | explicit)
  · rw [needed] at off
    cases off
  · rw [absent] at explicit
    cases explicit

theorem CertificateOf.rule {env : Path.Environment}
    (chosen : CertificateOf tree s given rpcHost nodeFile path)
    (value : s.values .caFile = Path.expand env path) :
    CertificateRule env tree s given rpcHost nodeFile := by
  cases chosen with
  | given settled =>
    exact {
      settled := fun _ => value
      node := fun sought => absurd settled sought
      copy := fun sought => absurd settled sought
      stranger := fun _ => .inl value }
  | node needed absent asked =>
    have trust := (trustsNode_eq_ok asked).1 rfl
    exact {
      settled := fun settled => absurd settled (not_sought needed absent)
      node := fun _ _ => value
      copy := fun _ distrust => absurd trust distrust
      stranger := fun far => absurd trust.thisMachine far }
  | copy needed absent asked =>
    have distrust : ¬ NodeTrusted tree s rpcHost nodeFile := fun trust =>
      Bool.false_ne_true ((trustsNode_eq_ok asked).2 trust)
    exact {
      settled := fun settled => absurd settled (not_sought needed absent)
      node := fun _ trust => absurd trust distrust
      copy := fun _ _ => value
      stranger := fun _ => .inr value }

end Trust

section OtherTree

variable {host : Host} {tree other : FileTree} {cli : Entries} {nodePath : Option String}
  {s : Settings}

theorem NoCertificateSought.congr {t : Settings} (settled : NoCertificateSought s)
    (tls : t.values .disableClientTls = s.values .disableClientTls)
    (explicit : t.isExplicit .caFile = s.isExplicit .caFile) : NoCertificateSought t := by
  unfold NoCertificateSought
  rw [tls, explicit]
  exact settled

theorem loadFile_congr {path : String}
    (same : other.read (Path.clean path) = tree.read (Path.clean path)) :
    loadFile other path = loadFile tree path := by
  unfold loadFile ConfigFile.load
  dsimp only
  rw [same]

theorem resolveCertificate_settled (settled : NoCertificateSought s) (rpcHost node : String) :
    resolveCertificate tree s rpcHost node = pure s := by
  unfold resolveCertificate
  dsimp only
  rw [if_pos (Bool.or_eq_true_iff.2 settled)]

theorem complete_congr (settled : NoCertificateSought s) (net : Network) (missingFile : String) :
    complete host other nodePath s net missingFile =
      complete host tree nodePath s net missingFile := by
  unfold complete
  refine bind_congr fun (address, rpcHost) => bind_congr fun node => ?_
  have connected : NoCertificateSought (s.set .rpcConnect address) :=
    settled.congr (values_set_of_ne _ _ (by decide)) rfl
  dsimp only
  rw [resolveCertificate_settled connected, resolveCertificate_settled connected]

theorem NoCertificateSought.place (settled : NoCertificateSought s) (net : Network) :
    NoCertificateSought (place host.environment net (settle s)) := by
  refine settled.congr ?_ ?_
  · rw [place_of_not_mem _ _ _ (by decide), settle_of_ne _ (by decide)]
  · rw [place_isExplicit]
    unfold isExplicit
    rw [settle_sourceOf_of_ne _ (by decide)]

/-- A run with these options finds the same configuration file in the other tree. -/
def SameConfigFile (host : Host) (cli : Entries) (tree other : FileTree) : Prop :=
  ∀ path, Reads host cli path → other.read (Path.clean path) = tree.read (Path.clean path)

/-- With no certificate to be found, the tree matters only for its configuration file. -/
theorem resolve_congr (same : SameConfigFile host cli tree other)
    (settled : ∀ file s, Merged host tree cli file s → NoCertificateSought s) (j : Log.Journal) :
    (resolve host other cli nodePath).run j = (resolve host tree cli nodePath).run j := by
  rw [resolve_eq, resolve_eq]
  refine run_bind_congr fun pre _ built => ?_
  have built := ofExcept_eq_ok built
  dsimp only
  split
  · rfl
  · next goesOn =>
    rw [Bool.not_eq_true] at goesOn
    have reads : Reads host cli (configPath host.environment pre) := ⟨pre, built, goesOn, rfl⟩
    rw [loadFile_congr (same _ reads)]
    refine run_bind_congr fun contents _ loaded => run_bind_congr fun s _ merged => ?_
    have sought : NoCertificateSought s := settled contents.values s
      ⟨⟨_, contents, reads, loadFile_eq_ok loaded, rfl⟩, build_eq_ok (ofExcept_eq_ok merged)⟩
    -- From here on the tree is only handed to the last steps.
    have last (net : Network) (missingFile : String) :
        complete host other nodePath (place host.environment net (settle s)) net missingFile =
          complete host tree nodePath (place host.environment net (settle s)) net missingFile :=
      complete_congr (sought.place net) net missingFile
    unfold derive
    simp only [last]

/-- The certificate of a configuration is by the rule the one that was given, that of a node on
this machine or the copy in the data directory. Where it had not to be found, any other tree with
the same configuration file would have led to the same configuration. -/
theorem certificate_follows_rule {j after : Log.Journal} {c : Configuration}
    (done : (resolve host tree cli nodePath).run j = (.ok (.proceed c), after)) :
    ∃ file s endpoint node, Merged host tree cli file s ∧
      Address.split (c.settings.values .rpcConnect) = .ok endpoint ∧
      Resolution.nodeFile host nodePath = .ok node ∧
      CertificateRule host.environment tree c.settings (s.values .caFile) endpoint.host node ∧
      (NoCertificateSought c.settings → ∀ other, SameConfigFile host cli tree other →
        (resolve host other cli nodePath).run j = (.ok (.proceed c), after)) := by
  obtain ⟨file, s, merged, derived⟩ := resolve_derived done
  obtain ⟨endpoint, node, path, split, found, chosen, value⟩ := derived.caFile
  refine ⟨file, s, endpoint, node, merged, split, found, chosen.rule value, ?_⟩
  intro settled other same
  rw [← done]
  apply resolve_congr same
  intro otherFile t otherMerged
  obtain ⟨rfl, rfl⟩ := merged.unique otherMerged
  refine settled.congr (derived.kept .disableClientTls (by decide)).symm ?_
  unfold isExplicit
  rw [derived.sources, settle_sourceOf_of_ne _ (by decide)]

end OtherTree

def shown? {ε α : Type} (look : Configuration → α) : Except ε Outcome → Option α
  | .ok (.proceed c) => some (look c)
  | _ => none

theorem exists_shown {ε σ α : Type} (look : Configuration → α) {a : α}
    {result : Except ε Outcome × σ} (done : shown? look result.1 = some a) :
    ∃ c after, result = (.ok (.proceed c), after) ∧ look c = a := by
  rcases result with ⟨e | finished | c, after⟩
  · cases done
  · cases done
  · exact ⟨c, after, rfl, Option.some.inj done⟩

def nodeTree : FileTree :=
  (FileTree.bare ["work"]).plant ["home", "user", ".lbcd", "rpc.cert"] (.file 0o644 [] false)

def certificateFacts (c : Configuration) : (Bool × Bool) × String × String :=
  ((c.settings.values .disableClientTls, c.settings.isExplicit .caFile),
    c.settings.values .rpcConnect, c.settings.values .appDataDir)

set_option maxRecDepth 20000 in
theorem local_node_is_trusted :
    ∃ c after, (resolve .plain nodeTree [("rpc_connect", .text "LocalHost")] none).run
        (.start .standard) = (.ok (.proceed c), after) ∧
      c.settings.values .caFile = Path.expand Host.plain.environment "/home/user/.lbcd/rpc.cert" := by
  obtain ⟨c, after, done, facts⟩ := exists_shown certificateFacts
    (by decide +kernel : shown? certificateFacts ((resolve .plain nodeTree
      [("rpc_connect", .text "LocalHost")] none).run (.start .standard)).1 =
        some ((false, false), "LocalHost:9245", "/home/user/.lbcwallet"))
  simp only [certificateFacts, Prod.mk.injEq] at facts
  obtain ⟨⟨needed, absent⟩, connect, directory⟩ := facts
  obtain ⟨file, s, endpoint, node, -, split, found, rule, -⟩ := certificate_follows_rule done
  rw [connect] at split
  cases split
  cases found
  refine ⟨c, after, done, rule.node (not_sought needed absent) ⟨?_, ?_, ?_⟩⟩
  · unfold certificateCopy
    rw [directory]
    decide +kernel
  · exact isLoopback_iff.1 (by decide +kernel)
  · decide +kernel

end WalletSetup.Resolution
