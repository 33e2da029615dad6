import WalletSetup.Proofs.Resolution.Indifference

/-! The addresses that a resolution comes to. They all read as endpoints, so that the check of those
to listen on, which is made only with TLS off for the server, shows in nothing. -/

set_option autoImplicit false

namespace WalletSetup

open WalletSetup.Act WalletSetup.Data WalletSetup.Settings

namespace Resolution

def Spares {α : Type} (result : Except ResolutionError α) : Prop :=
  ∀ address flaw, result ≠ .error (.config (.listenInterface address flaw))

section Refusals

variable {α β : Type} {host : Host} {tree : FileTree} {nodePath : Option String} {table : Log.Table}

theorem spares_ok (a : α) : Spares (.ok a) := nofun

theorem Spares.bind {first : Except ResolutionError α} {next : α → Except ResolutionError β}
    (spared : Spares first) (rest : ∀ a, first = .ok a → Spares (next a)) :
    Spares (first >>= next) := by
  intro address flaw failed
  rcases Except.bind_eq_error failed with failed | ⟨a, done, failed⟩
  · exact spared address flaw failed
  · exact rest a done address flaw failed

theorem spares_asConfig {ε : Type} {wrap : ε → ConfigError} {result : Except ε α}
    (other : ∀ e, result = .error e → ∀ address flaw, wrap e ≠ .listenInterface address flaw) :
    Spares (asConfig wrap result) := by
  intro address flaw failed
  obtain ⟨e, refused, same⟩ := Except.mapError_eq_error.1 failed
  exact other e refused address flaw (ResolutionError.config.inj same)

theorem spares_build (file cli : Entries) : Spares (build host file cli) := by
  intro address flaw failed
  obtain ⟨e, -, same⟩ := Except.mapError_eq_error.1 failed
  cases e <;> cases same

theorem spares_load (path : String) : Spares ((ConfigFile.load tree path).mapError ofFile) := by
  intro address flaw failed
  obtain ⟨e, -, same⟩ := Except.mapError_eq_error.1 failed
  cases e <;> cases same

theorem spares_nodeFile : Spares (nodeFile host nodePath) := by
  unfold nodeFile
  split
  · exact spares_ok _
  · split
    · exact spares_ok _
    · intro address flaw failed
      cases failed

theorem trustsNode_eq_error {s : Settings} {rpcHost node : String} {error : ConfigError}
    (failed : trustsNode tree s rpcHost node = .error error) :
    ∃ path reason, error = .inaccessible path reason := by
  have found {path : String} (failed : accessible tree path = .error error) :
      ∃ path reason, error = .inaccessible path reason := by
    obtain ⟨reason, -, same⟩ := Except.mapError_eq_error.1 failed
    exact ⟨path, reason, same.symm⟩
  rcases Except.bind_eq_error failed with failed | ⟨copied, -, failed⟩
  · exact found failed
  · split at failed
    · cases failed
    · split at failed
      · exact found failed
      · cases failed

theorem spares_certificate (s : Settings) (rpcHost node : String) :
    Spares (certificate tree s rpcHost node) := by
  unfold certificate
  dsimp only
  split
  · exact spares_ok s
  · refine .bind (spares_asConfig fun e failed => ?_) fun trusted _ => spares_ok _
    obtain ⟨path, reason, rfl⟩ := trustsNode_eq_error failed
    nofun

theorem listeners_eq_error {s : Settings} {net : Network} {error : ConfigError}
    (failed : listeners host s net = .error error) :
    (∃ reason, error = .unresolved reason) ∨ ∃ flaw, error = .listenAddress flaw := by
  have normalized {given : List String} {port : String}
      (failed : (Address.normalizeAll given port).mapError .listenAddress = .error error) :
      ∃ flaw, error = .listenAddress flaw := by
    obtain ⟨flaw, -, same⟩ := Except.mapError_eq_error.1 failed
    exact ⟨flaw, same.symm⟩
  unfold listeners at failed
  dsimp only at failed
  split at failed
  · split at failed
    · exact .inr (normalized failed)
    · cases failed
      exact .inl ⟨_, rfl⟩
  · exact .inr (normalized failed)

theorem spares_completion (s : Settings) (net : Network) (missingFile : String) :
    Spares (completion host tree nodePath s net missingFile table) := by
  refine .bind (spares_asConfig nofun) fun (address, rpcHost) _ => ?_
  refine .bind spares_nodeFile fun node _ => ?_
  refine .bind (spares_certificate _ _ _) fun chosen _ => ?_
  refine .bind (spares_asConfig fun e failed => ?_) fun addresses heard => ?_
  · rcases listeners_eq_error failed with ⟨reason, rfl⟩ | ⟨flaw, rfl⟩ <;> nofun
  · dsimp only
    rw [checkListeners_of_listeners (asConfig_eq_ok heard), ite_self]
    exact spares_ok _

theorem spares_verdict (cli : Entries) : Spares (verdict host tree cli nodePath table) := by
  refine .bind (spares_build [] cli) fun pre _ => ?_
  dsimp only
  split
  · exact spares_ok _
  · refine .bind (spares_load _) fun contents _ => .bind (spares_build _ cli) fun s _ => ?_
    refine .bind (spares_asConfig nofun) fun net _ => .bind (spares_asConfig nofun) fun _ _ => ?_
    refine .bind (spares_asConfig nofun) fun asked _ => ?_
    cases asked with
    | list names => exact spares_ok _
    | change other => exact spares_completion _ _ _

end Refusals

theorem endpoints_of_resolve {host : Host} {tree : FileTree} {cli : Entries}
    {nodePath : Option String} {j after : Log.Journal} {c : Configuration}
    (done : (resolve host tree cli nodePath).run j = (.ok (.proceed c), after)) :
    (∃ e, Address.split (c.settings.values .rpcConnect) = .ok e) ∧
      ∀ address ∈ c.settings.values .rpcListeners, ∃ e, Address.split address = .ok e := by
  obtain ⟨file, s, -, derived⟩ := resolve_derived done
  obtain ⟨endpoint, -, -, connect, -⟩ := derived.caFile
  obtain ⟨given, normalized⟩ := listeners_eq_ok derived.rpcListeners
  exact ⟨⟨endpoint, connect⟩, Address.split_of_normalizeAll normalized⟩

/-- A normalized address reads as an endpoint. So whether TLS is off for the server changes a
resolution in nothing but the option itself, be it that the command line gives it another value or
that it gives it at all; the check of the addresses to listen on never fails, and all addresses of a
configuration read as endpoints. -/
theorem resolved_addresses_are_endpoints :
    (∀ address port text, Address.normalize address port = .ok text →
      ∃ e, Address.split text = .ok e) ∧
    ∀ host tree cli nodePath j,
      (∀ other, SameBut [.disableServerTls] cli other →
        Paired (OutcomeBy (Beside [.disableServerTls] [])) Eq
          ((resolve host tree cli nodePath).run j) ((resolve host tree other nodePath).run j)) ∧
      (∀ value, Named cli → Accepted host tree cli .disableServerTls →
        Field.disableServerTls.Accepts value →
        Paired (OutcomeBy (Beside [.disableServerTls] [.disableServerTls])) Eq
          ((resolve host tree cli nodePath).run j)
          ((resolve host tree (assign cli Field.disableServerTls.name value) nodePath).run j)) ∧
      (∀ address flaw, ((resolve host tree cli nodePath).run j).1 ≠
        .error (.config (.listenInterface address flaw))) ∧
      ∀ c after, (resolve host tree cli nodePath).run j = (.ok (.proceed c), after) →
        (∃ e, Address.split (c.settings.values .rpcConnect) = .ok e) ∧
          ∀ address ∈ c.settings.values .rpcListeners, ∃ e, Address.split address = .ok e := by
  refine ⟨fun address port text => Address.split_of_normalize, ?_⟩
  intro host tree cli nodePath j
  refine ⟨fun other same => ?_, fun value named accepted valid => ?_, ?_, fun c after done => ?_⟩
  · exact resolve_sameBut (by decide) same j
  · refine resolve_assign (by decide) named (fun missing => ?_) accepted valid j
    exact absurd (defaultOf?_eq_none_iff.1 missing).2 (by decide)
  · rw [yields_resolve j.table host tree nodePath cli j.entries]
    exact spares_verdict cli
  · exact endpoints_of_resolve done

section Example

def tlsOptions (off : Bool) : Entries := [(Field.disableServerTls.name, .flag off)]

theorem accepts_flag (b : Bool) : Field.disableServerTls.Accepts (.flag b) := ⟨b, rfl⟩

theorem sameBut_tlsOptions (off other : Bool) :
    SameBut [.disableServerTls] (tlsOptions off) (tlsOptions other) :=
  .cons ⟨rfl, .inr ⟨.disableServerTls, List.mem_cons_self, rfl, accepts_flag _, accepts_flag _⟩⟩ .nil

set_option maxRecDepth 20000 in
theorem accepted_bare : Accepted .plain (FileTree.bare ["work"]) [] .disableServerTls := by
  rintro file (rfl | ⟨path, contents, reads, loaded, rfl⟩) value counts
  · cases counts
  · rw [reads.values_eq_nil loaded (by decide +kernel)] at counts
    cases counts

set_option maxRecDepth 20000 in
theorem local_addresses_with_and_without_tls :
    (∃ e, Address.split "localhost:9244" = .ok e) ∧ ∃ c d e after,
      (resolve .plain (FileTree.bare ["work"]) [] none).run (.start .standard) =
        (.ok (.proceed c), after) ∧
      (resolve .plain (FileTree.bare ["work"]) (tlsOptions true) none).run (.start .standard) =
        (.ok (.proceed d), after) ∧
      (resolve .plain (FileTree.bare ["work"]) (tlsOptions false) none).run (.start .standard) =
        (.ok (.proceed e), after) ∧
      Beside [.disableServerTls] [.disableServerTls] c.settings d.settings ∧
      Beside [.disableServerTls] [] d.settings e.settings ∧
      ∃ endpoint, Address.split (c.settings.values .rpcConnect) = .ok endpoint := by
  obtain ⟨normalized, resolutions⟩ := resolved_addresses_are_endpoints
  refine ⟨normalized "localhost" "9244" _ rfl, ?_⟩
  obtain ⟨c, after, done, -⟩ := exists_configuration
    (by decide +kernel : proceedsOn .mainnet ((resolve .plain (FileTree.bare ["work"]) [] none).run
      (.start .standard)).1 = true)
  obtain ⟨-, given, -, endpoints⟩ :=
    resolutions .plain (FileTree.bare ["work"]) [] none (.start .standard)
  obtain ⟨changed, -⟩ :=
    resolutions .plain (FileTree.bare ["work"]) (tlsOptions true) none (.start .standard)
  have first := given (.flag true) named_nil accepted_bare (accepts_flag true)
  obtain ⟨d, doneWithout, absent⟩ := exists_paired_configuration first done
  have second := changed _ (sameBut_tlsOptions true false)
  obtain ⟨e, doneWith, flipped⟩ := exists_paired_configuration second doneWithout
  exact ⟨c, d, e, after, done, doneWithout, doneWith, absent, flipped, (endpoints c after done).1⟩

end Example

end Resolution

end WalletSetup
