import WalletSetup.Proofs.Bootstrap.Failures
import WalletSetup.Proofs.Resolution.Derivation
import WalletSetup.Proofs.Startup.Effects

/-! Runs that leave the machine as it was. A fault in the configuration is found before anything is
done: the flags for new wallets are checked again later, and pass. -/

set_option autoImplicit false

namespace WalletSetup

open WalletSetup.Act WalletSetup.Data

namespace Startup

def Stop.NoHint : Stop → Prop
  | .exit _ hint => hint = false
  | .crash _ => True

variable {α : Type} {creator : Wallet.Creator}

theorem stop_fails (code : Nat) : Fails Stop.NoHint (stop code : Run α) := .throw rfl

theorem fail_fails (message : String) : Fails Stop.NoHint (fail message : Run α) :=
  .bind (.modify _) fun _ => stop_fails 1

theorem startLog_fails (host : Host) (s : Settings) : Fails Stop.NoHint (startLog host s) := by
  refine .bind .get fun m => ?_
  split
  · exact .throw trivial
  · refine .bind .get fun _ => ?_
    refine .bind (.modify _) fun _ => ?_
    split
    · exact fail_fails _
    · exact .modify _

theorem reportMissing_fails (c : Configuration) :
    Fails Stop.NoHint (reportMissing c : Run Unit) := by
  unfold reportMissing
  split
  · exact .pure _
  · exact .modify _

theorem handling_fails {ε : Type} {act : Act ε α} {handle : ε → Run α} {p : Stop → Prop}
    (handled : ∀ m after e, act.run m = (.error e, after) → Fails p (handle e)) :
    Fails p (handling act handle) := by
  intro m after e same
  rw [run_handling] at same
  rcases ended : act.run m with ⟨failed | a, middle⟩
  · rw [ended] at same
    exact handled _ _ _ ended _ _ _ same
  · rw [ended] at same
    cases same

theorem bootstrap_fails (host : Host) {c : Configuration}
    (checked : Bootstrap.checkFlags c.settings c.network = .ok ()) :
    Fails Stop.NoHint (bootstrap host creator c) := by
  apply handling_fails
  intro m after e failed
  have arises : Bootstrap.Error.Arises (fun _ => True) e :=
    Bootstrap.run_fails (fun _ _ _ _ _ => trivial) host checked _ _ _ failed
  split
  · cases arises
  · exact stop_fails 1
  · exact fail_fails _
  · exact .throw trivial
  · exact fail_fails _

theorem openWallet_fails (s : Settings) (net : Network) :
    Fails Stop.NoHint (openWallet s net) := by
  refine .bind .get fun m => ?_
  split
  · exact .throw trivial
  · exact fail_fails _
  · refine .bind (handling_fails fun _ _ e _ => ?_) fun info => ?_
    · split
      · exact .throw trivial
      · exact fail_fails _
    · split
      · exact .bind (fail_fails _) fun _ => .modify _
      · exact .modify _

theorem conclude_fails (outcome : Outcome) : Fails Stop.NoHint (conclude outcome) := by
  cases outcome with
  | finish code message =>
    unfold conclude leave
    dsimp only
    split
    · exact .bind (.modify _) fun _ => stop_fails code
    · exact stop_fails code
  | proceed c =>
    refine .bind ?_ fun _ => openWallet_fails _ _
    unfold logSummary
    dsimp only
    refine .bind (.modify _) fun _ => .bind (.modify _) fun _ => .bind (.modify _) fun _ => ?_
    exact .bind (.modify _) fun _ => .bind (.modify _) fun _ => .bind (.modify _) fun _ => .modify _

theorem settled_fails (host : Host) {c : Configuration}
    (checked : Bootstrap.checkFlags c.settings c.network = .ok ()) :
    Fails Stop.NoHint (settled host creator c) :=
  .bind (startLog_fails host _) fun _ => .bind (reportMissing_fails c) fun _ =>
    .bind (bootstrap_fails host checked) conclude_fails

theorem resolveOn_result (host : Host) (cli : Entries) (m : Machine) :
    ((resolveOn host cli none).run m).1 =
      Resolution.verdict host m.files cli none m.journal.table :=
  Resolution.yields_resolve m.journal.table host m.files none cli m.journal.entries

section Proceed

variable {host : Host} {cli : Entries} {m after : Machine}

theorem proceed_of_config (creator : Wallet.Creator) {error : ConfigError}
    (failed : (resolveOn host cli none).run m = (.error (.config error), after)) :
    ∃ journal, (proceed host creator cli).run m =
      (.error (.exit 1 true), { m with journal }) := by
  have silent := resolveOn_silent host cli none m
  rw [failed] at silent
  obtain ⟨journal, rfl⟩ := silent
  refine ⟨journal.add ⟨"main", .error, error.message⟩, ?_⟩
  rw [proceed_eq, run_bind, resolve, run_handling, failed]
  rfl

theorem proceed_of_finish (creator : Wallet.Creator) {code : Nat} {message : String}
    (resolved : (resolveOn host cli none).run m = (.ok (.finish code message), after)) :
    ∃ journal, (proceed host creator cli).run m = (leave code message).run { m with journal } := by
  have silent := resolveOn_silent host cli none m
  rw [resolved] at silent
  obtain ⟨journal, rfl⟩ := silent
  refine ⟨journal, ?_⟩
  rw [proceed_eq, run_bind, resolve, run_handling, resolved]

/-- Only a fault in the configuration leads to the hint. -/
theorem proceed_hint {code : Nat}
    (hinted : (proceed host creator cli).run m = (.error (.exit code true), after)) :
    ∃ error middle, (resolveOn host cli none).run m = (.error (.config error), middle) := by
  rw [proceed_eq] at hinted
  rcases resolved : (resolveOn host cli none).run m with ⟨error | outcome, middle⟩
  · cases error with
    | config error => exact ⟨error, middle, rfl⟩
    | _ =>
      rw [run_bind, resolve, run_handling, resolved] at hinted
      cases hinted
  · rw [run_bind, resolve, run_handling, resolved] at hinted
    have found := resolveOn_result host cli m
    rw [resolved] at found
    -- Past the resolution the flags have been checked, so that no later step gives the hint.
    cases outcome with
    | finish code message =>
      exact absurd (conclude_fails (.finish code message) _ _ _ hinted) (by simp [Stop.NoHint])
    | proceed c =>
      cases Resolution.verdict_succeeds found.symm with
      | proceed c checked =>
        exact absurd (settled_fails host checked _ _ _ hinted) (by simp [Stop.NoHint])

end Proceed

def IsNotice (message : String) : Prop :=
  message = Resolution.versionMessage ∨ ∃ names, message = Log.supportedMessage names

theorem IsNotice.nonempty {message : String} (notice : IsNotice message) :
    message.isEmpty = false := by
  rcases notice with rfl | ⟨names, rfl⟩
  · decide +kernel
  · apply Bool.eq_false_iff.2
    intro empty
    have lead : "Supported subsystems " ≠ "" := by decide +kernel
    exact lead (String.append_eq_empty_iff.1 (String.isEmpty_iff.1 empty)).1

theorem isNotice_of_finish {host : Host} {cli : Entries} {m : Machine} {code : Nat}
    {message : String}
    (resolved : ((resolveOn host cli none).run m).1 = .ok (.finish code message)) :
    code = 0 ∧ IsNotice message := by
  rw [resolveOn_result] at resolved
  cases Resolution.verdict_succeeds resolved with
  | version => exact ⟨rfl, .inl rfl⟩
  | levels => exact ⟨rfl, .inr ⟨_, rfl⟩⟩

section Run

variable {host : Host} {arguments : List String} {m : Machine} {cli : Entries}

theorem run_of_config_error {error : ConfigError} (read : parse arguments = .ok (.run cli))
    (failed : ((resolveOn host cli none).run m).1 = .error (.config error)) :
    ∃ journal, run host arguments m = (⟨1, true, none⟩, { m with journal }) := by
  obtain ⟨journal, same⟩ := proceed_of_config (Wallet.createWallet host) (Prod.ext failed rfl)
  refine ⟨journal, ?_⟩
  unfold run
  rw [read]
  dsimp only
  rw [same]
  rfl

theorem config_error_of_hint (shown : (run host arguments m).1.hint = true) :
    ∃ cli error, parse arguments = .ok (.run cli) ∧
      ((resolveOn host cli none).run m).1 = .error (.config error) := by
  unfold run at shown
  split at shown
  · cases shown
  · cases shown
  · next cli read =>
    rcases ended : (proceed host (Wallet.createWallet host) cli).run m with
      ⟨⟨code, hint⟩ | failure | done, after⟩
    · rw [ended] at shown
      cases shown
      obtain ⟨error, middle, failed⟩ := proceed_hint ended
      exact ⟨cli, error, read, congrArg Prod.fst failed⟩
    · rw [ended] at shown
      cases shown
    · rw [ended] at shown
      cases shown

theorem run_of_notice {code : Nat} {message : String} (read : parse arguments = .ok (.run cli))
    (resolved : ((resolveOn host cli none).run m).1 = .ok (.finish code message)) :
    IsNotice message ∧ ∃ journal, run host arguments m =
      (⟨0, false, none⟩, { m with journal, terminal := m.terminal.print (message ++ "\n") }) := by
  obtain ⟨rfl, notice⟩ := isNotice_of_finish resolved
  obtain ⟨journal, same⟩ := proceed_of_finish (Wallet.createWallet host) (Prod.ext resolved rfl)
  refine ⟨notice, journal, ?_⟩
  unfold run
  rw [read]
  dsimp only
  rw [same, leave, notice.nonempty]
  rfl

end Run

/-- A run ends with the hint exactly when its options resolve to a fault in the configuration. Then
nothing but the journal has changed. Where the options ask for the version or the subsystems, no
more than the message has been printed. -/
theorem config_error_leaves_machine (host : Host) (arguments : List String) (m : Machine) :
    ((run host arguments m).1.hint = true ↔ ∃ cli error, parse arguments = .ok (.run cli) ∧
      ((resolveOn host cli none).run m).1 = .error (.config error)) ∧
    ((run host arguments m).1.hint = true → (run host arguments m).1 = ⟨1, true, none⟩ ∧
      ∃ journal, (run host arguments m).2 = { m with journal }) ∧
    ∀ cli code message, parse arguments = .ok (.run cli) →
      ((resolveOn host cli none).run m).1 = .ok (.finish code message) →
      IsNotice message ∧ (run host arguments m).1 = ⟨0, false, none⟩ ∧ ∃ journal,
        (run host arguments m).2 =
          { m with journal, terminal := m.terminal.print (message ++ "\n") } := by
  refine ⟨⟨config_error_of_hint, ?_⟩, ?_, ?_⟩
  · rintro ⟨cli, error, read, failed⟩
    obtain ⟨journal, same⟩ := run_of_config_error read failed
    rw [same]
  · intro shown
    obtain ⟨cli, error, read, failed⟩ := config_error_of_hint shown
    obtain ⟨journal, same⟩ := run_of_config_error read failed
    rw [same]
    exact ⟨rfl, journal, rfl⟩
  · intro cli code message read resolved
    obtain ⟨notice, journal, same⟩ := run_of_notice read resolved
    rw [same]
    exact ⟨notice, rfl, journal, rfl⟩

def idleMachine : Machine := .start (.bare ["work"]) 0 (.start ["yes\n"] none)

theorem conflict_and_version_leave_machine :
    ((run .plain ["--testnet", "--regtest"] idleMachine).1 = ⟨1, true, none⟩ ∧ ∃ journal,
      (run .plain ["--testnet", "--regtest"] idleMachine).2 = { idleMachine with journal }) ∧
    (run .plain ["--version"] idleMachine).1 = ⟨0, false, none⟩ :=
  ⟨(config_error_leaves_machine .plain ["--testnet", "--regtest"] idleMachine).2.1
      (by decide +kernel),
    ((config_error_leaves_machine .plain ["--version"] idleMachine).2.2
      [("show_version", .flag true)] 0 Resolution.versionMessage rfl rfl).2.1⟩

end Startup

end WalletSetup
