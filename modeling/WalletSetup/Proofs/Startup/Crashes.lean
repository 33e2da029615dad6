import WalletSetup.Proofs.Resolution.Certificate
import WalletSetup.Proofs.Startup.Course

/-! When a run crashes that has come to a configuration: with a log directory that is no template, a
host that cannot encrypt, a lookup that is refused, or a wallet beyond the limits of its readers.
Every other failure about the wallet is logged, and the run exits with code one. -/

set_option autoImplicit false

namespace WalletSetup.Startup

open WalletSetup.Act WalletSetup.Data WalletSetup.Wallet

variable {host : Host} {c : Configuration} {m : Machine}

/-- The run from this configuration on meets a failure that no step takes care of. -/
inductive Crashes (host : Host) (c : Configuration) (m : Machine) : Prop where
  | logName {flaw : Path.Template.Flaw}
      (named : logPath host.stamp m.files.working (c.settings.values .logDir) = .error flaw)
  | sealing {ready after : Machine} {flaw : SealFlaw}
      (began : (announce host c).run m = (.ok (), ready))
      (failed : (Bootstrap.run host (createWallet host) c).run ready =
        (.error (.create (.encryption flaw)), after))
      (unfit : Unsealable host flaw)
  | wallet {ready before : Machine} {failure : Failure}
      (began : (announce host c).run m = (.ok (), ready))
      (done : (Bootstrap.run host (createWallet host) c).run ready =
        (.ok (.proceed c), before))
      (fault : (Opening.of before.files c.settings c.network).IsFault failure)

/-- The wallet cannot be looked for, is not there or does not open, on a machine that has come so
far. -/
inductive WalletFails (host : Host) (c : Configuration) (m : Machine) : Machine → Prop where
  | unchecked {ready after : Machine} {path : String} {error : OsError}
      (began : (announce host c).run m = (.ok (), ready))
      (failed : (Bootstrap.run host (createWallet host) c).run ready =
        (.error (.unchecked path error), after)) :
    WalletFails host c m after
  | unopened {ready before : Machine}
      (began : (announce host c).run m = (.ok (), ready))
      (done : (Bootstrap.run host (createWallet host) c).run ready =
        (.ok (.proceed c), before))
      (unopened : ∀ info, Opening.of before.files c.settings c.network ≠ .opened info) :
    WalletFails host c m before

theorem ending_failure {result : Except Stop Unit} {failure : Failure}
    (crashed : (ending result).failure = some failure) : result = .error (.crash failure) := by
  rcases result with (⟨code, hint⟩ | other) | done
  · cases crashed
  · cases crashed
    rfl
  · cases crashed

section Course

variable {result : Except Stop Unit} {after : Machine}

theorem Course.crashes {failure : Failure} (course : Course host c m (result, after))
    (crashed : result = .error (.crash failure)) : Crashes host c m := by
  cases course with
  | unnamed named => exact .logName named
  | unlogged => cases crashed
  | unmade => cases crashed
  | unsealed began failed unfit => exact .sealing began failed unfit
  | made => cases crashed
  | looked journal began done look =>
    exact .wallet began done (look ▸ Opening.ends_eq_crash_iff.1 crashed)

/-- Without a crash a run ends with code zero or one, and with no hint. -/
theorem Course.orderly (course : Course host c m (result, after))
    (sound : (ending result).failure = none) :
    ending result = ⟨0, false, none⟩ ∨ ending result = ⟨1, false, none⟩ := by
  cases course with
  | unnamed => cases sound
  | unlogged => exact .inr rfl
  | unmade => exact .inr rfl
  | unsealed => cases sound
  | made => exact .inl rfl
  | @looked _ before found journal began done look =>
    cases found with
    | barred => cases sound
    | beyond => cases sound
    | opened => exact .inl rfl
    | _ => exact .inr rfl

end Course

theorem Crashes.crashed (crash : Crashes host c m) : ∃ failure after,
    (settled host (createWallet host) c).run m = (.error (.crash failure), after) := by
  cases crash with
  | logName named => exact ⟨_, _, settled_of_unnamed named⟩
  | sealing began failed => exact ⟨_, _, settled_of_unsealed began failed⟩
  | wallet began done fault =>
    obtain ⟨journal, same⟩ := settled_of_proceed began done
    rw [Opening.ends_eq_crash_iff.2 fault] at same
    exact ⟨_, _, same⟩

/-- A failure about the wallet that is no crash is an error that is logged. -/
theorem settled_of_walletFails (orderly : ¬ Crashes host c m) {reached : Machine}
    (fails : WalletFails host c m reached) :
    ∃ message journal, (settled host (createWallet host) c).run m = (.error (.exit 1 false),
      { reached with journal := Log.Journal.add journal (Opening.complaint message) }) := by
  cases fails with
  | @unchecked ready after path error began failed =>
    have arises : Bootstrap.Error.Arises (fun _ => True) (.unchecked path error) :=
      .unchecked path error
    obtain ⟨journal, reported, same⟩ := settled_of_error began failed arises (by nofun)
    cases reported with
    | complaint _ message => exact ⟨message, _, same⟩
  | unopened began done unopened =>
    obtain ⟨journal, same⟩ := settled_of_proceed began done
    obtain ⟨ends, first, message, records⟩ := Opening.ends_of_not_opened
      (fun failure fault => orderly (.wallet began done fault)) unopened c.walletDirectory c.network
    refine ⟨message, journal.addAll first, ?_⟩
    rw [same, ends, records, Log.Journal.addAll, List.foldl_append]
    rfl

section Run

variable {arguments : List String} {cli : Entries} {middle : Machine}

/-- After a resolution that comes to a configuration, a run crashes in the cases that are told and
in no others; else it ends with code zero or one. A failure to look up, read or decode the wallet is
then logged as an error and ends the run with code one. -/
theorem startup_crashes_iff (parsed : parse arguments = .ok (.run cli))
    (resolved : (resolve host cli).run m = (.ok (.proceed c), middle)) :
    ((run host arguments m).1.failure ≠ none ↔ Crashes host c middle) ∧
    ((run host arguments m).1.failure = none → (run host arguments m).1 = ⟨0, false, none⟩ ∨
      (run host arguments m).1 = ⟨1, false, none⟩) ∧
    (¬ Crashes host c middle → ∀ reached, WalletFails host c middle reached →
      (run host arguments m).1 = ⟨1, false, none⟩ ∧ ∃ message journal,
        (run host arguments m).2 =
          { reached with journal := Log.Journal.add journal (Opening.complaint message) }) := by
  obtain ⟨result, after, course, ended⟩ := run_course parsed resolved
  refine ⟨⟨fun crashed => ?_, fun crash => ?_⟩, ?_, fun orderly reached fails => ?_⟩
  · rw [ended] at crashed
    obtain ⟨failure, crashed⟩ := Option.ne_none_iff_exists'.1 crashed
    exact course.crashes (ending_failure crashed)
  · obtain ⟨failure, stopped, crashed⟩ := crash.crashed
    rw [run_of_settled parsed resolved crashed]
    nofun
  · rw [ended]
    exact course.orderly
  · obtain ⟨message, journal, same⟩ := settled_of_walletFails orderly fails
    rw [run_of_settled parsed resolved same]
    exact ⟨rfl, message, journal, rfl⟩

end Run

def walletArguments : List String := ["--noclienttls", "-A", "/w", "-C", "/none"]

def walletOptions : Entries :=
  [("config_file", .text "/none"), ("app_data_dir", .text "/w"), ("disable_client_tls", .flag true)]

def machineWith (place : Place) (node : Node) : Machine :=
  .start ((FileTree.bare ["work"]).plant place node) 0 (.start [] none)

def barredMachine : Machine := machineWith ["w"] (.directory 0o755 true false)

def garbledMachine : Machine :=
  machineWith ["w", "mainnet", "wallet.db"] (.file 0o600 [255] false)

theorem parse_walletArguments : parse walletArguments = .ok (.run walletOptions) := by
  rfl

set_option maxRecDepth 20000 in
/-- Bytes that are no text do not crash the run. -/
theorem garbled_wallet_is_reported :
    ∃ c middle, (resolve .plain walletOptions).run garbledMachine = (.ok (.proceed c), middle) ∧
      ¬ Crashes .plain c middle ∧
      (run .plain walletArguments garbledMachine).1 = ⟨1, false, none⟩ := by
  obtain ⟨c, middle, resolved, -⟩ := Resolution.exists_shown (fun _ => ())
    (by decide +kernel : Resolution.shown? (fun _ => ())
      ((resolve .plain walletOptions).run garbledMachine).1 = some ())
  have ended : (run .plain walletArguments garbledMachine).1 = ⟨1, false, none⟩ := by
    decide +kernel
  have crashes := (startup_crashes_iff parse_walletArguments resolved).1
  rw [ended] at crashes
  exact ⟨c, middle, resolved, fun crash => crashes.2 crash rfl, ended⟩

set_option maxRecDepth 20000 in
/-- The wallet is looked for in a directory that lets nobody through. -/
theorem barred_lookup_crashes :
    ¬ ∀ (host : Host) (arguments : List String) (m : Machine) (cli : Entries) (c : Configuration)
      (middle : Machine), parse arguments = .ok (.run cli) →
      (resolve host cli).run m = (.ok (.proceed c), middle) →
        (run host arguments m).1.failure = none := by
  intro orderly
  obtain ⟨c, middle, resolved, -⟩ := Resolution.exists_shown (fun _ => ())
    (by decide +kernel : Resolution.shown? (fun _ => ())
      ((resolve .plain walletOptions).run barredMachine).1 = some ())
  have crashed : (run .plain walletArguments barredMachine).1.failure =
      some (.os ⟨.permissionDenied, some "/w/mainnet/wallet.db"⟩) := by decide +kernel
  have none := orderly _ _ _ _ _ _ parse_walletArguments resolved
  rw [crashed] at none
  cases none

end WalletSetup.Startup
