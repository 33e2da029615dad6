import WalletSetup.Proofs.Resolution.Notices
import WalletSetup.Proofs.Startup.Course

/-! What exit code zero stands for: a notice was asked for, a wallet was asked for and made, or the
wallet opens and is one of the network. A simulation wallet that a run makes it also opens. -/

set_option autoImplicit false

namespace WalletSetup.Startup

open WalletSetup.Act WalletSetup.Data WalletSetup.Wallet

variable {host : Host} {cli : Entries} {c : Configuration} {m middle : Machine}

/-- There is a file that is no log and was not there. -/
def MadeFile (before after : FileTree) : Prop :=
  ∃ place mode content denied, after.get? place = some (.file mode content denied) ∧
    before.get? place ≠ some (.file mode content denied)

theorem not_madeFile {before after : FileTree} (furnished : before.Furnishes after) :
    ¬ MadeFile before after := by
  rintro ⟨place, mode, content, denied, there, absent⟩
  exact absent (furnished.files there)

/-- What a run that ends with code zero has come to on the machine after it. -/
inductive Success (host : Host) (cli : Entries) (m after : Machine) : Prop where
  | notice {middle : Machine} (message : String)
      (resolved : (resolve host cli).run m = (.ok (.finish 0 message), middle))
      (asked : Resolution.Asked host m.files cli m.journal.table message)
      (unchanged : after.files = m.files)
  | created {c : Configuration} {middle : Machine} (place : Place) (content : Text.Bytes)
      (resolved : (resolve host cli).run m = (.ok (.proceed c), middle))
      (wanted : (c.settings.values .create : Bool) = true)
      (absent : m.files.present c.walletPath = .ok false) (free : m.files.get? place = none)
      (reached : after.files.resolve c.walletPath = .ok place)
      (there : after.files.get? place = some (.file ownerMode content false))
  | opened {c : Configuration} {middle : Machine} (info : Info)
      (resolved : (resolve host cli).run m = (.ok (.proceed c), middle))
      (opens : Wallet.openWallet after.files c.walletDirectory
        (Bootstrap.publicPassphrase c.settings) = .ok info)
      (network : info.network = .text c.network.name)

theorem announce_furnishes {result : Except Stop Unit} {ready : Machine}
    (began : (announce host c).run m = (result, ready)) : m.files.Furnishes ready.files := by
  have announced := announce_announced host c m
  rw [began] at announced
  cases announced with
  | unnamed => exact .rfl
  | unlogged => exact openLog_furnishes _ _
  | logged => exact openLog_furnishes _ _

theorem resolve_files {outcome : Outcome}
    (resolved : (resolve host cli).run m = (.ok outcome, middle)) : middle.files = m.files := by
  obtain ⟨journal, -, rfl⟩ := resolve_eq_ok resolved
  rfl

section Course

variable {result : Except Stop Unit} {after : Machine}

theorem Course.success (course : Course host c middle (result, after))
    (resolved : (resolve host cli).run m = (.ok (.proceed c), middle))
    (done : (ending result).code = 0) : Success host cli m after := by
  -- Only two of the ways end with code zero: a wallet has been made, or one has been opened.
  cases course with
  | unnamed => cases done
  | unlogged => cases done
  | unmade => cases done
  | unsealed => cases done
  | @made ready _ began made =>
    have furnished := announce_furnishes began
    rw [resolve_files resolved] at furnished
    have finished := Bootstrap.run_ended host c ready
    rw [made] at finished
    cases finished with
    | fulfilled wanted absent made =>
      have wrote := (Bootstrap.fulfil_wrote made).preceded furnished
      obtain ⟨place, content, reached, there, free⟩ := wrote.fresh
      exact .created place content resolved wanted (furnished.toGrows.present_eq_false absent) free
        reached there
  | @looked _ _ found _ _ _ look =>
    cases found with
    | opened info =>
      obtain ⟨-, opens, network⟩ := Opening.of_eq_opened_iff.1 look
      exact .opened info resolved opens network
    | _ => cases done

/-- With a simulation asked for, a file is made only where the wallet is made and opened. -/
theorem Course.opens_made {n : Int} (clock : Time.Instant.ofSeconds n = .ok host.now)
    (checked : Bootstrap.checkFlags c.settings c.network = .ok ())
    (wanted : (c.settings.values .createTemp : Bool) = true)
    (course : Course host c m (result, after)) (made : MadeFile m.files after.files) :
    ending result = ⟨0, false, none⟩ ∧ ∃ info, Wallet.openWallet after.files c.walletDirectory
      (Bootstrap.publicPassphrase c.settings) = .ok info ∧ info.network = .text c.network.name := by
  -- What fails leaves no file behind.
  have failed {ready stopped : Machine} {e : Bootstrap.Error}
      (began : (announce host c).run m = (.ok (), ready))
      (refused : (Bootstrap.run host (createWallet host) c).run ready = (.error e, stopped))
      (made : MadeFile m.files stopped.files) : False := by
    have furnished := Bootstrap.run_failsWithin (createWallet_failsWithin host) _ _ _ _ _ refused
    exact not_madeFile ((announce_furnishes began).trans furnished.files) made
  cases course with
  | unnamed => exact absurd made (not_madeFile .rfl)
  | unlogged refused => exact absurd made (not_madeFile (announce_furnishes refused))
  | unmade began refused => exact (failed began refused made).elim
  | unsealed began refused => exact (failed began refused made).elim
  | @made ready _ began done =>
    have finished := Bootstrap.run_ended host c ready
    rw [done] at finished
    cases finished with
    | fulfilled both =>
      rw [Bootstrap.createTemp_eq_false checked both] at wanted
      cases wanted
  | @looked ready before found _ began proceeds look =>
    have furnished := announce_furnishes began
    have finished := Bootstrap.run_ended host c ready
    rw [proceeds] at finished
    cases finished with
    | idle _ unwanted =>
      rw [unwanted] at wanted
      cases wanted
    | loaded _ _ loaded => exact absurd made (not_madeFile (furnished.trans loaded.files))
    | simulated _ _ simulated =>
      have recovers := Bootstrap.simulate_recovers clock wanted simulated
      obtain ⟨passphrase, seed, birthday, -, holds⟩ := recovers
      have opens := (holds before.files .rfl).1
      have seen := Opening.of_eq_opened_iff.2
        ⟨(Bootstrap.simulate_wrote simulated).present, opens, rfl⟩
      rw [look] at seen
      rw [seen]
      exact ⟨rfl, _, opens, rfl⟩

end Course

theorem resolve_exit {stopped : Stop}
    (failed : (resolve host cli).run m = (.error stopped, middle)) :
    (ending (.error stopped)).code = 1 := by
  rw [resolve, run_handling] at failed
  rcases ended : (resolveOn host cli none).run m with ⟨e | outcome, after⟩
  · rw [ended] at failed
    cases e <;> cases failed <;> rfl
  · rw [ended] at failed
    cases failed

theorem leave_files (code : Nat) (message : String) (m : Machine) :
    (ending ((leave code message).run m).1).code = code ∧
      ((leave code message).run m).2.files = m.files := by
  unfold leave
  split <;> exact ⟨rfl, rfl⟩

/-- Code zero is never that of a failure: it stands for a notice, for a wallet that was asked for
and made where none was, or for one that opens and is of the network. A run that makes a wallet for
a simulation opens it and ends so. The clock is taken to tell whole seconds. -/
theorem exit_zero_is_success {arguments : List String}
    (parsed : parse arguments = .ok (.run cli)) :
    ((run host arguments m).1.code = 0 → Success host cli m (run host arguments m).2) ∧
    ∀ c middle n, (resolve host cli).run m = (.ok (.proceed c), middle) →
      (c.settings.values .createTemp : Bool) = true → Time.Instant.ofSeconds n = .ok host.now →
      MadeFile m.files (run host arguments m).2.files →
        (run host arguments m).1 = ⟨0, false, none⟩ ∧
        ∃ info, Wallet.openWallet (run host arguments m).2.files c.walletDirectory
          (Bootstrap.publicPassphrase c.settings) = .ok info ∧
            info.network = .text c.network.name := by
  constructor
  · intro done
    rcases resolved : (resolve host cli).run m with ⟨stopped | outcome, middle⟩
    · have ended : (run host arguments m).1 = ending (.error stopped) := by
        rw [run_eq parsed, proceed_eq, run_bind, resolved]
      rw [ended, resolve_exit resolved] at done
      cases done
    · cases outcome with
      | finish code message =>
        have ended : run host arguments m =
            (ending ((leave code message).run middle).1, ((leave code message).run middle).2) := by
          rw [run_eq parsed, proceed_eq, run_bind, resolved]
        obtain ⟨left, files⟩ := leave_files code message middle
        rw [ended] at done ⊢
        dsimp only at done ⊢
        rw [left] at done
        subst done
        obtain ⟨journal, found, -⟩ := resolve_eq_ok resolved
        have asked := (Resolution.resolve_finish found).2
        exact .notice message resolved asked (files.trans (resolve_files resolved))
      | proceed c =>
        obtain ⟨result, after, course, same⟩ := run_course parsed resolved
        rw [same] at done ⊢
        exact course.success resolved done
  · intro c middle n resolved wanted clock made
    obtain ⟨result, after, course, same⟩ := run_course parsed resolved
    rw [same] at made ⊢
    rw [← resolve_files resolved] at made
    exact course.opens_made clock (resolved_checked resolved) wanted made

def simulates (host : Host) (cli : Entries) (m : Machine) (place : Place) : Bool :=
  match (resolve host cli).run m with
  | (.ok (.proceed c), middle) => match (announce host c).run middle with
    | (.ok (), ready) => match (Bootstrap.run host (createWallet host) c).run ready with
      | (.ok (.proceed _), before) => match before.files.get? place with
        | some (.file ..) => c.settings.values .createTemp
        | _ => false
      | _ => false
    | _ => false
  | _ => false

theorem simulates_eq_true {place : Place} (simulated : simulates host cli m place = true) :
    ∃ c middle ready before mode content denied,
      (resolve host cli).run m = (.ok (.proceed c), middle) ∧
      (announce host c).run middle = (.ok (), ready) ∧
      (Bootstrap.run host (createWallet host) c).run ready = (.ok (.proceed c), before) ∧
      before.files.get? place = some (.file mode content denied) ∧
      (c.settings.values .createTemp : Bool) = true := by
  unfold simulates at simulated
  split at simulated
  · next c middle resolved =>
    split at simulated
    · next ready began =>
      split at simulated
      · next other before proceeds =>
        split at simulated
        · next mode content denied found =>
          have finished := Bootstrap.run_ended host c ready
          rw [proceeds] at finished
          have same : (.ok (.proceed other) : Except Bootstrap.Error Outcome) = .ok (.proceed c) := by
            cases finished <;> rfl
          rw [same] at proceeds
          exact ⟨c, middle, ready, before, mode, content, denied, resolved, began, proceeds, found,
            simulated⟩
        · cases simulated
      · cases simulated
    · cases simulated
  · cases simulated

def simulationArguments : List String := ["--createtemp", "--simnet", "-A", "/w"]

def simulationOptions : Entries :=
  [("create_temp", .flag true), ("app_data_dir", .text "/w"), ("simnet", .flag true)]

def emptyMachine : Machine := .start (.bare ["work"]) 0 (.start [] none)

set_option maxRecDepth 20000 in
theorem simulation_succeeds :
    (run .plain simulationArguments emptyMachine).1 = ⟨0, false, none⟩ ∧
      Success .plain simulationOptions emptyMachine
        (run .plain simulationArguments emptyMachine).2 := by
  have parsed : parse simulationArguments = .ok (.run simulationOptions) := by rfl
  obtain ⟨c, middle, ready, before, mode, content, denied, resolved, began, proceeds, found,
    wanted⟩ := simulates_eq_true (by decide +kernel : simulates .plain simulationOptions emptyMachine
      ["w", "simnet", "wallet.db"] = true)
  obtain ⟨success, opens⟩ := @exit_zero_is_success .plain simulationOptions emptyMachine _ parsed
  have made : MadeFile emptyMachine.files (run .plain simulationArguments emptyMachine).2.files := by
    obtain ⟨journal, ended⟩ := settled_of_proceed began proceeds
    rw [run_of_settled parsed resolved ended]
    refine ⟨_, mode, content, denied, found, ?_⟩
    rw [show emptyMachine.files.get? ["w", "simnet", "wallet.db"] = none by decide]
    nofun
  have ended := (opens c middle 1700000000 resolved wanted (by rfl) made).1
  exact ⟨ended, success (by rw [ended])⟩

end WalletSetup.Startup
