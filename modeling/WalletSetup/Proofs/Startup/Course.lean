import WalletSetup.Proofs.Bootstrap.Failures
import WalletSetup.Proofs.Bootstrap.Outcomes
import WalletSetup.Proofs.Startup.Opening
import WalletSetup.Proofs.Startup.Untouched

/-! The course of a run from its configuration to its end, told once: what can go wrong with the log
file, with the flags and with the wallet, and how the run ends then. -/

set_option autoImplicit false

namespace WalletSetup.Startup

open WalletSetup.Act WalletSetup.Data WalletSetup.Wallet

variable {host : Host} {c : Configuration} {m : Machine}

theorem startLog_run (host : Host) (s : Settings) (m : Machine) :
    (startLog host s).run m = match logPath host.stamp m.files.working (s.values .logDir) with
      | .error flaw => (.error (.crash (.logName flaw)), m)
      | .ok path => match openLog m.files path with
        | (files, some e) => (.error (.exit 1 false), { m with
            files, journal := m.journal.add (Opening.complaint
              s!"Unable to open log file in {s.values .logDir}: {e.message}") })
        | (files, none) => (.ok (), { m with files, logFile := some path }) := by
  unfold startLog
  dsimp only
  rw [run_bind, run_get]
  dsimp only
  cases logPath host.stamp m.files.working (s.values .logDir) with
  | error flaw => rfl
  | ok path =>
    dsimp only
    rw [run_bind, run_get]
    dsimp only
    rcases openLog m.files path with ⟨files, refusal⟩
    cases refusal <;> rfl

theorem reportMissing_run (c : Configuration) (m : Machine) :
    ∃ journal, (reportMissing c : Run Unit).run m = (.ok (), { m with journal }) := by
  unfold reportMissing
  split
  · exact ⟨_, rfl⟩
  · exact ⟨_, rfl⟩

theorem logSummary_run (s : Settings) (net : Network) (m : Machine) :
    ∃ journal, (logSummary s net).run m = (.ok (), { m with journal }) := ⟨_, rfl⟩

def announce (host : Host) (c : Configuration) : Run Unit := do
  startLog host c.settings
  reportMissing c

theorem settled_eq (host : Host) (creator : Creator) (c : Configuration) :
    settled host creator c = (do
      announce host c
      conclude (← bootstrap host creator c)) := by
  unfold settled announce
  rw [bind_assoc]

inductive Announced (host : Host) (c : Configuration) (m : Machine) :
    Except Stop Unit × Machine → Prop where
  | unnamed {flaw : Path.Template.Flaw}
      (named : logPath host.stamp m.files.working (c.settings.values .logDir) = .error flaw) :
    Announced host c m (.error (.crash (.logName flaw)), m)
  | unlogged {path : Path.Parts} {journal : Log.Journal}
      (named : logPath host.stamp m.files.working (c.settings.values .logDir) = .ok path) :
    Announced host c m (.error (.exit 1 false), { m with files := (openLog m.files path).1, journal })
  | logged {path : Path.Parts} {journal : Log.Journal}
      (named : logPath host.stamp m.files.working (c.settings.values .logDir) = .ok path) :
    Announced host c m
      (.ok (), { m with files := (openLog m.files path).1, logFile := some path, journal })

theorem announce_announced (host : Host) (c : Configuration) (m : Machine) :
    Announced host c m ((announce host c).run m) := by
  unfold announce
  rw [run_bind, startLog_run]
  cases named : logPath host.stamp m.files.working (c.settings.values .logDir) with
  | error flaw => exact .unnamed named
  | ok path =>
    dsimp only
    rcases opened : openLog m.files path with ⟨files, refusal⟩
    obtain rfl : (openLog m.files path).1 = files := by rw [opened]
    cases refusal with
    | some e => exact .unlogged named
    | none =>
      obtain ⟨journal, same⟩ := reportMissing_run c
        { m with files := (openLog m.files path).1, logFile := some path }
      dsimp only
      rw [same]
      exact .logged named

theorem announce_of_unnamed {flaw : Path.Template.Flaw}
    (named : logPath host.stamp m.files.working (c.settings.values .logDir) = .error flaw) :
    (announce host c).run m = (.error (.crash (.logName flaw)), m) := by
  unfold announce
  rw [run_bind, startLog_run, named]

/-- What the run says of a failure to make a wallet. An aborted prompt has been told already. -/
inductive Reported : Bootstrap.Error → Log.Journal → Log.Journal → Prop where
  | aborted (before : Log.Journal) : Reported (.prompt .aborted) before before
  | complaint {e : Bootstrap.Error} (before : Log.Journal) (message : String)
      (other : e ≠ .prompt .aborted) :
    Reported e before (before.add (Opening.complaint message))

/-- The ways from a configuration to the end of the run. -/
inductive Course (host : Host) (c : Configuration) (m : Machine) :
    Except Stop Unit × Machine → Prop where
  | unnamed {flaw : Path.Template.Flaw}
      (named : logPath host.stamp m.files.working (c.settings.values .logDir) = .error flaw) :
    Course host c m (.error (.crash (.logName flaw)), m)
  | unlogged {stopped : Machine}
      (refused : (announce host c).run m = (.error (.exit 1 false), stopped)) :
    Course host c m (.error (.exit 1 false), stopped)
  | unmade {ready after : Machine} {e : Bootstrap.Error} {journal : Log.Journal}
      (began : (announce host c).run m = (.ok (), ready))
      (failed : (Bootstrap.run host (createWallet host) c).run ready = (.error e, after))
      (orderly : ∀ flaw, e ≠ .create (.encryption flaw))
      (reported : Reported e after.journal journal) :
    Course host c m (.error (.exit 1 false), { after with journal })
  | unsealed {ready after : Machine} {flaw : SealFlaw}
      (began : (announce host c).run m = (.ok (), ready))
      (failed : (Bootstrap.run host (createWallet host) c).run ready =
        (.error (.create (.encryption flaw)), after))
      (unfit : Unsealable host flaw) :
    Course host c m (.error (.crash (.bootstrap (.create (.encryption flaw)))), after)
  | made {ready after : Machine}
      (began : (announce host c).run m = (.ok (), ready))
      (done : (Bootstrap.run host (createWallet host) c).run ready =
        (.ok (.finish 0 ""), after)) :
    Course host c m (.error (.exit 0 false), after)
  | looked {ready before : Machine} {found : Opening} (journal : Log.Journal)
      (began : (announce host c).run m = (.ok (), ready))
      (done : (Bootstrap.run host (createWallet host) c).run ready = (.ok (.proceed c), before))
      (look : Opening.of before.files c.settings c.network = found) :
    Course host c m (found.ends, { before with
      journal := journal.addAll (found.records c.walletDirectory c.network) })

section Stages

variable {ready after : Machine}

theorem settled_of_unnamed {flaw : Path.Template.Flaw}
    (named : logPath host.stamp m.files.working (c.settings.values .logDir) = .error flaw) :
    (settled host (createWallet host) c).run m = (.error (.crash (.logName flaw)), m) := by
  rw [settled_eq, run_bind, announce_of_unnamed named]

variable (began : (announce host c).run m = (.ok (), ready))

include began

theorem settled_of_unsealed {flaw : SealFlaw}
    (failed : (Bootstrap.run host (createWallet host) c).run ready =
      (.error (.create (.encryption flaw)), after)) :
    (settled host (createWallet host) c).run m =
      (.error (.crash (.bootstrap (.create (.encryption flaw)))), after) := by
  rw [settled_eq, run_bind, began]
  dsimp only
  rw [run_bind, bootstrap, run_handling, failed]
  rfl

theorem settled_of_error {e : Bootstrap.Error} {known : CreateError → Prop}
    (failed : (Bootstrap.run host (createWallet host) c).run ready = (.error e, after))
    (arises : Bootstrap.Error.Arises known e)
    (orderly : ∀ flaw, e ≠ .create (.encryption flaw)) :
    ∃ journal, Reported e after.journal journal ∧
      (settled host (createWallet host) c).run m =
        (.error (.exit 1 false), { after with journal }) := by
  rw [settled_eq, run_bind, began]
  dsimp only
  rw [run_bind, bootstrap, run_handling, failed]
  cases arises with
  | unchecked path error => exact ⟨_, .complaint _ _ (by nofun), rfl⟩
  | noDirectory path error => exact ⟨_, .complaint _ _ (by nofun), rfl⟩
  | alreadyExists path => exact ⟨_, .complaint _ _ (by nofun), rfl⟩
  | prompt error =>
    cases error with
    | aborted => exact ⟨_, .aborted _, rfl⟩
    | endOfInput => exact ⟨_, .complaint _ _ (by nofun), rfl⟩
  | create error =>
    cases error with
    | encryption flaw => exact absurd rfl (orderly flaw)
    | _ => exact ⟨_, .complaint _ _ (by nofun), rfl⟩

theorem settled_of_finish
    (done : (Bootstrap.run host (createWallet host) c).run ready = (.ok (.finish 0 ""), after)) :
    (settled host (createWallet host) c).run m = (.error (.exit 0 false), after) := by
  rw [settled_eq, run_bind, began]
  dsimp only
  rw [run_bind, bootstrap, run_handling, done]
  rfl

theorem settled_of_proceed
    (done : (Bootstrap.run host (createWallet host) c).run ready = (.ok (.proceed c), after)) :
    ∃ journal, (settled host (createWallet host) c).run m =
      ((Opening.of after.files c.settings c.network).ends,
        { after with journal := Log.Journal.addAll journal ((Opening.of after.files c.settings
          c.network).records c.walletDirectory c.network) }) := by
  obtain ⟨journal, summarized⟩ := logSummary_run c.settings c.network after
  rw [settled_eq, run_bind, began]
  dsimp only
  rw [run_bind, bootstrap, run_handling, done]
  dsimp only
  rw [conclude, run_bind, summarized]
  dsimp only
  rw [openWallet_run]
  exact ⟨journal, rfl⟩

end Stages

/-- With flags that pass their check, a run takes one of these ways. -/
theorem settled_course (checked : Bootstrap.checkFlags c.settings c.network = .ok ())
    (m : Machine) : Course host c m ((settled host (createWallet host) c).run m) := by
  have announced := announce_announced host c m
  rcases began : (announce host c).run m with ⟨stopped | ⟨⟨⟩⟩, ready⟩
  · rw [settled_eq, run_bind, began]
    rw [began] at announced
    cases announced with
    | unnamed named => exact .unnamed named
    | unlogged named => exact .unlogged began
  · rcases ended : (Bootstrap.run host (createWallet host) c).run ready with ⟨e | outcome, after⟩
    · have arises := Bootstrap.run_fails (createWallet_fails host) host checked _ _ _ ended
      by_cases sealing : ∃ flaw, e = .create (.encryption flaw)
      · obtain ⟨flaw, rfl⟩ := sealing
        rw [settled_of_unsealed began ended]
        cases arises with
        | create _ grounded => exact .unsealed began ended (grounded flaw rfl)
      · have orderly : ∀ flaw, e ≠ .create (.encryption flaw) := not_exists.1 sealing
        obtain ⟨journal, reported, same⟩ := settled_of_error began ended arises orderly
        rw [same]
        exact .unmade began ended orderly reported
    · have look (done : (Bootstrap.run host (createWallet host) c).run ready =
          (.ok (.proceed c), after)) :
          Course host c m ((settled host (createWallet host) c).run m) := by
        obtain ⟨journal, same⟩ := settled_of_proceed began done
        rw [same]
        exact .looked journal began done rfl
      have finished := Bootstrap.run_ended host c ready
      rw [ended] at finished
      cases finished with
      | idle => exact look ended
      | loaded => exact look ended
      | simulated => exact look ended
      | fulfilled =>
        rw [settled_of_finish began ended]
        exact .made began ended

section Run

variable {arguments : List String} {cli : Entries} {middle : Machine}

/-- Whatever the run resolves to, the resolution by itself does, and nothing but the journal tells
of it. -/
theorem resolve_eq_ok {outcome : Outcome}
    (resolved : (resolve host cli).run m = (.ok outcome, middle)) :
    ∃ journal, (Resolution.resolve host m.files cli none).run m.journal = (.ok outcome, journal) ∧
      middle = { m with journal } := by
  rw [resolve, run_handling] at resolved
  rcases ended : (resolveOn host cli none).run m with ⟨e | found, after⟩
  · rw [ended] at resolved
    cases e <;> cases resolved
  · rw [ended] at resolved
    cases resolved
    change (((Resolution.resolve host m.files cli none).run m.journal).1, { m with
      journal := ((Resolution.resolve host m.files cli none).run m.journal).2 }) = _ at ended
    rw [Prod.mk.injEq] at ended
    exact ⟨_, Prod.ext ended.1 rfl, ended.2.symm⟩

theorem resolved_checked (resolved : (resolve host cli).run m = (.ok (.proceed c), middle)) :
    Bootstrap.checkFlags c.settings c.network = .ok () := by
  obtain ⟨journal, done, -⟩ := resolve_eq_ok resolved
  have judged := Resolution.yields_resolve m.journal.table host m.files none cli m.journal.entries
  rw [done] at judged
  cases Resolution.verdict_succeeds judged.symm with
  | proceed c checked => exact checked

theorem run_eq (parsed : parse arguments = .ok (.run cli)) :
    run host arguments m = (ending ((proceed host (createWallet host) cli).run m).1,
      ((proceed host (createWallet host) cli).run m).2) := by
  unfold run
  rw [parsed]
  rfl

theorem run_of_settled {result : Except Stop Unit} {after : Machine}
    (parsed : parse arguments = .ok (.run cli))
    (resolved : (resolve host cli).run m = (.ok (.proceed c), middle))
    (ended : (settled host (createWallet host) c).run middle = (result, after)) :
    run host arguments m = (ending result, after) := by
  rw [run_eq parsed, proceed_eq, run_bind, resolved]
  dsimp only
  rw [ended]

/-- A run whose options resolve to a configuration takes its course from there. -/
theorem run_course (parsed : parse arguments = .ok (.run cli))
    (resolved : (resolve host cli).run m = (.ok (.proceed c), middle)) :
    ∃ result after, Course host c middle (result, after) ∧
      run host arguments m = (ending result, after) := by
  have course : Course host c middle _ := settled_course (resolved_checked resolved) middle
  rcases ended : (settled host (createWallet host) c).run middle with ⟨result, after⟩
  rw [ended] at course
  exact ⟨result, after, course, run_of_settled parsed resolved ended⟩

end Run

end WalletSetup.Startup
