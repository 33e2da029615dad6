import WalletSetup.Proofs.Resolution.Indifference
import WalletSetup.Proofs.Startup.Course

/-! Passwords for the server and for a proxy stay where they are. A run with other ones in their
place ends alike, shows and logs the same and leaves the same machine. -/

set_option autoImplicit false

namespace WalletSetup

open WalletSetup.Act WalletSetup.Data WalletSetup.Resolution WalletSetup.Settings

def passwords : List Field := [.rpcPass, .proxyPass]

theorem Settings.Field.accepts_secret_iff {f : Field} (secret : f ∈ passwords) {value : Value} :
    f.Accepts value ↔ ∃ s, value = .text s := by
  rcases List.mem_pair.1 secret with rfl | rfl
  all_goals
    constructor
    · rintro ⟨carried, read⟩
      cases value with
      | text s => exact ⟨s, rfl⟩
      | _ => cases read
    · rintro ⟨s, rfl⟩
      exact ⟨s, rfl⟩

/-- Configurations that differ at most in passwords. -/
def Twins (c d : Configuration) : Prop := OutcomeBy (Beside passwords []) (.proceed c) (.proceed d)

namespace Twins

variable {c d : Configuration} (twins : Twins c d)

include twins

theorem settings : Beside passwords [] c.settings d.settings := by
  cases twins with
  | proceed settings => exact settings

theorem network : d.network = c.network := by
  cases twins with
  | proceed _ network => exact network

theorem missingFile : d.missingFile = c.missingFile := by
  cases twins with
  | proceed _ _ _ missingFile => exact missingFile

theorem checkFlags_eq :
    Bootstrap.checkFlags d.settings d.network = Bootstrap.checkFlags c.settings c.network := by
  rw [twins.network, (indifferent_beside (by decide)).checkFlags_eq twins.settings]

theorem publicPassphrase_eq :
    Bootstrap.publicPassphrase d.settings = Bootstrap.publicPassphrase c.settings := by
  unfold Bootstrap.publicPassphrase
  rw [twins.settings.values _ (by decide)]

end Twins

namespace Bootstrap

variable {host : Host} {creator : Wallet.Creator} {c d : Configuration} (twins : Twins c d)

include twins

theorem simulate_of_twins (directory : Path.Parts) (present : Bool) (m : Machine) :
    Paired (OutcomeBy (Beside passwords [])) Eq ((simulate host creator c directory present).run m)
      ((simulate host creator d directory present).run m) := by
  have same : createSimulation host creator d directory =
      createSimulation host creator c directory := by
    unfold createSimulation
    rw [twins.publicPassphrase_eq, twins.network]
  unfold simulate
  rw [same]
  refine .same fun _ made => ?_
  split
  · exact .same fun _ created => .pure twins rfl
  · exact .pure twins rfl

theorem fulfil_eq (directory : Path.Parts) :
    fulfil host creator d directory = fulfil host creator c directory := by
  unfold fulfil createWithUser
  rw [twins.publicPassphrase_eq, twins.network]

theorem act_of_twins (m : Machine) :
    Paired (OutcomeBy (Beside passwords [])) Eq ((act host creator c).run m)
      ((act host creator d).run m) := by
  unfold act
  dsimp only
  rw [twins.settings.values .create (by decide), twins.settings.values .createTemp (by decide),
    twins.settings.values .appDataDir (by decide), twins.network]
  split
  · exact .pure twins rfl
  · refine .same fun present looked => ?_
    split
    · split
      · exact .same fun _ said => simulate_of_twins twins _ _ _
      · exact simulate_of_twins twins _ _ _
    · rw [fulfil_eq twins]
      exact Paired.refl.mono fun same => by subst same; exact .refl .refl _

theorem run_of_twins (m : Machine) :
    Paired (OutcomeBy (Beside passwords [])) Eq ((run host creator c).run m)
      ((run host creator d).run m) := by
  rw [run_eq, run_eq, twins.checkFlags_eq]
  split
  · exact .throw _ rfl
  · exact act_of_twins twins m

end Bootstrap

namespace Startup

variable {ε α β : Type} {host : Host} {creator : Wallet.Creator} {c d : Configuration}
  {cli other : Entries}

theorem handling_paired {R : α → α → Prop} {act otherAct : Act ε α} {handle : ε → Run α}
    {m : Machine} (reflexive : ∀ a, R a a) (paired : Paired R Eq (act.run m) (otherAct.run m)) :
    Paired R Eq ((handling act handle).run m) ((handling otherAct handle).run m) := by
  rw [run_handling, run_handling]
  generalize act.run m = one at paired ⊢
  generalize otherAct.run m = other at paired ⊢
  obtain ⟨result, after⟩ := one
  obtain ⟨otherResult, _⟩ := other
  obtain ⟨alike, rfl⟩ := paired
  cases alike with
  | error e => exact Paired.refl.mono fun same => by subst same; exact reflexive _
  | ok related => exact ⟨.ok related, rfl⟩

/-- Run with the one configuration or the other, the program ends alike on the same machine. -/
theorem conclude_eq {outcome otherOutcome : Outcome}
    (alike : OutcomeBy (Beside passwords []) outcome otherOutcome) :
    conclude otherOutcome = conclude outcome := by
  cases alike with
  | finish code message => rfl
  | @proceed c d settings network table missingFile =>
    have twins : Twins c d := .proceed settings network table missingFile
    have summary : logSummary d.settings d.network = logSummary c.settings c.network := by
      simp (disch := decide) only [logSummary, settings.values, network]
    have opening : openWallet d.settings d.network = openWallet c.settings c.network := by
      unfold openWallet
      rw [twins.publicPassphrase_eq, settings.values .appDataDir (by decide), network]
    change (do logSummary d.settings d.network; openWallet d.settings d.network) = _
    rw [summary, opening]
    rfl

theorem settled_of_twins (twins : Twins c d) (m : Machine) :
    (settled host creator d).run m = (settled host creator c).run m := by
  have opened : startLog host d.settings = startLog host c.settings := by
    unfold startLog
    rw [twins.settings.values .logDir (by decide)]
  have reported : (reportMissing d : Run Unit) = reportMissing c := by
    unfold reportMissing
    rw [twins.missingFile]
  have ends : Paired Eq Eq ((settled host creator c).run m) ((settled host creator d).run m) := by
    unfold settled
    rw [opened, reported]
    refine .same fun _ logged => .same fun _ noted => ?_
    refine .next (handling_paired (.refl .refl) (Bootstrap.run_of_twins twins noted)) ?_
    rintro outcome otherOutcome made _ alike rfl
    rw [conclude_eq alike]
    exact .refl
  exact ends.eq

theorem resolve_paired (same : SameBut passwords cli other) (m : Machine) :
    Paired (OutcomeBy (Beside passwords [])) Eq ((resolve host cli).run m)
      ((resolve host other).run m) := by
  have paired : Paired (OutcomeBy (Beside passwords [])) Eq
      ((Resolution.resolve host m.files cli none).run m.journal)
      ((Resolution.resolve host m.files other none).run m.journal) :=
    resolve_sameBut (by decide) same m.journal
  obtain ⟨alike, left⟩ := paired
  exact handling_paired (.refl .refl) ⟨alike, congrArg (fun journal => { m with journal }) left⟩

theorem proceed_eq_of_sameBut (same : SameBut passwords cli other) (m : Machine) :
    (proceed host creator other).run m = (proceed host creator cli).run m := by
  have ends : Paired Eq Eq ((proceed host creator cli).run m)
      ((proceed host creator other).run m) := by
    rw [proceed_eq, proceed_eq]
    refine .next (resolve_paired same m) ?_
    rintro outcome otherOutcome resolved _ alike rfl
    cases alike with
    | finish code message => exact .refl
    | proceed settings network table missingFile =>
      dsimp only
      rw [settled_of_twins (.proceed settings network table missingFile)]
      exact .refl
  exact ends.eq

/-- Two runs whose options differ in the passwords for the server and for a proxy alone end alike and
leave the same machine: the same output, records, files and random bytes. Their resolutions log the
same, fail with the same error and come to the same outcome but for these passwords. -/
theorem passwords_reach_nothing_else {cli other : Entries} (same : SameBut passwords cli other)
    (host : Host) :
    (∀ arguments otherArguments m, parse arguments = .ok (.run cli) →
      parse otherArguments = .ok (.run other) →
        run host otherArguments m = run host arguments m) ∧
    (∀ creator m, (proceed host creator other).run m = (proceed host creator cli).run m) ∧
    ∀ tree nodePath j, Paired (OutcomeBy (Beside passwords [])) Eq
      ((Resolution.resolve host tree cli nodePath).run j)
      ((Resolution.resolve host tree other nodePath).run j) := by
  refine ⟨fun arguments otherArguments m parsed otherParsed => ?_,
    fun creator m => proceed_eq_of_sameBut same m,
    fun tree nodePath j => resolve_sameBut (by decide) same j⟩
  rw [run_eq parsed, run_eq otherParsed, proceed_eq_of_sameBut same]

section Example

def passwordArguments (proxy server : String) : List String :=
  ["--proxypass", proxy, "--rpcpass", server]

def passwordOptions (proxy server : String) : Entries :=
  [(Field.proxyPass.name, .text proxy), (Field.rpcPass.name, .text server)]

theorem sameBut_passwordOptions (proxy server otherProxy otherServer : String) :
    SameBut passwords (passwordOptions proxy server)
      (passwordOptions otherProxy otherServer) := by
  have either {f : Field} (secret : f ∈ passwords) (s t : String) :
      SameOr passwords f.option (.text s) (.text t) :=
    .inr ⟨f, secret, rfl, (Field.accepts_secret_iff secret).2 ⟨s, rfl⟩,
      (Field.accepts_secret_iff secret).2 ⟨t, rfl⟩⟩
  have proxies := either (f := .proxyPass) (by decide) proxy otherProxy
  have servers := either (f := .rpcPass) (by decide) server otherServer
  exact .cons ⟨rfl, proxies⟩ (.cons ⟨rfl, servers⟩ .nil)

def fresh : Machine := .start (.bare ["work"]) 0 (.start [] none)

set_option maxRecDepth 20000 in
theorem two_passwords_one_run :
    parse (passwordArguments "a" "b") = .ok (.run (passwordOptions "a" "b")) ∧
    run .plain (passwordArguments "c" "d") fresh = run .plain (passwordArguments "a" "b") fresh ∧
    ∃ c d after, (Resolution.resolve .plain (.bare ["work"]) (passwordOptions "a" "b") none).run
        (.start .standard) = (.ok (.proceed c), after) ∧
      (Resolution.resolve .plain (.bare ["work"]) (passwordOptions "c" "d") none).run
        (.start .standard) = (.ok (.proceed d), after) ∧
      Beside passwords [] c.settings d.settings := by
  have parsed : parse (passwordArguments "a" "b") = .ok (.run (passwordOptions "a" "b")) := by rfl
  have otherParsed : parse (passwordArguments "c" "d") = .ok (.run (passwordOptions "c" "d")) := by
    rfl
  obtain ⟨runs, -, resolutions⟩ :=
    passwords_reach_nothing_else (sameBut_passwordOptions "a" "b" "c" "d") .plain
  obtain ⟨c, after, done, -⟩ := exists_configuration
    (by decide +kernel : proceedsOn .mainnet ((Resolution.resolve .plain (.bare ["work"])
      (passwordOptions "a" "b") none).run (.start .standard)).1 = true)
  obtain ⟨d, otherDone, settings⟩ :=
    exists_paired_configuration (resolutions (.bare ["work"]) none (.start .standard)) done
  exact ⟨parsed, runs _ _ fresh parsed otherParsed, c, d, after, done, otherDone, settings⟩

end Example

end Startup

end WalletSetup
