import WalletSetup.Proofs.Bootstrap.Outcomes

/-! A simulation wallet is made once. Asked for again it is loaded, as often as it may be and
whatever has become of the world around the files. -/

set_option autoImplicit false

namespace WalletSetup.Bootstrap

open WalletSetup.Act WalletSetup.Wallet

/-- A world to run in again: a host, somebody who makes wallets, and a machine whose files are of no
interest. -/
structure World where
  host : Host
  creator : Creator
  machine : Machine

def World.over (w : World) (files : FileTree) : Machine := { w.machine with files }

/-- What runs in these worlds come to, each on the files that the one before it has left. -/
def repeated (c : Configuration) (files : FileTree) :
    List World → List (Except Error Outcome × Machine)
  | [] => []
  | w :: rest =>
    let ended := (run w.host w.creator c).run (w.over files)
    ended :: repeated c ended.2.files rest

def World.loaded (w : World) (c : Configuration) (files : FileTree) :
    Except Error Outcome × Machine :=
  (.ok (.proceed c), (w.over files).printing loadedNotice)

section Runs

variable {host : Host} {c : Configuration} {m : Machine}
  (valid : checkFlags c.settings c.network = .ok ())
  (wanted : (c.settings.values .createTemp : Bool) = true)

include valid wanted

theorem run_over_loaded (w : World) {files : FileTree}
    (there : files.present c.walletPath = .ok true) :
    (run w.host w.creator c).run (w.over files) = w.loaded c files := by
  apply run_loaded valid wanted
  exact there

theorem repeated_loaded {files : FileTree} (there : files.present c.walletPath = .ok true)
    (worlds : List World) : repeated c files worlds = worlds.map (·.loaded c files) := by
  -- The files are the same before each run, and so the wallet is there before each.
  induction worlds with
  | nil => rfl
  | cons w rest ih =>
    have same : (w.loaded c files).2.files = files := rfl
    rw [repeated, run_over_loaded valid wanted w there, same, ih, List.map_cons]

theorem Course.leaves_wallet {runs : Creator → Except Error Outcome × Machine}
    (course : Course host c m runs) {outcome : Outcome} {after : Machine}
    (done : runs (createWallet host) = (.ok outcome, after)) :
    outcome = .proceed c ∧ after.files.present c.walletPath = .ok true := by
  cases course with
  | refused | unchecked | taken | unmade | unanswered => cases done
  | idle _ _ noSimulation =>
    rw [noSimulation] at wanted
    cases wanted
  | loaded _ _ there =>
    cases done
    exact ⟨rfl, there⟩
  | simulated =>
    obtain ⟨proceeds, path, left, made, rfl⟩ := concluded_eq_ok done
    have wrote := (createWallet_wrote made).present
    rw [simulationRequest_directory] at wrote
    exact ⟨proceeds, wrote⟩
  | answered create =>
    rw [createTemp_eq_false valid create] at wanted
    cases wanted

end Runs

/-- Once it has gone well, a simulation can be asked for again as often as one likes. In whatever
world, with random bytes, a clock or a disk of its own, with nothing to read and with anybody to make
wallets, it ends as it did. The files stay as they are, no random bytes are used, nobody is asked to
make a wallet, and all that is printed is that there is one. -/
theorem simulation_idempotent {host : Host} {c : Configuration} {m after : Machine}
    {outcome : Outcome} (wanted : (c.settings.values .createTemp : Bool) = true)
    (done : (run host (createWallet host) c).run m = (.ok outcome, after)) (worlds : List World) :
    outcome = .proceed c ∧ repeated c after.files worlds = worlds.map fun w =>
      (.ok outcome, { w.machine with
        files := after.files, terminal := w.machine.terminal.print loadedNotice }) := by
  have course := run_course host c m
  cases valid : checkFlags c.settings c.network with
  | error flaw =>
    rw [run_refused valid] at done
    cases done
  | ok _ =>
    obtain ⟨proceeds, there⟩ := course.leaves_wallet valid wanted done
    refine ⟨proceeds, ?_⟩
    rw [repeated_loaded valid wanted there, proceeds]
    rfl

section Example

def simulated : Configuration where
  settings := (((⟨fun f => Settings.blank f.kind, []⟩ : Settings).set .appDataDir "/w").set
    .createTemp true).markSource .appDataDir .cli
  network := ⟨.simnet, none, []⟩
  table := .standard
  missingFile := ""

def simulating : Except Error Outcome × Machine :=
  (run .plain (createWallet .plain) simulated).run (.start (.bare ["w"]) 0 (.start [] none))

def strange : World where
  host := { Host.plain with diskFull := true, entropy := [1, 2, 3] }
  creator _ := throw .seedSize
  machine := .start (.bare []) 5 (.start [] none)

theorem simulation_found_in_strange_worlds :
    (simulated.settings.values .createTemp : Bool) = true ∧
      simulating.1 = .ok (.proceed simulated) ∧
      repeated simulated simulating.2.files [strange, strange] =
        [strange.loaded simulated simulating.2.files,
          strange.loaded simulated simulating.2.files] := by
  have wanted : (simulated.settings.values .createTemp : Bool) = true := by rfl
  have done : simulating.1 = .ok (.proceed simulated) := by rfl
  exact ⟨wanted, done, (simulation_idempotent wanted (Prod.ext done rfl) [strange, strange]).2⟩

end Example

end WalletSetup.Bootstrap
