import WalletSetup.Proofs.Bootstrap.Recovery

/-! The course of acting on the flags, told once and for whoever makes the wallet. Either nobody is
asked to make one and the end is the same for all, or one request is made and nothing is left to do
but to say how it went. -/

set_option autoImplicit false

namespace WalletSetup

open WalletSetup.Act WalletSetup.Text WalletSetup.Wallet

def Configuration.walletDirectory (c : Configuration) : Path.Parts :=
  Bootstrap.networkDirectory (c.settings.values .appDataDir) c.network

def Configuration.walletPath (c : Configuration) : String := (filePath c.walletDirectory).render

def Machine.printing (m : Machine) (s : String) : Machine :=
  { m with terminal := m.terminal.print s }

theorem NetworkKind.word_named (kind : NetworkKind) : Path.Named kind.word.toList := by
  cases kind <;> exact ⟨by decide, by decide, by decide⟩

theorem Configuration.walletDirectory_clean (c : Configuration) : c.walletDirectory.Clean :=
  (Path.Parts.clean_ofString _).child c.network.kind.word_named

theorem Wallet.fileName_proper : Path.Proper fileName.toList :=
  ⟨by decide, by decide, by decide, by decide⟩

namespace Bootstrap

def beginning : String := "Creating the wallet...\n"

def success : String := "The wallet has been created successfully.\n"

def loadedNotice : String := "The wallet already exists. Loading this wallet instead.\n"

def concluded {α : Type} (a : α) (finish : Machine → Machine) :
    Except CreateError Path.Parts × Machine → Except Error α × Machine
  | (.ok _, after) => (.ok a, finish (after.printing success))
  | (.error e, after) => (.error (.create e), after)

section Concluding

variable {α : Type} {a b : α} {finish : Machine → Machine}
  {ended : Except CreateError Path.Parts × Machine}

theorem concluded_eq_error {e : Error} {after : Machine}
    (failed : concluded a finish ended = (.error e, after)) :
    ∃ flaw, e = .create flaw ∧ ended = (.error flaw, after) := by
  rcases ended with ⟨flaw | path, left⟩
  · cases failed
    exact ⟨flaw, rfl, rfl⟩
  · cases failed

theorem concluded_eq_ok {after : Machine} (done : concluded a finish ended = (.ok b, after)) :
    b = a ∧ ∃ path left, ended = (.ok path, left) ∧ after = finish (left.printing success) := by
  rcases ended with ⟨flaw | path, left⟩
  · cases done
  · cases done
    exact ⟨rfl, path, left, rfl, rfl⟩

end Concluding

def simulationRequest (host : Host) (c : Configuration) (seed : Bytes) : WalletRequest :=
  ⟨c.walletDirectory, publicPassphrase c.settings, simulationPassphrase, seed, host.now, c.network⟩

def userRequest (c : Configuration) (passphrase seed : Bytes) (birthday : Time.Instant) :
    WalletRequest :=
  ⟨c.walletDirectory, publicPassphrase c.settings, passphrase, seed, birthday, c.network⟩

section Requests

variable (host : Host) (c : Configuration) (passphrase seed : Bytes) (birthday : Time.Instant)

@[simp] theorem simulationRequest_directory :
    (simulationRequest host c seed).directory = c.walletDirectory := by
  simp only [simulationRequest]

@[simp] theorem userRequest_directory :
    (userRequest c passphrase seed birthday).directory = c.walletDirectory := by
  simp only [userRequest]

end Requests

def noted (c : Configuration) (m : Machine) : Machine :=
  let message := s!"Created wallet for {c.network.name} in {c.walletDirectory.render}"
  { m with journal := m.journal.add ⟨"loader", .info, message⟩ }

/-- The ways that acting on the flags can go, by whoever makes the wallet. -/
inductive Course (host : Host) (c : Configuration) (m : Machine) :
    (Creator → Except Error Outcome × Machine) → Prop where
  | refused {flaw : FlagFlaw} (invalid : checkFlags c.settings c.network = .error flaw) :
    Course host c m fun _ => (.error (.flags flaw), m)
  | idle (valid : checkFlags c.settings c.network = .ok ())
      (noWallet : (c.settings.values .create : Bool) = false)
      (noSimulation : (c.settings.values .createTemp : Bool) = false) :
    Course host c m fun _ => (.ok (.proceed c), m)
  | unchecked {e : OsError} (unseen : m.files.present c.walletPath = .error e) :
    Course host c m fun _ => (.error (.unchecked c.walletPath e), m)
  | taken (wanted : (c.settings.values .create : Bool) = true)
      (there : m.files.present c.walletPath = .ok true) :
    Course host c m fun _ => (.error (.create (.alreadyExists c.walletPath)), m)
  | loaded (valid : checkFlags c.settings c.network = .ok ())
      (wanted : (c.settings.values .createTemp : Bool) = true)
      (there : m.files.present c.walletPath = .ok true) :
    Course host c m fun _ => (.ok (.proceed c), m.printing loadedNotice)
  | unmade {files : FileTree} {e : FileTree.DirectoryError}
      (absent : m.files.present c.walletPath = .ok false)
      (stopped : m.files.ensureDirectory c.walletDirectory = (files, some e)) :
    Course host c m fun _ => (.error (.noDirectory c.walletDirectory.render e), { m with files })
  | unanswered {files : FileTree} {e : PromptError} {after : Machine}
      (absent : m.files.present c.walletPath = .ok false)
      (made : m.files.ensureDirectory c.walletDirectory = (files, none))
      (talked : Machine.Talks { m with files } after) :
    Course host c m fun _ => (.error (.prompt e), after)
  | simulated {files : FileTree} (valid : checkFlags c.settings c.network = .ok ())
      (wanted : (c.settings.values .createTemp : Bool) = true)
      (absent : m.files.present c.walletPath = .ok false)
      (made : m.files.ensureDirectory c.walletDirectory = (files, none)) :
    Course host c m fun creator => concluded (.proceed c) id
      ((creator (simulationRequest host c (Machine.randomBytes host.entropy m.drawn seedSize))).run
        { m.printing beginning with files, drawn := m.drawn + seedSize })
  | answered {files : FileTree} {passphrase seed : Bytes} {birthday : Time.Instant}
      {entered chosen : Machine} (wanted : (c.settings.values .create : Bool) = true)
      (absent : m.files.present c.walletPath = .ok false)
      (made : m.files.ensureDirectory c.walletDirectory = (files, none))
      (first : (Bootstrap.passphrase host true).run { m with files } = (.ok passphrase, entered))
      (second : (Bootstrap.seed host).run entered = (.ok (seed, birthday), chosen)) :
    Course host c m fun creator => concluded (.finish 0 "") (noted c)
      ((creator (userRequest c passphrase seed birthday)).run (chosen.printing beginning))

section Steps

variable {creator : Creator} {c : Configuration} {m : Machine}

theorem walletPresent_run (c : Configuration) (m : Machine) :
    (walletPresent (networkDirectory (c.settings.values .appDataDir) c.network)).run m =
      match m.files.present c.walletPath with
      | .ok present => (.ok present, m)
      | .error e => (.error (.unchecked c.walletPath e), m) := by
  unfold walletPresent Configuration.walletPath Configuration.walletDirectory
  rw [run_bind, run_get]
  dsimp only
  cases m.files.present (filePath (networkDirectory _ _)).render <;> rfl

theorem ensureDirectory_run (directory : Path.Parts) (m : Machine) :
    (ensureDirectory directory).run m = match m.files.ensureDirectory directory with
      | (files, some e) => (.error (.noDirectory directory.render e), { m with files })
      | (files, none) => (.ok (), { m with files }) := by
  unfold ensureDirectory
  rw [run_bind, run_get]
  dsimp only
  rcases m.files.ensureDirectory directory with ⟨files, refusal⟩
  cases refusal <;> rfl

theorem run_made (r : WalletRequest) (m : Machine) :
    (do discard (lifting .create (creator r)); Machine.say success : Act Error Unit).run m =
      concluded () id ((creator r).run m) := by
  rw [run_bind, run_discard, lifting, run_adapt]
  rcases (creator r).run m with ⟨e | path, after⟩ <;> rfl

theorem run_create (r : WalletRequest) (m : Machine) : (create creator r).run m =
    concluded () id ((creator r).run (m.printing beginning)) := by
  rw [← run_made]
  rfl

theorem run_createSimulation (host : Host) (m : Machine) :
    (createSimulation host creator c c.walletDirectory).run m = concluded () id
      ((creator (simulationRequest host c
        (Machine.randomBytes host.entropy m.drawn seedSize))).run
          { m.printing beginning with drawn := m.drawn + seedSize }) := by
  rw [← run_made]
  rfl

/-- Steps after the making of a wallet that cannot fail. -/
theorem run_concluded {α : Type} {act : Act Error Unit} {next : Unit → Act Error α} {a : α}
    {finish : Machine → Machine} {ended : Except CreateError Path.Parts × Machine} {m : Machine}
    (acted : act.run m = concluded () id ended)
    (left : ∀ n, (next ()).run n = (.ok a, finish n)) :
    (act >>= next).run m = concluded a finish ended := by
  rw [run_bind, acted]
  rcases ended with ⟨e | path, after⟩
  · rfl
  · exact left _

theorem run_createWithUser (host : Host) (m : Machine) :
    (createWithUser host creator c c.walletDirectory).run m =
      match (passphrase host true).run m with
      | (.error e, after) => (.error (.prompt e), after)
      | (.ok passphrase, entered) => match (seed host).run entered with
        | (.error e, after) => (.error (.prompt e), after)
        | (.ok (seed, birthday), chosen) => concluded () id
          ((creator (userRequest c passphrase seed birthday)).run
            (chosen.printing beginning)) := by
  unfold createWithUser
  rw [run_bind, lifting, run_adapt]
  rcases (passphrase host true).run m with ⟨e | passphrase, entered⟩
  · rfl
  · dsimp only [Except.mapError_ok]
    rw [run_bind, lifting, run_adapt]
    rcases (seed host).run entered with ⟨e | ⟨seed, birthday⟩, chosen⟩
    · rfl
    · dsimp only [Except.mapError_ok]
      exact run_create _ _

end Steps

section Courses

variable {host : Host} {c : Configuration} {m : Machine}

/-- The course depends on what the runs come to alone. -/
theorem Course.of_eq {runs others : Creator → Except Error Outcome × Machine}
    (course : Course host c m others) (same : ∀ creator, runs creator = others creator) :
    Course host c m runs := by
  rw [funext same]
  exact course

theorem simulate_course (valid : checkFlags c.settings c.network = .ok ())
    (wanted : (c.settings.values .createTemp : Bool) = true)
    (absent : m.files.present c.walletPath = .ok false) :
    Course host c m fun creator => (simulate host creator c c.walletDirectory false).run m := by
  rcases made : m.files.ensureDirectory c.walletDirectory with ⟨files, _ | e⟩
  · apply (Course.simulated valid wanted absent made).of_eq
    intro creator
    unfold simulate
    rw [run_bind, ensureDirectory_run, made]
    dsimp only
    rw [if_pos (by rfl)]
    exact run_concluded (run_createSimulation _ _) fun _ => rfl
  · apply (Course.unmade absent made).of_eq
    intro creator
    unfold simulate
    rw [run_bind, ensureDirectory_run, made]

theorem fulfil_course (wanted : (c.settings.values .create : Bool) = true)
    (absent : m.files.present c.walletPath = .ok false) :
    Course host c m fun creator => (fulfil host creator c c.walletDirectory).run m := by
  unfold fulfil
  -- Up to the request nothing depends on the creator, so every stage is run before there is one.
  rcases made : m.files.ensureDirectory c.walletDirectory with ⟨files, _ | e⟩
  · have ensured (creator : Creator) : (createWithUser host creator c c.walletDirectory).run
        { m with files } = _ := run_createWithUser host { m with files }
    rcases first : (passphrase host true).run { m with files } with ⟨e | passphrase, entered⟩
    · have talked := (passphrase_talks host true).related first
      apply (Course.unanswered absent made talked).of_eq
      intro creator
      rw [run_bind, ensureDirectory_run, made]
      dsimp only
      rw [run_bind, ensured, first]
    · rcases second : (seed host).run entered with ⟨e | ⟨seed, birthday⟩, chosen⟩
      · have talked := IsTrans.trans _ _ _ ((passphrase_talks host true).related first)
          ((seed_talks host).related second)
        apply (Course.unanswered absent made talked).of_eq
        intro creator
        rw [run_bind, ensureDirectory_run, made]
        dsimp only
        rw [run_bind, ensured, first]
        dsimp only
        rw [second]
      · apply (Course.answered wanted absent made first second).of_eq
        intro creator
        rw [run_bind, ensureDirectory_run, made]
        dsimp only
        refine run_concluded ?_ fun _ => rfl
        rw [ensured, first]
        dsimp only
        rw [second]
  · apply (Course.unmade absent made).of_eq
    intro creator
    rw [run_bind, ensureDirectory_run, made]

theorem run_act_of_simulation {creator : Creator}
    (wanted : (c.settings.values .createTemp : Bool) = true) :
    (act host creator c).run m = match m.files.present c.walletPath with
      | .error e => (.error (.unchecked c.walletPath e), m)
      | .ok true =>
        (simulate host creator c c.walletDirectory true).run (m.printing loadedNotice)
      | .ok false => (simulate host creator c c.walletDirectory false).run m := by
  unfold act
  dsimp only
  rw [wanted, Bool.or_true, if_neg (by decide), run_bind, walletPresent_run]
  cases m.files.present c.walletPath with
  | error e => rfl
  | ok present =>
    dsimp only
    rw [if_pos rfl]
    cases present with
    | true =>
      rw [if_pos rfl, run_bind, run_say]
      rfl
    | false =>
      rw [if_neg Bool.false_ne_true]
      rfl

theorem run_act_of_wallet {creator : Creator}
    (wanted : (c.settings.values .create : Bool) = true)
    (noSimulation : (c.settings.values .createTemp : Bool) = false) :
    (act host creator c).run m = match m.files.present c.walletPath with
      | .error e => (.error (.unchecked c.walletPath e), m)
      | .ok true => (.error (.create (.alreadyExists c.walletPath)), m)
      | .ok false => (fulfil host creator c c.walletDirectory).run m := by
  unfold act
  dsimp only
  rw [wanted, noSimulation, Bool.true_or, if_neg (by decide), run_bind, walletPresent_run]
  cases m.files.present c.walletPath with
  | error e => rfl
  | ok present =>
    dsimp only
    rw [if_neg Bool.false_ne_true]
    cases present with
    | true =>
      rw [if_pos rfl, run_bind, run_throw]
      rfl
    | false =>
      rw [if_neg Bool.false_ne_true]
      rfl

theorem ensureDirectory_of_present {files : FileTree}
    (there : files.present c.walletPath = .ok true) :
    files.ensureDirectory c.walletDirectory = (files, none) := by
  obtain ⟨node, found, directory⟩ :=
    FileTree.present_child c.walletDirectory_clean fileName_proper there
  exact FileTree.ensureDirectory_of_directory found directory

theorem simulate_present {creator : Creator} (there : m.files.present c.walletPath = .ok true) :
    (simulate host creator c c.walletDirectory true).run m = (.ok (.proceed c), m) := by
  unfold simulate
  rw [run_bind, ensureDirectory_run, ensureDirectory_of_present there]
  rfl

section Ends

variable {creator : Creator}

theorem run_refused {flaw : FlagFlaw} (invalid : checkFlags c.settings c.network = .error flaw) :
    (run host creator c).run m = (.error (.flags flaw), m) := by
  rw [run_eq, invalid]
  rfl

theorem run_of_valid (valid : checkFlags c.settings c.network = .ok ()) :
    (run host creator c).run m = (act host creator c).run m := by
  rw [run_eq, valid]

theorem checkFlags_of_unasked (noWallet : (c.settings.values .create : Bool) = false)
    (noSimulation : (c.settings.values .createTemp : Bool) = false) :
    checkFlags c.settings c.network = .ok () := by
  unfold checkFlags
  rw [noWallet, noSimulation]
  rfl

theorem run_idle (noWallet : (c.settings.values .create : Bool) = false)
    (noSimulation : (c.settings.values .createTemp : Bool) = false) :
    (run host creator c).run m = (.ok (.proceed c), m) := by
  rw [run_of_valid (checkFlags_of_unasked noWallet noSimulation)]
  unfold act
  rw [noWallet, noSimulation]
  rfl

variable (valid : checkFlags c.settings c.network = .ok ())

include valid

theorem run_taken (wanted : (c.settings.values .create : Bool) = true)
    (there : m.files.present c.walletPath = .ok true) :
    (run host creator c).run m = (.error (.create (.alreadyExists c.walletPath)), m) := by
  rw [run_of_valid valid, run_act_of_wallet wanted (createTemp_eq_false valid wanted), there]

theorem run_loaded (wanted : (c.settings.values .createTemp : Bool) = true)
    (there : m.files.present c.walletPath = .ok true) :
    (run host creator c).run m = (.ok (.proceed c), m.printing loadedNotice) := by
  rw [run_of_valid valid, run_act_of_simulation wanted, there]
  exact simulate_present there

theorem run_course_of_valid :
    Course host c m fun creator => (run host creator c).run m := by
  cases simulation : (c.settings.values .createTemp : Bool) with
  | true =>
    rcases found : m.files.present c.walletPath with e | ⟨_ | _⟩
    · apply (Course.unchecked found).of_eq
      intro creator
      rw [run_of_valid valid, run_act_of_simulation simulation, found]
    · apply (simulate_course valid simulation found).of_eq
      intro creator
      rw [run_of_valid valid, run_act_of_simulation simulation, found]
    · exact (Course.loaded valid simulation found).of_eq fun creator => run_loaded valid simulation found
  | false =>
    cases wanted : (c.settings.values .create : Bool) with
    | true =>
      rcases found : m.files.present c.walletPath with e | ⟨_ | _⟩
      · apply (Course.unchecked found).of_eq
        intro creator
        rw [run_of_valid valid, run_act_of_wallet wanted simulation, found]
      · apply (fulfil_course wanted found).of_eq
        intro creator
        rw [run_of_valid valid, run_act_of_wallet wanted simulation, found]
      · exact (Course.taken wanted found).of_eq fun creator => run_taken valid wanted found
    | false =>
      exact (Course.idle valid wanted simulation).of_eq fun creator => run_idle wanted simulation

end Ends

theorem run_course (host : Host) (c : Configuration) (m : Machine) :
    Course host c m fun creator => (run host creator c).run m := by
  cases valid : checkFlags c.settings c.network with
  | error flaw => exact (Course.refused valid).of_eq fun creator => run_refused valid
  | ok _ => exact run_course_of_valid valid

end Courses

/-- Directories on the way to the wallet may have come. The log file is the one it was. -/
structure Paved (c : Configuration) (before after : Machine) : Prop where
  files : before.files.Paves c.walletDirectory after.files
  logFile : after.logFile = before.logFile

namespace Paved

variable {c : Configuration} {m after : Machine} {files : FileTree}

theorem same : Paved c m m := ⟨.rfl, rfl⟩

theorem furnished (paved : Paved c m after) : Machine.Furnished m after :=
  ⟨paved.files.furnishes, paved.logFile⟩

theorem of_ensured {refusal : Option FileTree.DirectoryError}
    (made : m.files.ensureDirectory c.walletDirectory = (files, refusal)) :
    Paved c m { m with files } := by
  have paved := m.files.ensureDirectory_paves c.walletDirectory
  rw [made] at paved
  exact ⟨paved, rfl⟩

theorem talked {middle : Machine} (paved : Paved c m middle)
    (talked : Machine.Talks middle after) : Paved c m after := by
  obtain ⟨_, _, rfl⟩ := talked
  exact ⟨paved.files, paved.logFile⟩

end Paved

/-- The frame of a run. Either it is settled for whoever makes wallets, and well only if none is to
be made, or one request for the directory of the wallet is made and nothing is left to do but to
tell. Up to there directories on the way have come at most. -/
inductive Framed (c : Configuration) (m : Machine)
    (runs : Creator → Except Error Outcome × Machine) : Prop where
  | settled (ended : Except Error Outcome × Machine) (same : ∀ creator, runs creator = ended)
      (paved : Paved c m ended.2)
      (unmade : ∀ outcome, ended.1 = .ok outcome → ¬ Makes c m.files)
  | asked {r : WalletRequest} {before : Machine} {outcome : Outcome} {finish : Machine → Machine}
      (same : ∀ creator, runs creator = concluded outcome finish ((creator r).run before))
      (target : r.directory = c.walletDirectory) (paved : Paved c m before)
      (quiet : ∀ n, (finish n).files = n.files ∧ (finish n).logFile = n.logFile)

section Frames

variable {host : Host} {c : Configuration} {m : Machine}
  {runs : Creator → Except Error Outcome × Machine} {creator : Creator}

theorem not_makes_of_unasked (noWallet : (c.settings.values .create : Bool) = false)
    (noSimulation : (c.settings.values .createTemp : Bool) = false) : ¬ Makes c m.files := by
  simp [Makes, noWallet, noSimulation]

theorem not_makes_of_loaded (valid : checkFlags c.settings c.network = .ok ())
    (wanted : (c.settings.values .createTemp : Bool) = true)
    (there : m.files.present c.walletPath = .ok true) : ¬ Makes c m.files := by
  rintro (create | ⟨-, absent⟩)
  · rw [createTemp_eq_false valid create] at wanted
    cases wanted
  · have same := there.symm.trans absent
    cases same

theorem Course.framed (course : Course host c m runs) : Framed c m runs := by
  cases course with
  | refused | unchecked | taken => exact .settled _ (fun _ => rfl) .same nofun
  | idle _ noWallet noSimulation =>
    exact .settled _ (fun _ => rfl) .same fun _ _ => not_makes_of_unasked noWallet noSimulation
  | loaded valid wanted there =>
    exact .settled _ (fun _ => rfl) ⟨.rfl, rfl⟩ fun _ _ => not_makes_of_loaded valid wanted there
  | unmade _ stopped => exact .settled _ (fun _ => rfl) (.of_ensured stopped) nofun
  | unanswered _ made talked =>
    exact .settled _ (fun _ => rfl) ((Paved.of_ensured made).talked talked) nofun
  | simulated _ _ _ made =>
    have paved := Paved.of_ensured made
    exact .asked (fun _ => rfl) (simulationRequest_directory ..) ⟨paved.files, paved.logFile⟩
      fun _ => ⟨rfl, rfl⟩
  | answered _ _ made first second =>
    -- Neither question leaves a trace on the files.
    have entered := (Paved.of_ensured made).talked ((passphrase_talks host true).related first)
    have chosen := entered.talked ((seed_talks host).related second)
    exact .asked (fun _ => rfl) (userRequest_directory ..) ⟨chosen.files, chosen.logFile⟩
      fun _ => ⟨rfl, rfl⟩

/-- Whatever the flags ask for and however it ends, nothing that was there is damaged. -/
theorem run_keeps (kept : ∀ r, Within Machine.Keeps (creator r)) (host : Host)
    (c : Configuration) : Within Machine.Keeps (run host creator c) := by
  intro m
  cases (run_course host c m).framed with
  | settled ended same paved =>
    rw [same]
    exact paved.furnished.keeps
  | @asked r before _ _ same _ paved quiet =>
    have made := IsTrans.trans _ _ _ paved.furnished.keeps (kept r before)
    rw [same]
    rcases ended : (creator r).run before with ⟨flaw | path, after⟩
    · rw [ended] at made
      exact made
    · rw [ended] at made
      obtain ⟨files, logFile⟩ := quiet (after.printing success)
      rw [concluded]
      refine ⟨?_, logFile.trans made.logFile⟩
      rw [files]
      exact made.files

theorem run_failsWithin (kept : ∀ r, FailsWithin Machine.Furnished (creator r)) (host : Host)
    (c : Configuration) : FailsWithin Machine.Furnished (run host creator c) := by
  intro m after e failed
  cases (run_course host c m).framed with
  | settled ended same paved =>
    rw [same] at failed
    rw [failed] at paved
    exact paved.furnished
  | @asked r before _ _ same _ paved =>
    rw [same] at failed
    obtain ⟨flaw, -, failed⟩ := concluded_eq_error failed
    exact IsTrans.trans _ _ _ paved.furnished (kept r before after flaw failed)

end Frames

end Bootstrap

end WalletSetup
