import WalletSetup.Proofs.Startup.Opening
import WalletSetup.Proofs.Wallet.Limits
import WalletSetup.Proofs.Wallet.Record

/-! Opening a wallet whose file is damaged. The system refuses the file, or a value in it will not
do; else a number in it or its nesting is beyond what the readers can take, and then neither is
said. -/

set_option autoImplicit false

namespace WalletSetup.Wallet

open WalletSetup.Data WalletSetup.Number WalletSetup.Text WalletSetup.Act

inductive Limit where
  | number
  | nesting
  deriving DecidableEq, Repr

/-- What a failure to open a wallet is about. Whoever opens one has to reckon with the first two. -/
inductive OpenError.Kind where
  | system
  | value
  | beyond (limit : Limit)
  deriving DecidableEq, Repr

def OpenError.kind : OpenError → Kind
  | os _ => .system
  | undecodable _ | malformed _ | version _ | base64 _ | numeral .. | roundsNan => .value
  | decryption .tooShort | decryption (.rounds .zero) | decryption .locked => .value
  | publicMalformed _ | timeNan | year _ => .value
  | roundsInfinite | decryption (.rounds (.range _)) => .beyond .number
  | decryption (.rounds .refused) => .beyond .number
  | tooDeep _ => .beyond .nesting

def FailsAs {α : Type} (kind : OpenError.Kind) (result : Except OpenError α) : Prop :=
  ∃ e, result = .error e ∧ e.kind = kind

section Failures

variable {α β : Type} {kind : OpenError.Kind}

@[simp] theorem failsAs_ok {a : α} : FailsAs kind (.ok a : Except OpenError α) ↔ False := by
  simp [FailsAs]

@[simp] theorem failsAs_error {e : OpenError} :
    FailsAs kind (.error e : Except OpenError α) ↔ e.kind = kind := by
  simp [FailsAs]

theorem failsAs_bind_iff {first : Except OpenError α} {next : α → Except OpenError β} :
    FailsAs kind (first >>= next) ↔
      FailsAs kind first ∨ ∃ a, first = .ok a ∧ FailsAs kind (next a) := by
  cases first <;> simp [bind, Except.bind]

end Failures

/-- The content of a wallet file is beyond a limit of its readers, in the record itself or in the
public section that the passphrase opens. -/
inductive Overstrains (path : String) (content passphrase : Bytes) : Limit → Prop where
  | record {inside : Json.Container} (deep : Json.readFile content = .error (.tooDeep inside)) :
    Overstrains path content passphrase .nesting
  | infinite {entries : Entries} {blob : Bytes} {negative : Bool}
      (read : Json.readFile content = .ok (.table entries))
      (current : isOne ((entries.lookup "version").getD .null) = true)
      (encoded : readBlob path (entries.lookup "public") = .ok blob)
      (rounds : entries.lookup "iterations" = some (.real (.infinite negative))) :
    Overstrains path content passphrase .number
  | rounds {rounds : Int} {blob : Bytes} (read : readRecord path content = .ok (rounds, blob))
      (salted : saltSize ≤ blob.length) (some : rounds ≠ 0) (unfit : ¬ CanDerive rounds) :
    Overstrains path content passphrase .number
  | publicSection {rounds : Int} {blob plain : Bytes} {inside : Json.Container}
      (read : readRecord path content = .ok (rounds, blob))
      (opened : openSection passphrase rounds blob = .ok plain)
      (deep : Json.readBytes plain = .error (.tooDeep inside)) :
    Overstrains path content passphrase .nesting

section Readers

-- Failures about a value are left aside: any reader may meet them.
variable {kind : OpenError.Kind} {path : String} (grave : kind ≠ .value)

include grave

theorem failsAs_json_iff {α : Type} {read : Except Json.Error α} {malformed : OpenError}
    (plain : malformed.kind = .value) : FailsAs kind (read.mapError (ofJson malformed)) ↔
      kind = .beyond .nesting ∧ ∃ inside, read = .error (.tooDeep inside) := by
  cases read with
  | ok a => simp
  | error e =>
    cases e with
    | malformed => simp [ofJson, plain, grave.symm]
    | tooDeep inside => simp [ofJson, OpenError.kind, eq_comm]
    | numeral error => simp [ofJson, OpenError.kind, grave.symm]
    | undecodable error => simp [ofJson, OpenError.kind, grave.symm]

theorem not_failsAs_readBlob (v : Option Value) : ¬ FailsAs kind (readBlob path v) := by
  unfold readBlob
  split
  · next s => cases Base64.decode .standard s <;> simp [OpenError.kind, grave.symm]
  · simp [OpenError.kind, grave.symm]

theorem failsAs_readRounds_iff {v : Option Value} : FailsAs kind (readRounds path v) ↔
    kind = .beyond .number ∧ ∃ negative, v = some (.real (.infinite negative)) := by
  match v with
  | some (.text s) =>
    cases read : readInteger s <;> simp [readRounds, read, OpenError.kind, grave.symm]
  | some (.real .nan) => simp [readRounds, OpenError.kind, grave.symm]
  | some (.real (.infinite negative)) =>
    simp [readRounds, Binary64.truncate?, OpenError.kind, eq_comm]
  | some (.real (.finite s m e)) => simp [readRounds, Binary64.truncate?]
  | some (.integer _) | some (.flag _) => simp [readRounds]
  | none | some .null | some (.moment _) | some (.list _) | some (.table _) =>
    simp [readRounds, OpenError.kind, grave.symm]

theorem failsAs_readRecord_iff {content : Bytes} : FailsAs kind (readRecord path content) ↔
    (kind = .beyond .nesting ∧ ∃ inside, Json.readFile content = .error (.tooDeep inside)) ∨
    (kind = .beyond .number ∧ ∃ entries blob negative,
      Json.readFile content = .ok (.table entries) ∧
      isOne ((entries.lookup "version").getD .null) = true ∧
      readBlob path (entries.lookup "public") = .ok blob ∧
      entries.lookup "iterations" = some (.real (.infinite negative))) := by
  unfold readRecord
  rw [failsAs_bind_iff, failsAs_json_iff grave rfl]
  apply or_congr_right
  constructor
  · rintro ⟨found, read, fails⟩
    split at fails
    · next entries =>
      dsimp only at fails
      split at fails
      · simp [OpenError.kind, grave.symm] at fails
      · next current =>
        simp only [failsAs_bind_iff, not_failsAs_readBlob grave, failsAs_readRounds_iff grave,
          failsAs_ok, and_false, exists_false, or_false, false_or] at fails
        obtain ⟨blob, encoded, rfl, negative, rounds⟩ := fails
        exact ⟨rfl, entries, blob, negative, Except.mapError_eq_ok.1 read, by simpa using current,
          encoded, rounds⟩
    · simp [OpenError.kind, grave.symm] at fails
  · rintro ⟨rfl, entries, blob, negative, read, current, encoded, rounds⟩
    refine ⟨.table entries, Except.mapError_eq_ok.2 read, ?_⟩
    simp only [current, Bool.not_true, Bool.false_eq_true, if_false, failsAs_bind_iff,
      failsAs_readRounds_iff grave]
    exact .inr ⟨blob, encoded, .inl ⟨trivial, negative, rounds⟩⟩

theorem failsAs_openSection_iff {passphrase blob : Bytes} {rounds : Int} :
    FailsAs kind ((openSection passphrase rounds blob).mapError .decryption) ↔
      kind = .beyond .number ∧ saltSize ≤ blob.length ∧ rounds ≠ 0 ∧ ¬ CanDerive rounds := by
  unfold openSection
  split
  · next short => simp [OpenError.kind, Nat.not_le_of_lt short, grave.symm]
  · next long =>
    rcases canDerive_or_underivable rounds with fit | ⟨flaw, unfit⟩
    · rw [fit.checkRounds_eq]
      dsimp only
      split <;> simp [OpenError.kind, fit, grave.symm]
    · have lost : ¬ CanDerive rounds := not_canDerive_iff.2 ⟨flaw, unfit⟩
      rw [unfit.checkRounds_eq]
      simp only [Except.mapError_error, failsAs_error, Nat.le_of_not_lt long, lost,
        not_false_eq_true, true_and, and_true]
      -- No rounds at all is a matter of the values.
      cases unfit with
      | zero none => simp [OpenError.kind, none, grave.symm]
      | range misfit =>
        have some : rounds ≠ 0 := misfit.ne_zero
        simp [OpenError.kind, some, eq_comm]
      | refused positive =>
        have some : rounds ≠ 0 := by omega
        simp [OpenError.kind, some, eq_comm]

theorem not_failsAs_readInstant (v : Option Value) : ¬ FailsAs kind (readInstant path v) := by
  unfold readInstant
  dsimp only
  split <;> simp [OpenError.kind, grave.symm]

theorem failsAs_readPublic_iff {plain : Bytes} : FailsAs kind (readPublic path plain) ↔
    kind = .beyond .nesting ∧ ∃ inside, Json.readBytes plain = .error (.tooDeep inside) := by
  unfold readPublic
  rw [failsAs_bind_iff, failsAs_json_iff grave rfl, or_iff_left]
  -- Once the section is read, what is missing from it or out of range is a matter of its values.
  rintro ⟨found, -, fails⟩
  revert fails
  split
  · split
    · simp [OpenError.kind, grave.symm]
    · simp [failsAs_bind_iff, not_failsAs_readInstant grave]
  · simp [OpenError.kind, grave.symm]

theorem failsAs_openRecord_iff {content passphrase : Bytes} :
    FailsAs kind (openRecord path content passphrase) ↔
      ∃ limit, kind = .beyond limit ∧ Overstrains path content passphrase limit := by
  unfold openRecord
  simp only [failsAs_bind_iff, failsAs_readRecord_iff grave, failsAs_openSection_iff grave,
    failsAs_readPublic_iff grave, Except.mapError_eq_ok]
  constructor
  · rintro ((⟨rfl, inside, deep⟩ | ⟨rfl, entries, blob, negative, read, current, encoded, rounds⟩) |
      ⟨⟨rounds, blob⟩, read, ⟨rfl, salted, some, unfit⟩ | ⟨plain, opened, rfl, inside, deep⟩⟩)
    · exact ⟨_, rfl, .record deep⟩
    · exact ⟨_, rfl, .infinite read current encoded rounds⟩
    · exact ⟨_, rfl, .rounds read salted some unfit⟩
    · exact ⟨_, rfl, .publicSection read opened deep⟩
  · rintro ⟨limit, rfl, overstrains⟩
    cases overstrains with
    | record deep => exact .inl (.inl ⟨rfl, _, deep⟩)
    | infinite read current encoded rounds =>
      exact .inl (.inr ⟨rfl, _, _, _, read, current, encoded, rounds⟩)
    | rounds read salted some unfit => exact .inr ⟨_, read, .inl ⟨rfl, salted, some, unfit⟩⟩
    | publicSection read opened deep => exact .inr ⟨_, read, .inr ⟨_, opened, rfl, _, deep⟩⟩

end Readers

section Wallet

variable {tree : FileTree} {directory : Path.Parts} {passphrase : Bytes}

theorem openWallet_eq (tree : FileTree) (directory : Path.Parts) (passphrase : Bytes) :
    openWallet tree directory passphrase = match tree.read (filePath directory).render with
      | .error e => .error (.os e)
      | .ok content => openRecord (filePath directory).render content passphrase := by
  unfold openWallet
  dsimp only
  cases tree.read (filePath directory).render <;> rfl

/-- Nothing in a file that can be read is the fault of the system. -/
theorem openWallet_eq_os_iff {e : OsError} :
    openWallet tree directory passphrase = .error (.os e) ↔
      tree.read (filePath directory).render = .error e := by
  rw [openWallet_eq]
  cases read : tree.read (filePath directory).render with
  | error other => simp
  | ok content =>
    refine iff_of_false (fun failed => ?_) nofun
    have fails : FailsAs .system (openRecord (filePath directory).render content passphrase) :=
      ⟨.os e, failed, rfl⟩
    obtain ⟨limit, same, -⟩ := (failsAs_openRecord_iff (by decide)).1 fails
    cases same

theorem openWallet_beyond_iff {limit : Limit} :
    FailsAs (.beyond limit) (openWallet tree directory passphrase) ↔
      ∃ content, tree.read (filePath directory).render = .ok content ∧
        Overstrains (filePath directory).render content passphrase limit := by
  rw [openWallet_eq]
  cases read : tree.read (filePath directory).render with
  | error e => simp [OpenError.kind]
  | ok content => simp [failsAs_openRecord_iff]

/-- Opening a wallet leaves the machine as it was but for the journal. It fails for the system
exactly when the file cannot be read, and beyond a limit exactly when the content is beyond it; in
every other case it succeeds or a value in the file will not do. -/
theorem opening_fails_beyond_iff (directory : Path.Parts) (passphrase : Bytes) (m : Machine) :
    (∃ journal, ((openLogged directory passphrase).run m).2 = { m with journal }) ∧
    (∀ e, ((openLogged directory passphrase).run m).1 = .error (.os e) ↔
      m.files.read (filePath directory).render = .error e) ∧
    ∀ limit, (∃ e, ((openLogged directory passphrase).run m).1 = .error e ∧
        e.kind = .beyond limit) ↔
      ∃ content, m.files.read (filePath directory).render = .ok content ∧
        Overstrains (filePath directory).render content passphrase limit := by
  have same : ((openLogged directory passphrase).run m).1 =
      openWallet m.files directory passphrase := by
    rw [Startup.openLogged_run]
    cases openWallet m.files directory passphrase <;> rfl
  rw [same]
  refine ⟨?_, fun e => openWallet_eq_os_iff, fun limit => openWallet_beyond_iff⟩
  have silent := Startup.openLogged_silent directory passphrase m
  exact silent

end Wallet

def negativeRecord : Bytes := recordText NetworkKind.mainnet.name (-1) (List.replicate saltSize 0) []

def negativeMachine : Machine :=
  .start ((FileTree.bare ["w"]).insert ["w", fileName] (.file 0o600 negativeRecord false)) 0
    (.start [] none)

theorem negative_rounds_are_no_matter_of_values :
    ¬ ∀ (directory : Path.Parts) (passphrase : Bytes) (m : Machine) (e : OpenError),
      ((openLogged directory passphrase).run m).1 = .error e →
        e.kind = .system ∨ e.kind = .value := by
  intro claimed
  have read : negativeMachine.files.read "/w/wallet.db" = .ok negativeRecord := by rfl
  have record : readRecord "/w/wallet.db" negativeRecord = .ok (-1, List.replicate saltSize 0) :=
    readRecord_recordText (by decide) _ _ _
  have failed : openWallet negativeMachine.files (.ofString "/w") insecurePassphrase =
      .error (.decryption (.rounds (.range .negative))) := by
    rw [openWallet_eq]
    rw [show (filePath (.ofString "/w")).render = "/w/wallet.db" by decide, read]
    dsimp only
    rw [openRecord, record]
    rfl
  have ended : ((openLogged (.ofString "/w") insecurePassphrase).run negativeMachine).1 =
      .error (.decryption (.rounds (.range .negative))) := by
    rw [Startup.openLogged_run, failed]
  have kind := claimed _ _ _ _ ended
  revert kind
  decide

end WalletSetup.Wallet
