import WalletSetup.Proofs.Resolution.Indifference

/-! The addresses to listen on when none are given. The resolver answers them; none of its answers
is lost and none is listed twice. Where addresses are given the resolver has no say. -/

set_option autoImplicit false

namespace WalletSetup

open WalletSetup.Act WalletSetup.Data WalletSetup.Settings

namespace Address

def unzoned (answer : String) : String := String.ofList (answer.toList.takeWhile (· ≠ '%'))

/-- The entries stand for the addresses that were answered, each of them once and without its zone,
in the order in which they came first, and all with this port. -/
structure ListensOn (port : String) (answers entries : List String) : Prop where
  known : ∀ entry ∈ entries, ∃ answer ∈ answers, split entry = .ok ⟨unzoned answer, port⟩
  once : ∀ answer ∈ answers, ∃! i : Nat,
    (entries.map endpoint?)[i]? = some (some ⟨unzoned answer, port⟩)
  ordered : entries.Pairwise fun entry other =>
    (answers.map fun answer => some ⟨unzoned answer, port⟩).idxOf (endpoint? entry) <
      (answers.map fun answer => some ⟨unzoned answer, port⟩).idxOf (endpoint? other)

section Answers

variable {answers entries : List String} {port : String}

def withPort (port : String) (answers : List String) : List String :=
  answers.map fun answer => Endpoint.join ⟨unzoned answer, port⟩

theorem valid_unzoned {answer : String} (free : Free brackets answer.toList)
    (portFree : Free marks port.toList) : Endpoint.Valid ⟨unzoned answer, port⟩ where
  host := by
    intro c member
    rw [unzoned, String.toList_ofList] at member
    exact free c ((List.takeWhile_sublist _).subset member)
  port := portFree

variable (free : ∀ answer ∈ answers, Free brackets answer.toList)
  (portFree : Free marks port.toList)

include free portFree

theorem canonical_withPort :
    ∀ text ∈ withPort port answers, ∃ e : Endpoint, e.Valid ∧ text = e.join := by
  intro text member
  obtain ⟨answer, given, rfl⟩ := List.mem_map.1 member
  exact ⟨_, valid_unzoned (free answer given) portFree, rfl⟩

/-- Addresses without a bracket differ also when they are written with a port. -/
theorem join_ofResolved : ((ofResolved answers).map fun host => Endpoint.join ⟨host, port⟩) =
    distinct (withPort port answers) := by
  have apart : ∀ x ∈ answers.map unzoned, ∀ y ∈ answers.map unzoned,
      Endpoint.join ⟨x, port⟩ = Endpoint.join ⟨y, port⟩ → x = y := by
    intro x given y otherGiven same
    obtain ⟨answer, member, rfl⟩ := List.mem_map.1 given
    obtain ⟨other, otherMember, rfl⟩ := List.mem_map.1 otherGiven
    have read := congrArg split same
    rw [(valid_unzoned (free answer member) portFree).split_join,
      (valid_unzoned (free other otherMember) portFree).split_join] at read
    exact congrArg Endpoint.host (Except.ok.inj read)
  change (distinct (answers.map unzoned)).map _ = _
  rw [map_distinct apart, List.map_map]
  rfl

theorem normalize_withPort : (withPort port answers).map (normalize · port) =
    (withPort port answers).map .ok := by
  apply List.map_congr_left
  intro text member
  obtain ⟨e, valid, rfl⟩ := canonical_withPort free portFree text member
  exact normalize_join valid port

theorem normalizeAll_ofResolved :
    normalizeAll ((ofResolved answers).map fun host => Endpoint.join ⟨host, port⟩) port =
      .ok (distinct (withPort port answers)) := by
  rw [join_ofResolved free portFree]
  refine normalizeAll_eq_ok_iff.2 ⟨distinct (withPort port answers), ?_,
    (distinct_of_nodup (nodup_distinct _)).symm⟩
  apply List.map_congr_left
  intro text member
  obtain ⟨e, valid, rfl⟩ := canonical_withPort free portFree text (mem_distinct.1 member)
  exact normalize_join valid port

theorem listensOn_distinct : ListensOn port answers (distinct (withPort port answers)) := by
  have lists : Lists port (withPort port answers) (distinct (withPort port answers)) :=
    lists_of_canonical (normalize_withPort free portFree) (canonical_withPort free portFree)
  -- An answer with the port behind it stands for its endpoint without the zone.
  have denoted (answer : String) (given : answer ∈ answers) :
      denoted? port (Endpoint.join ⟨unzoned answer, port⟩) = some ⟨unzoned answer, port⟩ := by
    have valid := valid_unzoned (free answer given) portFree
    unfold denoted?
    rw [normalize_join valid]
    dsimp only [Except.toOption, Option.bind]
    exact endpoint?_join valid
  have places : (withPort port answers).map (denoted? port) =
      answers.map fun answer => some ⟨unzoned answer, port⟩ := by
    rw [withPort, List.map_map]
    apply List.map_congr_left
    intro answer given
    rw [Function.comp_apply, denoted answer given]
  exact {
    known := by
      intro entry listed
      obtain ⟨address, member, same⟩ := lists.known entry listed
      obtain ⟨answer, given, rfl⟩ := List.mem_map.1 member
      rw [denoted answer given] at same
      exact ⟨answer, given, endpoint?_eq_some_iff.1 same.symm⟩
    once := by
      intro answer given
      rw [← denoted answer given]
      exact lists.once _ (List.mem_map_of_mem given)
    ordered := by
      rw [← places]
      exact lists.ordered }

end Answers

end Address

namespace Resolution

open Address (Free brackets marks ListensOn)

def givenListeners (file cli : Entries) : Option Value :=
  (Settings.overlay file cli).lookup Field.rpcListeners.option

theorem givenListeners_of_named {file cli : Entries} (fileNamed : Named file)
    (cliNamed : Named cli) : givenListeners file cli = effective file cli .rpcListeners :=
  lookup_overlay fileNamed cliNamed .rpcListeners

/-- They give no address to listen on, or an empty list of them. -/
def NoListener (file cli : Entries) : Prop :=
  givenListeners file cli = none ∨ givenListeners file cli = some (.list [])

def SomeListener (file cli : Entries) : Prop :=
  ∃ item rest, givenListeners file cli = some (.list (item :: rest))

section Given

variable {host : Host} {tree : FileTree} {file cli : Entries} {s : Settings}

theorem read_rpcListeners {items : List Value} {texts : List String}
    (read : Field.rpcListeners.read (.list items) = .ok texts) : toTexts 0 items = .ok texts := by
  obtain ⟨coerced, done, kept⟩ := Except.bind_eq_ok read
  cases kept
  exact Except.mapError_eq_ok.1 done

theorem toTexts_cons {index : Nat} {item : Value} {rest : List Value} {texts : List String}
    (read : toTexts index (item :: rest) = .ok texts) : texts ≠ [] := by
  unfold toTexts at read
  split at read
  · cases read
    exact List.cons_ne_nil _ _
  all_goals cases read

theorem rpcListeners_cases (merged : Merged host tree cli file s) :
    (∃ value, givenListeners file cli = some value ∧
      Field.rpcListeners.read value = .ok (s.values .rpcListeners)) ∨
    givenListeners file cli = none ∧ s.values .rpcListeners = [] := by
  rcases fieldValue_eq_ok_iff.1 ((ofSources_eq_ok_iff.1 merged.built).1 .rpcListeners) with
    given | ⟨absent, known⟩
  · exact .inl given
  · exact .inr ⟨absent, (Option.some.inj known).symm⟩

theorem rpcListeners_of_none (merged : Merged host tree cli file s)
    (none : NoListener file cli) : s.values .rpcListeners = [] := by
  rcases rpcListeners_cases merged with ⟨value, given, read⟩ | ⟨-, known⟩
  · rcases none with absent | empty
    · rw [absent] at given
      cases given
    · rw [empty] at given
      cases given
      exact (Except.ok.inj (read_rpcListeners read)).symm
  · exact known

theorem rpcListeners_of_some (merged : Merged host tree cli file s)
    (some : SomeListener file cli) : s.values .rpcListeners ≠ [] := by
  obtain ⟨item, rest, given⟩ := some
  rcases rpcListeners_cases merged with ⟨value, found, read⟩ | ⟨absent, -⟩
  · rw [given] at found
    cases found
    exact toTexts_cons (read_rpcListeners read)
  · rw [given] at absent
    cases absent

end Given

theorem free_serverPort (kind : NetworkKind) : Free marks kind.serverPort.toList := by
  cases kind <;> decide

theorem listensOn_of_listeners {host : Host} {s : Settings} {net : Network}
    {answers addresses : List String} (answered : host.resolver = .ok answers)
    (free : ∀ answer ∈ answers, Free brackets answer.toList) (none : s.values .rpcListeners = [])
    (heard : listeners host s net = .ok addresses) :
    ListensOn net.kind.serverPort answers addresses := by
  have portFree := free_serverPort net.kind
  unfold listeners Host.addresses at heard
  rw [none, answered] at heard
  have normalized := Address.normalizeAll_ofResolved free portFree
  have done := Except.mapError_eq_ok.1 heard
  rw [normalized] at done
  cases done
  exact Address.listensOn_distinct free portFree

section OtherResolver

variable {host : Host} {tree : FileTree} {cli : Entries} {nodePath : Option String} {s : Settings}
  (answer : Except String (List String))

theorem listeners_congr (given : s.values .rpcListeners ≠ []) (net : Network) :
    listeners { host with resolver := answer } s net = listeners host s net := by
  have asked : List.isEmpty (α := String) (s.values .rpcListeners) = false := by
    rw [List.isEmpty_eq_false_iff]
    exact given
  unfold listeners
  dsimp only
  rw [asked]
  rfl

theorem complete_resolver (given : s.values .rpcListeners ≠ []) (net : Network)
    (missingFile : String) (j : Log.Journal) :
    (complete { host with resolver := answer } tree nodePath s net missingFile).run j =
      (complete host tree nodePath s net missingFile).run j := by
  unfold complete
  refine run_bind_congr fun (address, rpcHost) _ _ => run_bind_congr fun node _ _ => ?_
  refine run_bind_congr fun chosen left certified => ?_
  -- The certificate is chosen between: it changes no address to listen on.
  obtain ⟨path, rfl, -⟩ := certificate_eq_ok (resolveCertificate_eq_ok certified)
  have kept : ((s.set .rpcConnect address).set .caFile path).values .rpcListeners ≠ [] := by
    rw [values_set_of_ne _ _ (by decide), values_set_of_ne _ _ (by decide)]
    exact given
  rw [listeners_congr answer kept]

theorem derive_resolver (given : s.values .rpcListeners ≠ []) (missingFile : String)
    (j : Log.Journal) :
    (derive { host with resolver := answer } tree nodePath s missingFile).run j =
      (derive host tree nodePath s missingFile).run j := by
  unfold derive
  refine run_bind_congr fun net _ _ => run_bind_congr fun _ _ _ => ?_
  refine run_bind_congr fun _ _ _ => run_bind_congr fun asked left _ => ?_
  cases asked with
  | list names => rfl
  | change table =>
    refine run_bind_congr fun _ after _ => complete_resolver answer ?_ _ _ _
    rw [place_of_not_mem _ _ _ (by decide), settle_of_ne _ (by decide)]
    exact given

theorem resolve_resolver
    (given : ∀ file s, Merged host tree cli file s → SomeListener file cli) (j : Log.Journal) :
    (resolve { host with resolver := answer } tree cli nodePath).run j =
      (resolve host tree cli nodePath).run j := by
  rw [resolve_eq, resolve_eq]
  refine run_bind_congr fun pre _ built => ?_
  have built := ofExcept_eq_ok built
  dsimp only
  split
  · rfl
  · next goesOn =>
    rw [Bool.not_eq_true] at goesOn
    have reads : Reads host cli (configPath host.environment pre) := ⟨pre, built, goesOn, rfl⟩
    refine run_bind_congr fun contents _ loaded => run_bind_congr fun s _ made => ?_
    have merged : Merged host tree cli contents.values s :=
      ⟨⟨_, contents, reads, loadFile_eq_ok loaded, rfl⟩, build_eq_ok (ofExcept_eq_ok made)⟩
    have some := rpcListeners_of_some merged (given _ _ merged)
    exact run_bind_congr fun _ _ _ => derive_resolver answer some _ _

end OtherResolver

/-- Without an address to listen on that is given, a configuration lists those that the resolver
answers, each of them once. With one or more, the resolver does not matter, not even for whether it
fails. -/
theorem resolver_lists_or_is_ignored {host : Host} {tree : FileTree} {cli : Entries}
    {nodePath : Option String} {j : Log.Journal} :
    (∀ answers c after, host.resolver = .ok answers →
      (∀ answer ∈ answers, Free brackets answer.toList) →
      (∀ file s, Merged host tree cli file s → NoListener file cli) →
      (resolve host tree cli nodePath).run j = (.ok (.proceed c), after) →
        ListensOn c.network.kind.serverPort answers (c.settings.values .rpcListeners)) ∧
    ((∀ file s, Merged host tree cli file s → SomeListener file cli) → ∀ answer,
      (resolve { host with resolver := answer } tree cli nodePath).run j =
        (resolve host tree cli nodePath).run j) := by
  constructor
  · intro answers c after answered free none done
    obtain ⟨file, s, merged, derived⟩ := resolve_derived done
    have empty := rpcListeners_of_none merged (none file s merged)
    exact listensOn_of_listeners answered free empty derived.rpcListeners
  · intro given answer
    exact resolve_resolver answer given j

section Example

def answeringHost : Host :=
  { Host.plain with resolver := .ok ["fe80::1%eth0", "127.0.0.1", "fe80::1%eth1"] }

set_option maxRecDepth 20000 in
theorem noListener_bare (file : Entries) (s : Settings)
    (merged : Merged answeringHost (FileTree.bare ["work"]) [] file s) : NoListener file [] := by
  obtain ⟨path, contents, reads, loaded, rfl⟩ := merged.read
  rw [reads.values_eq_nil loaded (by decide +kernel)]
  exact .inl rfl

def listenerOptions : Entries := [(Field.rpcListeners.name, .list [.text ":9999"])]

theorem someListener_of_options (file : Entries) (s : Settings)
    (merged : Merged answeringHost (FileTree.bare ["work"]) listenerOptions file s) :
    SomeListener file listenerOptions := by
  refine ⟨.text ":9999", [], ?_⟩
  rw [givenListeners_of_named merged.named (by decide)]
  rfl

set_option maxRecDepth 20000 in
theorem two_addresses_listed_or_nobody_asked : (∃ c after,
    (resolve answeringHost (FileTree.bare ["work"]) [] none).run (.start .standard) =
      (.ok (.proceed c), after) ∧
    ListensOn c.network.kind.serverPort ["fe80::1%eth0", "127.0.0.1", "fe80::1%eth1"]
      (c.settings.values .rpcListeners)) ∧
    ∀ e, (resolve { answeringHost with resolver := .error e } (FileTree.bare ["work"])
        listenerOptions none).run (.start .standard) =
      (resolve answeringHost (FileTree.bare ["work"]) listenerOptions none).run
        (.start .standard) := by
  obtain ⟨c, after, done, -⟩ := exists_configuration
    (by decide +kernel : proceedsOn .mainnet ((resolve answeringHost (FileTree.bare ["work"]) []
      none).run (.start .standard)).1 = true)
  constructor
  · refine ⟨c, after, done, ?_⟩
    exact resolver_lists_or_is_ignored.1 _ c after rfl (by decide) noListener_bare done
  · intro e
    exact resolver_lists_or_is_ignored.2 someListener_of_options (.error e)

end Example

end Resolution

end WalletSetup
