import WalletSetup.Proofs.Address.Endpoint

/-! Lists of addresses to listen on. Each endpoint is to be listed once, in the one way to write it;
this works out unless a name comes in brackets without a port. -/

set_option autoImplicit false

namespace WalletSetup.Address

section Distinct

variable {α β : Type} [DecidableEq α] [DecidableEq β]

theorem distinct_of_nodup {xs : List α} (nodup : xs.Nodup) : distinct xs = xs := by
  induction xs with
  | nil => rfl
  | cons x rest ih =>
    obtain ⟨fresh, nodup⟩ := List.nodup_cons.1 nodup
    rw [distinct, ih nodup, List.filter_eq_self.2]
    intro y member
    exact decide_eq_true fun same => fresh (same ▸ member)

theorem map_distinct {f : α → β} {xs : List α}
    (apart : ∀ x ∈ xs, ∀ y ∈ xs, f x = f y → x = y) :
    (distinct xs).map f = distinct (xs.map f) := by
  induction xs with
  | nil => rfl
  | cons x rest ih =>
    have ih := ih fun y member z other =>
      apart y (List.mem_cons_of_mem _ member) z (List.mem_cons_of_mem _ other)
    rw [distinct, List.map_cons, List.map_cons, distinct, ← ih, List.filter_map]
    congr 2
    refine List.filter_congr fun y member => decide_eq_decide.2 (not_congr ⟨?_, ?_⟩)
    · rintro rfl
      rfl
    · intro same
      exact apart y (List.mem_cons_of_mem _ (mem_distinct.1 member)) x List.mem_cons_self same

theorem distinct_ordered [BEq α] [LawfulBEq α] (xs : List α) :
    (distinct xs).Pairwise fun x y => xs.idxOf x < xs.idxOf y := by
  induction xs with
  | nil => exact .nil
  | cons x rest ih =>
    rw [distinct, List.pairwise_cons]
    constructor
    · intro y member
      have other : y ≠ x := of_decide_eq_true (List.mem_filter.1 member).2
      rw [List.idxOf_cons_self, List.idxOf_cons_ne _ other.symm]
      exact Nat.succ_pos _
    · refine (ih.filter _).imp_of_mem fun {y z} member otherMember before => ?_
      have other : y ≠ x := of_decide_eq_true (List.mem_filter.1 member).2
      have otherToo : z ≠ x := of_decide_eq_true (List.mem_filter.1 otherMember).2
      rw [List.idxOf_cons_ne _ other.symm, List.idxOf_cons_ne _ otherToo.symm]
      exact Nat.succ_lt_succ before

omit [DecidableEq α] in
theorem existsUnique_place {xs : List α} (nodup : xs.Nodup) {x : α} (member : x ∈ xs) :
    ∃! i : Nat, xs[i]? = some x := by
  obtain ⟨i, found⟩ := List.mem_iff_getElem?.1 member
  refine ⟨i, found, fun j other => ?_⟩
  obtain ⟨within, -⟩ := List.getElem?_eq_some_iff.1 other
  exact (List.getElem?_inj within nodup).1 (other.trans found.symm)

end Distinct

def endpoint? (address : String) : Option Endpoint := (split address).toOption

theorem endpoint?_eq_some_iff {address : String} {e : Endpoint} :
    endpoint? address = some e ↔ split address = .ok e := Except.toOption_eq_some_iff

def denoted? (defaultPort address : String) : Option Endpoint :=
  (normalize address defaultPort).toOption.bind endpoint?

/-- The entries list the endpoints of the addresses, each of them once, in the order in which they
come first, and so that there is nothing left to normalize. -/
structure Lists (defaultPort : String) (addresses entries : List String) : Prop where
  complete : ∀ entry ∈ entries, (endpoint? entry).isSome
  apart : entries.Pairwise fun entry other => endpoint? entry ≠ endpoint? other
  known : ∀ entry ∈ entries, ∃ address ∈ addresses,
    denoted? defaultPort address = endpoint? entry
  once : ∀ address ∈ addresses,
    ∃! i : Nat, (entries.map endpoint?)[i]? = some (denoted? defaultPort address)
  ordered : entries.Pairwise fun entry other =>
    (addresses.map (denoted? defaultPort)).idxOf (endpoint? entry) <
      (addresses.map (denoted? defaultPort)).idxOf (endpoint? other)
  stable : ∀ port, normalizeAll entries port = .ok entries

section Listing

variable {addresses entries texts : List String} {address defaultPort : String}

theorem normalizeAll_eq_ok_iff : normalizeAll addresses defaultPort = .ok entries ↔
    ∃ texts : List String, addresses.map (normalize · defaultPort) = texts.map .ok ∧
      entries = distinct texts := by
  unfold normalizeAll
  simp only [← Except.mapM_eq_ok_iff]
  constructor
  · intro done
    cases normalized : addresses.mapM (normalize · defaultPort) with
    | error e => rw [normalized] at done; cases done
    | ok texts =>
      rw [normalized] at done
      cases done
      exact ⟨texts, rfl, rfl⟩
  · rintro ⟨texts, normalized, rfl⟩
    rw [normalized]
    rfl

theorem mem_of_normalized {text : String}
    (normalized : addresses.map (normalize · defaultPort) = texts.map .ok) (member : text ∈ texts) :
    ∃ address ∈ addresses, normalize address defaultPort = .ok text := by
  have result : (.ok text : Except AddressError String) ∈ addresses.map (normalize · defaultPort) := by
    rw [normalized]
    exact List.mem_map_of_mem member
  exact List.mem_map.1 result

/-- What a list of addresses comes to is complete. -/
theorem split_of_normalizeAll (done : normalizeAll addresses defaultPort = .ok entries) :
    ∀ entry ∈ entries, ∃ e : Endpoint, split entry = .ok e := by
  intro entry listed
  obtain ⟨texts, normalized, rfl⟩ := normalizeAll_eq_ok_iff.1 done
  obtain ⟨address, -, came⟩ := mem_of_normalized normalized (mem_distinct.1 listed)
  exact split_of_normalize came

theorem map_denoted? (normalized : addresses.map (normalize · defaultPort) = texts.map .ok) :
    addresses.map (denoted? defaultPort) = texts.map endpoint? := by
  have composed := congrArg (List.map fun result => result.toOption.bind endpoint?) normalized
  rw [List.map_map, List.map_map] at composed
  exact composed

end Listing

section Canonical

variable {addresses entries texts : List String} {name address defaultPort text : String}
  {e : Endpoint}

theorem normalize_join (valid : e.Valid) (port : String) : normalize e.join port = .ok e.join := by
  unfold normalize
  rw [valid.split_join]

theorem endpoint?_join (valid : e.Valid) : endpoint? e.join = some e :=
  endpoint?_eq_some_iff.2 valid.split_join

theorem join_of_normalize (free : Free marks defaultPort.toList)
    (plain : ∀ name, ¬ NameInBrackets name address)
    (done : normalize address defaultPort = .ok text) :
    ∃ e : Endpoint, e.Valid ∧ text = e.join := by
  obtain ⟨e, normalized⟩ := normalized_of_normalize free done
  cases normalized with
  | whole read => exact ⟨e, (split_eq_ok_iff.1 read).1, rfl⟩
  | completed valid => exact ⟨_, valid, rfl⟩
  | bracketed inside => exact absurd inside (plain _)

theorem NameInBrackets.not_mem (inside : NameInBrackets name address) : ':' ∉ address.toList := by
  rw [inside.1]
  have outside : ':' ∉ name.toList := inside.2.not_mem (by decide)
  simp [outside]

theorem NameInBrackets.toList_join (inside : NameInBrackets name address) :
    (Endpoint.join ⟨address, defaultPort⟩).toList =
      '[' :: name.toList ++ ']' :: ':' :: defaultPort.toList := by
  rw [Endpoint.toList_join, joinChars, if_neg inside.not_mem, inside.1, List.append_assoc,
    List.singleton_append]

theorem NameInBrackets.split_join (free : Free marks defaultPort.toList)
    (inside : NameInBrackets name address) :
    split (Endpoint.join ⟨address, defaultPort⟩) = .ok ⟨name, defaultPort⟩ := by
  rw [split_eq_ok_iff, inside.toList_join]
  exact ⟨⟨(free_marks_iff.1 inside.2).2, free⟩, .bracketed⟩

theorem NameInBrackets.normalize_eq (free : Free marks defaultPort.toList)
    (inside : NameInBrackets name address) :
    normalize address defaultPort = .ok (Endpoint.join ⟨address, defaultPort⟩) := by
  unfold normalize
  split
  · next e read => exact absurd (split_eq_ok_iff.1 read).2.colon inside.not_mem
  · dsimp only
    rw [inside.split_join free]

theorem NameInBrackets.join_ne (free : Free marks defaultPort.toList)
    (inside : NameInBrackets name address) (valid : e.Valid) :
    Endpoint.join ⟨address, defaultPort⟩ ≠ e.join := by
  intro same
  have read := inside.split_join free
  rw [same, valid.split_join] at read
  cases read
  have chars := congrArg (fun text => text.toList.length) same
  have outside : ':' ∉ name.toList := inside.2.not_mem (by decide)
  rw [inside.toList_join, Endpoint.toList_join, joinChars, if_neg outside] at chars
  simp only [List.length_append, List.length_cons] at chars
  omega

/-- Texts that are written as their endpoints are list them. -/
theorem lists_of_canonical
    (normalized : addresses.map (normalize · defaultPort) = texts.map .ok)
    (canonical : ∀ text ∈ texts, ∃ e : Endpoint, e.Valid ∧ text = e.join) :
    Lists defaultPort addresses (distinct texts) := by
  -- Such texts are told apart by their endpoints, so dropping repetitions drops the same of both.
  have apart : ∀ x ∈ texts, ∀ y ∈ texts, endpoint? x = endpoint? y → x = y := by
    intro x member y other same
    obtain ⟨e, valid, rfl⟩ := canonical x member
    obtain ⟨d, otherValid, rfl⟩ := canonical y other
    rw [endpoint?_join valid, endpoint?_join otherValid] at same
    rw [Option.some.inj same]
  have endpoints : (distinct texts).map endpoint? = distinct (texts.map endpoint?) :=
    map_distinct apart
  have denoted := map_denoted? normalized
  exact {
    complete := by
      intro entry member
      obtain ⟨e, valid, rfl⟩ := canonical entry (mem_distinct.1 member)
      rw [endpoint?_join valid]
      rfl
    apart := by
      have nodup := nodup_distinct (texts.map endpoint?)
      rw [← endpoints] at nodup
      exact List.pairwise_map.1 nodup
    known := by
      intro entry member
      obtain ⟨address, given, done⟩ := mem_of_normalized normalized (mem_distinct.1 member)
      refine ⟨address, given, ?_⟩
      unfold denoted?
      rw [done]
      rfl
    once := by
      intro address given
      rw [endpoints]
      refine existsUnique_place (nodup_distinct _) (mem_distinct.2 ?_)
      rw [← denoted]
      exact List.mem_map_of_mem given
    ordered := by
      have ordered := distinct_ordered (texts.map endpoint?)
      rw [← endpoints, ← denoted, List.pairwise_map] at ordered
      exact ordered
    stable := by
      intro port
      refine normalizeAll_eq_ok_iff.2
        ⟨distinct texts, List.map_congr_left fun entry member => ?_,
          (distinct_of_nodup (nodup_distinct _)).symm⟩
      obtain ⟨e, valid, rfl⟩ := canonical entry (mem_distinct.1 member)
      exact normalize_join valid port }

end Canonical

/-- A list of addresses comes to a list of their endpoints exactly when there is no name in
brackets among them. -/
theorem normalizeAll_lists_iff {addresses entries : List String} {defaultPort : String}
    (free : Free marks defaultPort.toList)
    (done : normalizeAll addresses defaultPort = .ok entries) :
    Lists defaultPort addresses entries ↔
      ∀ address ∈ addresses, ∀ name, ¬ NameInBrackets name address := by
  obtain ⟨texts, normalized, rfl⟩ := normalizeAll_eq_ok_iff.1 done
  constructor
  · intro lists address given name inside
    -- The name keeps its brackets, and nothing that is complete is normalized to that.
    have result := List.mem_map_of_mem (f := (normalize · defaultPort)) given
    rw [normalized, inside.normalize_eq free] at result
    obtain ⟨text, member, same⟩ := List.mem_map.1 result
    cases same
    obtain ⟨again, stable, same⟩ := normalizeAll_eq_ok_iff.1 (lists.stable defaultPort)
    have kept := mem_distinct.2 member
    rw [same] at kept
    obtain ⟨entry, listed, came⟩ := mem_of_normalized stable (mem_distinct.1 kept)
    obtain ⟨e, read⟩ := Option.isSome_iff_exists.1 (lists.complete entry listed)
    have read := endpoint?_eq_some_iff.1 read
    unfold normalize at came
    rw [read] at came
    exact inside.join_ne free (split_eq_ok_iff.1 read).1 (Except.ok.inj came).symm
  · intro plain
    refine lists_of_canonical normalized fun text member => ?_
    obtain ⟨address, given, done⟩ := mem_of_normalized normalized member
    exact join_of_normalize free (plain address given) done

theorem both_versions_listed : Lists "9244" ["::1", "127.0.0.1", "[::1]:9244"]
    ["[::1]:9244", "127.0.0.1:9244"] := by
  refine (normalizeAll_lists_iff (by decide) (by rfl)).2 ?_
  rintro address given name ⟨inside, -⟩
  have closed : address.toList.getLast? = some ']' := by
    rw [inside, List.getLast?_concat]
  have opened : ∀ address ∈ ["::1", "127.0.0.1", "[::1]:9244"],
      address.toList.getLast? ≠ some ']' := by decide
  exact opened address given closed

/-- Beside the name itself, a name in brackets is listed for the same endpoint. -/
theorem name_in_brackets_is_listed_twice :
    ¬ ∀ (addresses entries : List String) (defaultPort : String), Free marks defaultPort.toList →
      normalizeAll addresses defaultPort = .ok entries → Lists defaultPort addresses entries := by
  intro lists
  have done : normalizeAll ["[localhost]", "localhost"] "9244" =
      .ok ["[localhost]:9244", "localhost:9244"] := by rfl
  have listed := (lists _ _ _ (by decide) done).apart
  exact (List.pairwise_cons.1 listed).1 _ List.mem_cons_self (by decide +kernel)

end WalletSetup.Address
