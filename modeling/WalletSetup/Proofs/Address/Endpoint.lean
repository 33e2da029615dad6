import Mathlib.Data.List.Basic
import WalletSetup.Address.Endpoint
import WalletSetup.Proofs.Data.Results

/-! How endpoints are written, and what normalizing an address makes of it: always an address that
reads as an endpoint, and the usual way to write it but for a name that came in brackets without a
port. -/

set_option autoImplicit false

namespace WalletSetup.Address

open WalletSetup.Text

def marks : List Char := ':' :: brackets

structure Endpoint.Valid (e : Endpoint) : Prop where
  host : Free brackets e.host.toList
  port : Free marks e.port.toList

/-- The ways to write an endpoint: the host may stand in brackets, and has to if it has colons. -/
inductive Endpoint.Written (e : Endpoint) : List Char → Prop where
  | plain (single : ':' ∉ e.host.toList) : Written e (e.host.toList ++ ':' :: e.port.toList)
  | bracketed : Written e ('[' :: e.host.toList ++ ']' :: ':' :: e.port.toList)

theorem Free.of_subset {few many cs : List Char} (free : Free many cs) (sub : few ⊆ many) :
    Free few cs := fun c member marked => free c member (sub marked)

theorem Free.not_mem {marked cs : List Char} (free : Free marked cs) {c : Char} (mark : c ∈ marked) :
    c ∉ cs := fun member => free c member mark

theorem free_marks_iff {cs : List Char} : Free marks cs ↔ ':' ∉ cs ∧ Free brackets cs := by
  constructor
  · intro free
    exact ⟨free.not_mem (by decide), free.of_subset (by decide)⟩
  · rintro ⟨colon, free⟩ c member marked
    rcases List.mem_cons.1 marked with rfl | bracket
    · exact colon member
    · exact free c member bracket

section Reading

variable {cs host port : List Char}

theorem splitBracketed_eq_ok_iff : splitBracketed cs = .ok (host, port) ↔
    cs = host ++ ']' :: ':' :: port ∧ ']' ∉ host ∧ ':' ∉ port := by
  unfold splitBracketed
  constructor
  · intro read
    split at read
    · cases read
    · cases read
    · next cut =>
      obtain ⟨rfl, closed⟩ := cutFirst_eq_some_iff.1 cut
      split at read
      · cases read
      · next single =>
        cases read
        exact ⟨rfl, closed, single⟩
    · cases read
  · rintro ⟨rfl, closed, single⟩
    rw [cutFirst_eq_some_iff.2 ⟨rfl, closed⟩]
    exact if_neg single

theorem splitPlain_eq_ok_iff : splitPlain cs = .ok (host, port) ↔
    cs = host ++ ':' :: port ∧ ':' ∉ host ∧ ':' ∉ port := by
  unfold splitPlain
  constructor
  · intro read
    split at read
    · cases read
    · next cut =>
      obtain ⟨rfl, last⟩ := cutLast_eq_some_iff.1 cut
      split at read
      · cases read
      · next single =>
        cases read
        exact ⟨rfl, single, last⟩
  · rintro ⟨rfl, single, last⟩
    rw [cutLast_eq_some_iff.2 ⟨rfl, last⟩]
    exact if_neg single

def parts (cs : List Char) : Except Flaw (List Char × List Char) :=
  match cs with
  | '[' :: rest => splitBracketed rest
  | _ => splitPlain cs

def unbracketed (found : List Char × List Char) : Except Flaw (List Char × List Char) :=
  if ¬ Free brackets found.1 then .error .bracketInHost
  else if ¬ Free brackets found.2 then .error .bracketInPort
  else .ok found

theorem splitChars_eq (cs : List Char) : splitChars cs = parts cs >>= unbracketed := by
  fun_cases parts cs with
  | case1 rest => rfl
  | case2 =>
    unfold splitChars
    split
    · next rest other => exact absurd rfl (other rest)
    · rfl

theorem unbracketed_eq_ok_iff {found kept : List Char × List Char} :
    unbracketed found = .ok kept ↔ Free brackets kept.1 ∧ Free brackets kept.2 ∧ found = kept := by
  unfold unbracketed
  constructor
  · intro passed
    split at passed
    · cases passed
    · next hostFree =>
      split at passed
      · cases passed
      · next portFree =>
        cases passed
        exact ⟨Decidable.not_not.1 hostFree, Decidable.not_not.1 portFree, rfl⟩
  · rintro ⟨hostFree, portFree, rfl⟩
    rw [if_neg (Decidable.not_not.2 hostFree), if_neg (Decidable.not_not.2 portFree)]

theorem plain_ne_opened {rest : List Char} (free : Free brackets host) :
    host ++ ':' :: port ≠ '[' :: rest := by
  intro same
  cases host with
  | nil => cases same
  | cons c more =>
    obtain ⟨rfl, -⟩ := List.cons.inj same
    exact free.not_mem (by decide) List.mem_cons_self

theorem parts_eq_ok_iff (free : Free brackets host) : parts cs = .ok (host, port) ↔ ':' ∉ port ∧
    (cs = '[' :: host ++ ']' :: ':' :: port ∨ ':' ∉ host ∧ cs = host ++ ':' :: port) := by
  unfold parts
  split
  · next rest =>
    rw [splitBracketed_eq_ok_iff]
    constructor
    · rintro ⟨rfl, -, single⟩
      exact ⟨single, .inl rfl⟩
    · rintro ⟨single, written | ⟨-, written⟩⟩
      · exact ⟨List.tail_eq_of_cons_eq written, free.not_mem (by decide), single⟩
      · exact absurd written.symm (plain_ne_opened free)
  · next other =>
    rw [splitPlain_eq_ok_iff]
    constructor
    · rintro ⟨rfl, alone, single⟩
      exact ⟨single, .inr ⟨alone, rfl⟩⟩
    · rintro ⟨single, written | ⟨alone, written⟩⟩
      · exact absurd written (other _)
      · exact ⟨written, alone, single⟩

theorem splitChars_eq_ok_iff : splitChars cs = .ok (host, port) ↔
    Free brackets host ∧ Free marks port ∧
      (cs = '[' :: host ++ ']' :: ':' :: port ∨ ':' ∉ host ∧ cs = host ++ ':' :: port) := by
  rw [splitChars_eq, free_marks_iff]
  constructor
  · intro read
    obtain ⟨found, parted, passed⟩ := Except.bind_eq_ok read
    obtain ⟨hostFree, portFree, rfl⟩ := unbracketed_eq_ok_iff.1 passed
    obtain ⟨single, written⟩ := (parts_eq_ok_iff hostFree).1 parted
    exact ⟨hostFree, ⟨single, portFree⟩, written⟩
  · rintro ⟨hostFree, ⟨single, portFree⟩, written⟩
    rw [(parts_eq_ok_iff hostFree).2 ⟨single, written⟩]
    exact unbracketed_eq_ok_iff.2 ⟨hostFree, portFree, rfl⟩

theorem Endpoint.written_iff {e : Endpoint} : e.Written cs ↔
    cs = '[' :: e.host.toList ++ ']' :: ':' :: e.port.toList ∨
      ':' ∉ e.host.toList ∧ cs = e.host.toList ++ ':' :: e.port.toList := by
  constructor
  · rintro (single | -)
    · exact .inr ⟨single, rfl⟩
    · exact .inl rfl
  · rintro (rfl | ⟨single, rfl⟩)
    · exact .bracketed
    · exact .plain single

/-- An address reads as an endpoint exactly when it is a way to write it. -/
theorem split_eq_ok_iff {address : String} {e : Endpoint} :
    split address = .ok e ↔ e.Valid ∧ e.Written address.toList := by
  have read : split address = .ok e ↔
      splitChars address.toList = .ok (e.host.toList, e.port.toList) := by
    unfold split
    split
    · next host port found =>
      rw [found, Except.ok.injEq, Except.ok.injEq, Prod.mk.injEq]
      constructor
      · rintro rfl
        exact ⟨String.toList_ofList.symm, String.toList_ofList.symm⟩
      · rintro ⟨rfl, rfl⟩
        rw [String.ofList_toList, String.ofList_toList]
    · next flaw found =>
      rw [found]
      constructor <;> nofun
  rw [read, splitChars_eq_ok_iff, Endpoint.written_iff]
  constructor
  · rintro ⟨host, port, written⟩
    exact ⟨⟨host, port⟩, written⟩
  · rintro ⟨⟨host, port⟩, written⟩
    exact ⟨host, port, written⟩

end Reading

namespace Endpoint

variable {e : Endpoint}

theorem Written.colon {cs : List Char} (written : e.Written cs) : ':' ∈ cs := by
  cases written <;> simp

theorem toList_join (e : Endpoint) : e.join.toList = joinChars e.host.toList e.port.toList :=
  String.toList_ofList

theorem written_join (e : Endpoint) : e.Written e.join.toList := by
  rw [toList_join, joinChars]
  split
  · exact .bracketed
  · next single => exact .plain single

theorem Valid.split_join (valid : e.Valid) : split e.join = .ok e :=
  split_eq_ok_iff.2 ⟨valid, e.written_join⟩

end Endpoint

/-- A name in brackets and nothing else, as an address of version 6 is written. -/
def NameInBrackets (name address : String) : Prop :=
  address.toList = '[' :: name.toList ++ [']'] ∧ Free marks name.toList

/-- The ways in which normalization comes to an address `text` for an endpoint. -/
inductive Normalized (address defaultPort : String) : Endpoint → String → Prop where
  | whole {e : Endpoint} (read : split address = .ok e) : Normalized address defaultPort e e.join
  | completed (valid : Endpoint.Valid ⟨address, defaultPort⟩) :
      Normalized address defaultPort ⟨address, defaultPort⟩ (Endpoint.join ⟨address, defaultPort⟩)
  | bracketed {name : String} (inside : NameInBrackets name address) :
      Normalized address defaultPort ⟨name, defaultPort⟩ (Endpoint.join ⟨address, defaultPort⟩)

section Normalization

variable {address defaultPort text : String}

theorem split_of_normalize (done : normalize address defaultPort = .ok text) :
    ∃ e : Endpoint, split text = .ok e := by
  unfold normalize at done
  split at done
  · next e read =>
    cases done
    exact ⟨e, (split_eq_ok_iff.1 read).1.split_join⟩
  · dsimp only at done
    split at done
    · next e read =>
      cases done
      exact ⟨e, read⟩
    · cases done

/-- With the default port behind it, an address reads as a host, or as a name in brackets. -/
theorem normalized_of_split {e : Endpoint} (free : Free marks defaultPort.toList)
    (read : split (Endpoint.join ⟨address, defaultPort⟩) = .ok e) :
    Normalized address defaultPort e (Endpoint.join ⟨address, defaultPort⟩) := by
  obtain ⟨valid, written⟩ := split_eq_ok_iff.1 read
  obtain ⟨host, port⟩ := e
  have hostFree : Free brackets host.toList := valid.host
  have portFree : Free marks port.toList := valid.port
  rw [Endpoint.toList_join, joinChars, Endpoint.written_iff] at written
  dsimp only at written
  split at written
  · rcases written with same | ⟨-, same⟩
    · have closed : ']' ∉ host.toList := hostFree.not_mem (by decide)
      have after : ']' ∉ ':' :: port.toList := by
        rw [List.mem_cons, not_or]
        exact ⟨by decide, portFree.not_mem (by decide)⟩
      obtain ⟨sameHost, -, samePort⟩ := (List.append_cons_inj_of_notMem closed after).1
        (List.tail_eq_of_cons_eq same).symm
      obtain rfl := String.toList_inj.1 sameHost
      obtain rfl := String.toList_inj.1 (List.tail_eq_of_cons_eq samePort)
      exact .completed valid
    · exact absurd same.symm (plain_ne_opened hostFree)
  · next single =>
    -- Neither the address nor the port has a colon, so that the last one stands between them.
    have parted {before after : List Char}
        (same : address.toList ++ ':' :: defaultPort.toList = before ++ ':' :: after) :
        address.toList = before ∧ defaultPort.toList = after := by
      obtain ⟨sameBefore, -, sameAfter⟩ :=
        (List.append_cons_inj_of_notMem single (free.not_mem (by decide))).1 same
      exact ⟨sameBefore, sameAfter⟩
    rcases written with same | ⟨alone, same⟩
    · have reordered : '[' :: host.toList ++ ']' :: ':' :: port.toList =
          ('[' :: host.toList ++ [']']) ++ ':' :: port.toList := by
        rw [List.append_assoc, List.singleton_append]
      obtain ⟨inside, samePort⟩ := parted (same.trans reordered)
      obtain rfl := String.toList_inj.1 samePort
      have outside : ':' ∉ host.toList := by
        intro member
        rw [inside] at single
        exact single (List.mem_append_left _ (List.mem_cons_of_mem _ member))
      exact .bracketed ⟨inside, free_marks_iff.2 ⟨outside, hostFree⟩⟩
    · obtain ⟨sameHost, samePort⟩ := parted same
      obtain rfl := String.toList_inj.1 sameHost
      obtain rfl := String.toList_inj.1 samePort
      exact .completed valid

theorem normalized_of_normalize (free : Free marks defaultPort.toList)
    (done : normalize address defaultPort = .ok text) :
    ∃ e, Normalized address defaultPort e text := by
  unfold normalize at done
  split at done
  · next e read =>
    cases done
    exact ⟨e, .whole read⟩
  · dsimp only at done
    split at done
    · next e read =>
      cases done
      exact ⟨e, normalized_of_split free read⟩
    · cases done

end Normalization

end WalletSetup.Address
