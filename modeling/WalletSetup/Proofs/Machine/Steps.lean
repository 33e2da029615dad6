import Mathlib.Order.Defs.Unbundled
import WalletSetup.Machine
import WalletSetup.Proofs.Data.Results

/-! How steps on the machine run: one after another and inside other steps. A relation that every
step keeps between the machine before it and the machine after it is kept by all of them together,
however they end. -/

set_option autoImplicit false

namespace WalletSetup.Act

open WalletSetup.Text

variable {σ ε δ α β : Type}

@[simp] theorem run_pure (a : α) (m : σ) :
    (pure a : ExceptT ε (StateM σ) α).run m = (.ok a, m) := rfl

@[simp] theorem run_throw (e : ε) (m : σ) :
    (throw e : ExceptT ε (StateM σ) α).run m = (.error e, m) := rfl

@[simp] theorem run_get (m : σ) : (get : ExceptT ε (StateM σ) σ).run m = (.ok m, m) := rfl

@[simp] theorem run_modify (change : σ → σ) (m : σ) :
    (modify change : ExceptT ε (StateM σ) Unit).run m = (.ok (), change m) := rfl

@[simp] theorem run_say (s : String) (m : Machine) :
    (Machine.say s : Act ε Unit).run m = (.ok (), { m with terminal := m.terminal.print s }) := rfl

@[simp] theorem run_log (subsystem : String) (severity : Log.Severity) (message : String)
    (m : Machine) : (Machine.log subsystem severity message : Act ε Unit).run m =
      (.ok (), { m with journal := m.journal.add ⟨subsystem, severity, message⟩ }) := rfl

@[simp] theorem run_draw (host : Host) (n : Nat) (m : Machine) :
    (Machine.draw host n : Act ε Bytes).run m =
      (.ok (Machine.randomBytes host.entropy m.drawn n), { m with drawn := m.drawn + n }) := rfl

theorem run_bind (act : ExceptT ε (StateM σ) α) (next : α → ExceptT ε (StateM σ) β) (m : σ) :
    (act >>= next).run m = match act.run m with
      | (.ok a, after) => (next a).run after
      | (.error e, after) => (.error e, after) := by
  simp only [ExceptT.run, bind, ExceptT.bind, ExceptT.mk, StateT.bind]
  cases act m with
  | mk result after => cases result <;> rfl

theorem run_bind_congr {act : ExceptT ε (StateM σ) α} {next other : α → ExceptT ε (StateM σ) β}
    {m : σ} (alike : ∀ a middle, act.run m = (.ok a, middle) →
      (other a).run middle = (next a).run middle) :
    (act >>= other).run m = (act >>= next).run m := by
  rw [run_bind, run_bind]
  rcases ended : act.run m with ⟨_ | a, middle⟩
  · rfl
  · exact alike a middle ended

@[simp] theorem run_adapt (wrap : ε → δ) (act : ExceptT ε (StateM σ) α) (m : σ) :
    (act.adapt wrap).run m = ((act.run m).1.mapError wrap, (act.run m).2) := rfl

@[simp] theorem run_discard (act : ExceptT ε (StateM σ) α) (m : σ) :
    (discard act).run m = ((act.run m).1.map fun _ => ⟨⟩, (act.run m).2) := by
  change ((do let _ ← act; pure ⟨⟩ : ExceptT ε (StateM σ) PUnit)).run m = _
  rw [run_bind]
  rcases act.run m with ⟨_ | _, after⟩ <;> rfl

section Inversion

variable {act : ExceptT ε (StateM σ) α} {next : α → ExceptT ε (StateM σ) β} {m after : σ}

/-- The steps up to a success have all succeeded. -/
theorem bind_eq_ok {b : β} (same : (act >>= next).run m = (.ok b, after)) :
    ∃ a middle, act.run m = (.ok a, middle) ∧ (next a).run middle = (.ok b, after) := by
  rw [run_bind] at same
  rcases first : act.run m with ⟨_ | a, middle⟩
  · rw [first] at same
    cases same
  · rw [first] at same
    exact ⟨a, middle, rfl, same⟩

/-- A failure is one of the first steps, or one of the steps after their success. -/
theorem bind_eq_error {e : ε} (same : (act >>= next).run m = (.error e, after)) :
    act.run m = (.error e, after) ∨
      ∃ a middle, act.run m = (.ok a, middle) ∧ (next a).run middle = (.error e, after) := by
  rw [run_bind] at same
  rcases first : act.run m with ⟨_ | a, middle⟩
  · rw [first] at same
    cases same
    exact .inl rfl
  · rw [first] at same
    exact .inr ⟨a, middle, rfl, same⟩

theorem adapt_eq_ok {wrap : ε → δ} {a : α} (same : (act.adapt wrap).run m = (.ok a, after)) :
    act.run m = (.ok a, after) := by
  rw [run_adapt, Prod.mk.injEq, Except.mapError_eq_ok] at same
  exact Prod.ext same.1 same.2

theorem discard_eq_ok {u : PUnit} (same : (discard act).run m = (.ok u, after)) :
    ∃ a, act.run m = (.ok a, after) := by
  rw [run_discard, Prod.mk.injEq] at same
  rcases ended : act.run m with ⟨_ | a, middle⟩
  · rw [ended] at same
    cases same.1
  · rw [ended] at same
    exact ⟨a, Prod.ext rfl same.2⟩

end Inversion

/-- However the steps end, the machine after them is related to the one before. -/
def Within (R : Machine → Machine → Prop) (act : Act ε α) : Prop := ∀ m, R m (act.run m).2

namespace Within

variable {R : Machine → Machine → Prop} {act : Act ε α} {next : α → Act ε β}

theorem pure [Std.Refl R] (a : α) : Within R (pure a : Act ε α) := fun m => refl m

theorem throw [Std.Refl R] (e : ε) : Within R (throw e : Act ε α) := fun m => refl m

theorem get [Std.Refl R] : Within R (get : Act ε Machine) := fun m => refl m

theorem mono {S : Machine → Machine → Prop} (weaker : ∀ {m n}, R m n → S m n)
    (kept : Within R act) : Within S act := fun m => weaker (kept m)

theorem bind [IsTrans Machine R] (first : Within R act) (rest : ∀ a, Within R (next a)) :
    Within R (act >>= next) := by
  intro m
  have reached := first m
  rw [run_bind]
  rcases ended : act.run m with ⟨_ | a, middle⟩
  · rw [ended] at reached
    exact reached
  · rw [ended] at reached
    exact IsTrans.trans _ _ _ reached (rest a middle)

theorem related {m after : Machine} {result : Except ε α} (kept : Within R act)
    (ended : act.run m = (result, after)) : R m after := by
  have reached := kept m
  rw [ended] at reached
  exact reached

end Within

/-- Whenever the steps fail, it is with an error of this kind. -/
def Fails (p : ε → Prop) (act : Act ε α) : Prop :=
  ∀ m after e, act.run m = (.error e, after) → p e

namespace Fails

variable {p : ε → Prop} {act : Act ε α} {next : α → Act ε β}

theorem pure (a : α) : Fails p (pure a : Act ε α) := fun _ _ _ same => by cases same

theorem throw {e : ε} (known : p e) : Fails p (throw e : Act ε α) := by
  intro m after e same
  cases same
  exact known

theorem get : Fails p (get : Act ε Machine) := fun _ _ _ same => by cases same

theorem modify (change : Machine → Machine) : Fails p (modify change : Act ε Unit) :=
  fun _ _ _ same => by cases same

theorem bind (first : Fails p act) (rest : ∀ a, Fails p (next a)) : Fails p (act >>= next) := by
  intro m after e same
  rcases bind_eq_error same with failed | ⟨a, middle, -, failed⟩
  · exact first _ _ _ failed
  · exact rest a _ _ _ failed

end Fails

/-- Whenever the steps fail, the machine after them is related to the one before. -/
def FailsWithin (R : Machine → Machine → Prop) (act : Act ε α) : Prop :=
  ∀ m after e, act.run m = (.error e, after) → R m after

namespace FailsWithin

variable {R : Machine → Machine → Prop} {act : Act ε α} {next : α → Act ε β}

theorem of_within (kept : Within R act) : FailsWithin R act := by
  intro m after e same
  have reached := kept m
  rw [same] at reached
  exact reached

theorem bind [IsTrans Machine R] (first : Within R act) (rest : ∀ a, FailsWithin R (next a)) :
    FailsWithin R (act >>= next) := by
  intro m after e same
  have reached := first m
  rcases bind_eq_error same with failed | ⟨a, middle, done, failed⟩
  · rw [failed] at reached
    exact reached
  · rw [done] at reached
    exact IsTrans.trans _ _ _ reached (rest a _ _ _ failed)

theorem last (first : FailsWithin R act) (rest : ∀ a, Fails (fun _ => False) (next a)) :
    FailsWithin R (act >>= next) := by
  intro m after e same
  rcases bind_eq_error same with failed | ⟨a, middle, -, failed⟩
  · exact first _ _ _ failed
  · exact (rest a _ _ _ failed).elim

end FailsWithin

/-- Two runs side by side: they fail with the same error or succeed with results that are related,
and what they leave is related. -/
structure Paired (R : α → β → Prop) (M : σ → σ → Prop) (one : Except ε α × σ)
    (other : Except ε β × σ) : Prop where
  result : Except.Alike R one.1 other.1
  left : M one.2 other.2

namespace Paired

variable {γ κ : Type} {R : α → β → Prop} {S : γ → κ → Prop} {M N : σ → σ → Prop}
  {act : ExceptT ε (StateM σ) α} {otherAct : ExceptT ε (StateM σ) β} {m n : σ}

theorem refl {one : Except ε α × σ} : Paired Eq Eq one one := ⟨.refl, rfl⟩

theorem eq {one other : Except ε α × σ} (paired : Paired Eq Eq one other) : other = one :=
  Prod.ext paired.result.eq paired.left.symm

theorem mono {T : α → β → Prop} {one : Except ε α × σ} {other : Except ε β × σ}
    (weaker : ∀ {a b}, R a b → T a b) (paired : Paired R M one other) : Paired T M one other :=
  ⟨paired.result.mono weaker, paired.left⟩

theorem pure {a : α} {b : β} (related : R a b) (left : M m n) :
    Paired R M ((pure a : ExceptT ε (StateM σ) α).run m)
      ((pure b : ExceptT ε (StateM σ) β).run n) :=
  ⟨.ok related, left⟩

theorem throw (e : ε) (left : M m n) : Paired R M ((throw e : ExceptT ε (StateM σ) α).run m)
    ((throw e : ExceptT ε (StateM σ) β).run n) :=
  ⟨.error e, left⟩

theorem bind {next : α → ExceptT ε (StateM σ) γ} {otherNext : β → ExceptT ε (StateM σ) κ}
    (first : Paired R M (act.run m) (otherAct.run n)) (weaker : ∀ m n, M m n → N m n)
    (rest : ∀ a b m n, R a b → M m n → Paired S N ((next a).run m) ((otherNext b).run n)) :
    Paired S N ((act >>= next).run m) ((otherAct >>= otherNext).run n) := by
  rw [run_bind, run_bind]
  generalize act.run m = one at first
  generalize otherAct.run n = other at first
  obtain ⟨result, middle⟩ := one
  obtain ⟨otherResult, otherMiddle⟩ := other
  obtain ⟨alike, left⟩ := first
  cases alike with
  | error e => exact ⟨.error e, weaker _ _ left⟩
  | ok related => exact rest _ _ _ _ related left

/-- Steps after which the relation still holds that has held after the first ones. -/
theorem next {next : α → ExceptT ε (StateM σ) γ} {otherNext : β → ExceptT ε (StateM σ) κ}
    (first : Paired R M (act.run m) (otherAct.run n))
    (rest : ∀ a b m n, R a b → M m n → Paired S M ((next a).run m) ((otherNext b).run n)) :
    Paired S M ((act >>= next).run m) ((otherAct >>= otherNext).run n) :=
  first.bind (fun _ _ related => related) rest

theorem same [Std.Refl N] {next : α → ExceptT ε (StateM σ) γ}
    {otherNext : α → ExceptT ε (StateM σ) κ}
    (rest : ∀ a m, Paired S N ((next a).run m) ((otherNext a).run m)) :
    Paired S N ((act >>= next).run m) ((act >>= otherNext).run m) := by
  apply bind refl
  · rintro m _ rfl
    exact Std.Refl.refl m
  · rintro a _ m _ rfl rfl
    exact rest a m

theorem adapt (wrap : ε → δ) (paired : Paired R M (act.run m) (otherAct.run n)) :
    Paired R M ((act.adapt wrap).run m) ((otherAct.adapt wrap).run n) :=
  ⟨paired.result.mapError wrap, paired.left⟩

theorem discard (paired : Paired R M (act.run m) (otherAct.run n)) :
    Paired Eq M ((discard act).run m) ((discard otherAct).run n) := by
  exact paired.next fun _ _ _ _ _ related => .pure rfl related

end Paired

end WalletSetup.Act

namespace WalletSetup

def Host.plain : Host where
  environment := ⟨[("HOME", "/home/user")], [], none⟩
  platform := .other
  resolver := .ok ["127.0.0.1"]
  now := ⟨1700000000000000⟩
  stamps := .ofInstant
  rounds := 1
  diskFull := false
  entropy := [0]

end WalletSetup
