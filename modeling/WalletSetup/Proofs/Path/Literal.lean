import WalletSetup.Proofs.Path.Expansion
import WalletSetup.Proofs.Text.Cutting

/-! Paths that refer to no variable. Expansion makes the same of them whatever the variables are, but
for the home directories, and no reference comes in unless a home directory brings it. -/

set_option autoImplicit false

namespace WalletSetup.Path

open WalletSetup.Text

def Literal (path : String) : Prop := '$' ∉ path.toList

instance (path : String) : Decidable (Literal path) :=
  inferInstanceAs (Decidable ('$' ∉ path.toList))

theorem literal_ofList_iff {cs : List Char} : Literal (String.ofList cs) ↔ '$' ∉ cs := by
  rw [Literal, String.toList_ofList]

theorem Literal.append {path other : String} (literal : Literal path) (otherLiteral : Literal other) :
    Literal (path ++ other) := by
  unfold Literal
  rw [String.toList_append, List.mem_append, not_or]
  exact ⟨literal, otherLiteral⟩

namespace Parts

def IsLiteral (p : Parts) : Prop := ∀ name ∈ p.names, '$' ∉ name

variable {p q : Parts}

theorem isLiteral_ofChars {cs : List Char} (literal : '$' ∉ cs) : (ofChars cs).IsLiteral := by
  intro name known inside
  exact literal (mem_of_mem_splitOn (List.mem_filter.1 known).1 inside)

theorem IsLiteral.toChars (literal : p.IsLiteral) : '$' ∉ p.toChars := by
  have written : '$' ∉ List.replicate p.slashes '/' ++ joinWith ['/'] p.names := by
    rw [List.mem_append, not_or]
    constructor
    · exact fun inside => absurd (List.eq_of_mem_replicate inside) (by decide)
    · intro inside
      rcases mem_joinWith inside with slash | ⟨name, known, inside⟩
      · exact absurd (List.mem_singleton.1 slash) (by decide)
      · exact literal name known inside
  unfold Parts.toChars
  split
  · decide
  · exact written

theorem IsLiteral.render (literal : p.IsLiteral) : Literal p.render :=
  literal_ofList_iff.2 literal.toChars

theorem IsLiteral.append (literal : p.IsLiteral) (otherLiteral : q.IsLiteral) :
    (p.append q).IsLiteral := by
  unfold Parts.append
  split
  · intro name known
    rcases List.mem_append.1 known with known | known
    · exact literal name known
    · exact otherLiteral name known
  · exact otherLiteral

theorem IsLiteral.child (literal : p.IsLiteral) {name : String} (plain : Literal name) :
    (p.child name).IsLiteral :=
  literal.append (isLiteral_ofChars plain)

theorem mem_pushName {rooted : Bool} {done : List Component} {name other : Component}
    (known : other ∈ pushName rooted done name) : other = name ∨ other ∈ done ∨ other = parent := by
  unfold pushName at known
  split at known
  · exact (List.mem_cons.1 known).imp_right .inl
  · split at known
    · split at known
      · exact nomatch known
      · exact .inr (.inr (List.mem_singleton.1 known))
    · split at known
      · rcases List.mem_cons.1 known with same | known
        · exact .inr (.inr same)
        · exact .inr (.inl known)
      · exact .inr (.inl (List.mem_cons_of_mem _ known))

theorem mem_foldl_pushName {rooted : Bool} {names done : List Component} {other : Component}
    (known : other ∈ names.foldl (pushName rooted) done) :
    other ∈ names ∨ other ∈ done ∨ other = parent := by
  induction names generalizing done with
  | nil => exact .inr (.inl known)
  | cons first rest ih =>
    rcases ih known with later | pushed | up
    · exact .inl (List.mem_cons_of_mem _ later)
    · rcases mem_pushName pushed with rfl | before | up
      · exact .inl List.mem_cons_self
      · exact .inr (.inl before)
      · exact .inr (.inr up)
    · exact .inr (.inr up)

/-- Nothing comes into the normal form but what leads upwards. -/
theorem mem_normal {name : Component} (known : name ∈ p.normal.names) :
    name ∈ p.names ∨ name = parent := by
  rcases mem_foldl_pushName (List.mem_reverse.1 known) with given | nothing | up
  · exact .inl given
  · exact nomatch nothing
  · exact .inr up

theorem IsLiteral.normal (literal : p.IsLiteral) : p.normal.IsLiteral := by
  intro name known
  rcases mem_normal known with given | rfl
  · exact literal name given
  · decide

end Parts

theorem Literal.normalize {path : String} (literal : Literal path) : Literal (normalize path) :=
  (Parts.isLiteral_ofChars literal).normal.render

theorem Literal.beneath {directory name : String} (literal : Literal directory)
    (plain : Literal name) : Literal (beneath directory name) := by
  unfold Path.beneath
  split
  · exact literal.append plain
  · exact literal.append plain
  · exact (literal.append (by decide)).append plain

def homeVariables : List String := ["HOME", "LOCALAPPDATA", "APPDATA"]

/-- Environments that differ at most in other variables than these. -/
structure SameHomes (env other : Environment) : Prop where
  vars : ∀ name ∈ homeVariables, other.get? name = env.get? name
  users : other.users = env.users
  account : other.accountHome = env.accountHome

structure LiteralHomes (env : Environment) : Prop where
  vars : ∀ name ∈ homeVariables, ∀ value, env.get? name = some value → Literal value
  users : ∀ user home, env.users.lookup user = some home → Literal home
  account : ∀ home, env.accountHome = some home → Literal home

section Homes

variable {env other : Environment}

theorem SameHomes.home?_eq (same : SameHomes env other) : other.home? = env.home? := by
  unfold Environment.home?
  rw [same.vars _ (by decide), same.account]

theorem SameHomes.homeDirectory_eq (same : SameHomes env other) (user : List Char) :
    homeDirectory other user = homeDirectory env user := by
  unfold homeDirectory Environment.homeOf?
  rw [same.home?_eq, same.users]

theorem SameHomes.dataDirectory?_eq (same : SameHomes env other) (platform : Platform)
    (application : String) :
    dataDirectory? other platform application = dataDirectory? env platform application := by
  unfold dataDirectory? Environment.nonempty? homeParts?
  rw [same.home?_eq, same.vars _ (by decide), same.vars _ (by decide)]

theorem not_mem_homePath {home : List Char} (literal : '$' ∉ home) : '$' ∉ homePath home := by
  have cut : '$' ∉ (home.reverse.dropWhile (· = '/')).reverse := by
    intro inside
    exact literal (List.mem_reverse.1 ((List.dropWhile_suffix _).subset (List.mem_reverse.1 inside)))
  unfold homePath
  split
  · decide
  · exact cut

namespace LiteralHomes

variable (homes : LiteralHomes env)

include homes

theorem home? {home : String} (known : env.home? = some home) : Literal home := by
  unfold Environment.home? at known
  cases own : env.get? "HOME" with
  | some value =>
    rw [own] at known
    cases known
    exact homes.vars "HOME" (by decide) home own
  | none =>
    rw [own] at known
    exact homes.account home known

theorem homeOf? {user home : String} (known : env.homeOf? user = some home) : Literal home := by
  unfold Environment.homeOf? at known
  split at known
  · exact homes.home? known
  · exact homes.users user home known

theorem homeDirectory (user : List Char) : '$' ∉ homeDirectory env user := by
  unfold Path.homeDirectory
  split
  · decide
  · next home known =>
    obtain ⟨value, found, rfl⟩ := Option.map_eq_some_iff.1 known
    split
    · decide
    · exact not_mem_homePath (homes.homeOf? found)

theorem homeParts? {p : Parts} (known : homeParts? env = some p) : p.IsLiteral := by
  unfold Path.homeParts? at known
  split at known
  · cases known
  · next home found =>
    obtain ⟨value, own, rfl⟩ := Option.map_eq_some_iff.1 found
    split at known
    · cases known
    · cases known
      exact Parts.isLiteral_ofChars (not_mem_homePath (homes.home? own))

theorem nonempty? {name value : String} (base : name ∈ homeVariables)
    (known : env.nonempty? name = some value) : Literal value :=
  homes.vars name base value (Option.filter_eq_some_iff.1 known).1

theorem dataDirectory? {platform : Platform} {application : String} {p : Parts} (name : String)
    (named : String.ofList (application.toList.dropWhile (· = '.')) = name)
    (upper : Literal (upperFirst name)) (lower : Literal (lowerFirst name))
    (known : dataDirectory? env platform application = some p) : p.IsLiteral := by
  have roaming {base : String} (found : ((env.nonempty? "LOCALAPPDATA").orElse fun _ =>
      env.nonempty? "APPDATA") = some base) : Literal base := by
    rw [Option.orElse_eq_or, Option.or_eq_some_iff] at found
    rcases found with found | ⟨-, found⟩
    · exact homes.nonempty? (by decide) found
    · exact homes.nonempty? (by decide) found
  unfold Path.dataDirectory? at known
  dsimp only at known
  rw [named] at known
  split at known
  · cases known
    exact Parts.isLiteral_ofChars (by decide)
  · split at known
    · next found =>
      cases known
      exact (Parts.isLiteral_ofChars (roaming found)).child upper
    · obtain ⟨home, own, rfl⟩ := Option.map_eq_some_iff.1 known
      exact (((homes.homeParts? own).child (by decide)).child (by decide)).child upper
    · obtain ⟨home, own, rfl⟩ := Option.map_eq_some_iff.1 known
      exact (homes.homeParts? own).child lower
    · obtain ⟨home, own, rfl⟩ := Option.map_eq_some_iff.1 known
      exact (homes.homeParts? own).child (Literal.append (by decide) lower)

end LiteralHomes

end Homes

section Expand

variable {env other : Environment} {path : String}

/-- Without a reference a path is expanded by home directories alone. -/
theorem Literal.expand_eq (literal : Literal path) (same : SameHomes env other) :
    expand other path = expand env path := by
  unfold expand
  rw [expandVariables_of_not_mem literal, expandVariables_of_not_mem literal]
  simp only [same.homeDirectory_eq]

theorem Literal.expand (literal : Literal path) (homes : LiteralHomes env) :
    Literal (expand env path) := by
  unfold Path.expand
  split
  · exact literal
  · rw [expandVariables_of_not_mem literal]
    split
    · next rest tilde =>
      have below : '$' ∉ (rest.dropWhile (· ≠ '/')).dropWhile (· = '/') := by
        intro inside
        have within := (List.dropWhile_suffix _).subset ((List.dropWhile_suffix _).subset inside)
        exact literal (tilde ▸ List.mem_cons_of_mem _ within)
      exact ((literal_ofList_iff.2 (homes.homeDirectory _)).beneath
        (literal_ofList_iff.2 below)).normalize
    · rw [String.ofList_toList]
      exact literal.normalize

end Expand

end WalletSetup.Path
